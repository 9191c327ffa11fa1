import Stencil.Proofs.Template.Descent

/-!
# Reading with more room

The limit is asked for where a directive opens and nowhere else. Main statement: a text that is read without
a directive too deep is read the same under every higher limit, with the same blocks or the same flaw.
-/
namespace Stencil.Template

section

variable {limit limit' : Nat} (h : limit ≤ limit')

include h

theorem read_of_le {p : Progress} {t : Token} (hroom : ∀ u, read limit p t ≠ .error (.tooDeep u)) :
    read limit' p t = read limit p t := by
  unfold read at hroom ⊢
  cases hk : t.kind with
  | text => rfl
  | opening =>
    simp only [hk] at hroom ⊢
    by_cases hfull : p.stack.length ≥ limit
    · rw [if_pos hfull] at hroom
      exact absurd rfl (hroom t)
    · rw [if_neg hfull, if_neg (by omega)]
  | closing => rfl
  | finish => rfl

theorem foldlM_read_of_le (ts : List Token) (p : Progress)
    (hroom : ∀ u, ts.foldlM (read limit) p ≠ .error (.tooDeep u)) :
    ts.foldlM (read limit') p = ts.foldlM (read limit) p := by
  induction ts generalizing p with
  | nil => rfl
  | cons t ts ih =>
    rw [List.foldlM_cons] at hroom ⊢
    have hread : read limit' p t = read limit p t := by
      refine read_of_le h fun u hu => hroom u ?_
      rw [hu]
      rfl
    rw [List.foldlM_cons, hread]
    cases hp : read limit p t with
    | error r => rfl
    | ok q =>
      rw [hp] at hroom
      exact ih q hroom

theorem ofTokens_of_le {ts : List Token} (hroom : ∀ u, ofTokens limit ts ≠ .error (.tooDeep u)) :
    ofTokens limit' ts = ofTokens limit ts := by
  unfold ofTokens at hroom ⊢
  rw [foldlM_read_of_le h ts _ fun u hu => hroom u ?_]
  rw [hu]
  rfl

/-- A text that is not too deep is read the same under a higher limit. -/
theorem parseWithin_of_le {text : String}
    (hroom : ∀ activity, parseWithin limit text ≠ .error (.tooDeep limit activity)) :
    parseWithin limit' text = parseWithin limit text := by
  unfold parseWithin at hroom ⊢
  cases hscan : Token.scan text with
  | error m => rfl
  | ok ts =>
    simp only [hscan] at hroom ⊢
    have hdeep : ∀ u, ofTokens limit ts ≠ .error (.tooDeep u) := by
      intro u hu
      rw [hu] at hroom
      exact hroom _ rfl
    rw [ofTokens_of_le h hdeep]
    cases hread : ofTokens limit ts with
    | ok blocks => rfl
    | error r =>
      cases r with
      | flawed flaw t => rfl
      | tooDeep u => exact absurd hread (hdeep u)

end

end Stencil.Template
