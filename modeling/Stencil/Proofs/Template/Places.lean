import Mathlib
import Stencil.Proofs.Template.Pieces
import Stencil.Text.Split

/-!
# Where things are

The scanner moves its place character by character, and the reader of tokens blames tokens that it has put
aside. Main statement: every place that is told, of a token or of a flaw, is the one that the text in front
of it has, and what is left of the text there begins with the marker that is blamed.
-/
namespace Stencil

namespace Text

theorem lastIndexOf?_lineFeed (cs : List Char) : lastIndexOf? ['\n'] (cs ++ ['\n']) = some cs.length := by
  simp [lastIndexOf?, cutAt?]

theorem lastIndexOf?_append {c : Char} (hc : c ≠ '\n') (cs : List Char) :
    lastIndexOf? ['\n'] (cs ++ [c]) = lastIndexOf? ['\n'] cs := by
  simp [lastIndexOf?, cutAt?, List.isPrefixOf, Ne.symm hc, Function.comp_def]

theorem le_length_of_lastIndexOf? {needle s : List Char} {i : Nat} (h : lastIndexOf? needle s = some i) :
    i ≤ s.length := by
  obtain ⟨⟨before, after⟩, hcut, rfl⟩ := Option.map_eq_some_iff.1 h
  have hlength := congrArg List.length (cutAt?_eq_some hcut)
  simp only [List.length_reverse, List.length_append] at hlength
  change after.length ≤ s.length
  omega

namespace Place

/-- The place behind `offset` characters of a text: as many lines as line feeds stand before it, and as many
columns as characters since the last line feed. -/
def ofOffset (cs : List Char) (offset : Nat) : Place where
  offset := offset
  line := 1 + (cs.take offset).count '\n'
  column :=
    match lastIndexOf? ['\n'] (cs.take offset) with
    | some i => offset - i
    | none => offset + 1

theorem ofOffset_length (cs : List Char) :
    ofOffset cs cs.length = ⟨cs.length, 1 + cs.count '\n',
      match lastIndexOf? ['\n'] cs with
      | some i => cs.length - i
      | none => cs.length + 1⟩ := by
  rw [ofOffset, List.take_length]

/-- Moving over a text leads to the place that its line feeds tell. -/
theorem advance_start (cs : List Char) : start.advance cs = ofOffset cs cs.length := by
  induction cs using List.reverseRecOn with
  | nil => rfl
  | append_singleton cs c ih =>
    rw [advance_append, ih, advance_cons, advance_nil, step, ofOffset_length, ofOffset_length]
    by_cases hc : c = '\n'
    · subst hc
      simp [lastIndexOf?_lineFeed, Nat.add_assoc]
    · rw [lastIndexOf?_append hc]
      cases hlast : lastIndexOf? ['\n'] cs with
      | none => simp [hc]
      | some i =>
        have hi := le_length_of_lastIndexOf? hlast
        simp [hc]
        omega

theorem ofOffset_append (a b : List Char) : ofOffset (a ++ b) a.length = start.advance a := by
  rw [advance_start, ofOffset, ofOffset, List.take_left, List.take_length]

end Place

end Text

/-- The flaws that are found at an opening while its directive may still close. -/
def Flaw.isOfHeader : Flaw → Bool
  | .unmatchedClosing | .unclosed _ | .other _ => false
  | _ => true

namespace Template

open Text (Place)

/-! ### Tokens in their text -/

namespace Token

/-- A token stands where its piece does. -/
theorem mem_tokensFrom {p : Place} {pieces : List Piece} {t : Token} (h : t ∈ tokensFrom p pieces) :
    (∃ before q after, pieces = before ++ q :: after ∧ t = q.token (p.advance (spellAll before))) ∨
      t = ⟨.finish, "", p.advance (spellAll pieces)⟩ := by
  induction pieces generalizing p with
  | nil => exact .inr (List.mem_singleton.1 h)
  | cons q qs ih =>
    obtain rfl | h := List.mem_cons.1 h
    · exact .inl ⟨[], q, qs, rfl, rfl⟩
    · obtain ⟨before, q', after, rfl, rfl⟩ | rfl := ih h
      · refine .inl ⟨q :: before, q', after, rfl, ?_⟩
        rw [spellAll_cons, Place.advance_append]
      · right
        rw [spellAll_cons, Place.advance_append]

theorem spellAll_append (a b : List Piece) : spellAll (a ++ b) = spellAll a ++ spellAll b :=
  List.flatMap_append

theorem exists_pieces_of_scan {text : String} {tokens : List Token} (h : scan text = .ok tokens) :
    ∃ pieces, Admissible pieces ∧ spellAll pieces = text.toList ∧ tokens = tokensFrom Place.start pieces := by
  obtain ⟨pieces, hpieces, hspell⟩ := exists_pieces h
  have htokens := scanFrom_spellAll Place.start hpieces
  rw [hspell, ← scan, h, Except.ok.injEq] at htokens
  exact ⟨pieces, hpieces, hspell, htokens⟩

theorem place_of_mem_scan {text : String} {tokens : List Token} (h : scan text = .ok tokens) {t : Token}
    (ht : t ∈ tokens) : t.place = Place.ofOffset text.toList t.place.offset := by
  obtain ⟨pieces, -, hspell, rfl⟩ := exists_pieces_of_scan h
  obtain ⟨before, q, after, rfl, rfl⟩ | rfl := mem_tokensFrom ht
  · rw [← hspell, spellAll_append, Piece.place_token, Place.advance_offset]
    simp only [Place.start, Nat.zero_add]
    exact (Place.ofOffset_append _ _).symm
  · simp only [hspell, Place.advance_offset]
    simp only [Place.start, Nat.zero_add]
    exact Place.advance_start _

/-- What is left of the text where a marker stands. -/
theorem drop_of_mem_scan {text : String} {tokens : List Token} (h : scan text = .ok tokens) {t : Token}
    (ht : t ∈ tokens) (marker : t.kind = .opening ∨ t.kind = .closing) :
    ∃ before rest, text.toList = before ++ rest ∧ t.place = Place.start.advance before ∧
      (t.kind = .closing → closeMark <+: rest) ∧
      (t.kind = .opening → ∃ header behind, rest = openMark ++ header ++ '\n' :: behind ∧
        t.value = String.ofList (Text.trim header)) := by
  obtain ⟨pieces, -, hspell, rfl⟩ := exists_pieces_of_scan h
  obtain ⟨before, q, after, rfl, rfl⟩ | rfl := mem_tokensFrom ht
  · refine ⟨spellAll before, q.spell ++ spellAll after, ?_, q.place_token _, ?_, ?_⟩
    · rw [← hspell, spellAll_append, spellAll_cons]
    · intro kind
      cases q with
      | closing => exact ⟨spellAll after, rfl⟩
      | text run => cases kind
      | opening header => cases kind
    · intro kind
      cases q with
      | opening header => exact ⟨header, spellAll after, by simp [Piece.spell], rfl⟩
      | text run => cases kind
      | closing => cases kind
  · simp at marker

theorem followedBy_eq_error {t : Token} {scan : Except Malformed (List Token)} {m : Malformed}
    (h : followedBy t scan = .error m) : scan = .error m := by
  cases scan with
  | ok ts => cases h
  | error m' =>
    cases h
    rfl

/-- The text `cs` from `p` on ends in a header without a line feed, and `m` tells so. -/
def Unterminated (p : Place) (cs : List Char) (m : Malformed) : Prop :=
  ∃ before header, cs = before ++ (openMark ++ header) ∧ '\n' ∉ header ∧
    m = ⟨.unterminatedHeader, (p.advance before).line, (p.advance before).column,
      String.ofList (openMark ++ header)⟩

theorem Unterminated.behind {p : Place} {front cs : List Char} {m : Malformed}
    (h : Unterminated (p.advance front) cs m) : Unterminated p (front ++ cs) m := by
  obtain ⟨before, header, rfl, hline, hm⟩ := h
  refine ⟨front ++ before, header, (List.append_assoc _ _ _).symm, hline, ?_⟩
  rw [Place.advance_append]
  exact hm

theorem unterminated_of_scanFrom {p : Place} {cs : List Char} {m : Malformed}
    (h : scanFrom p cs = .error m) : Unterminated p cs m := by
  fun_induction scanFrom p cs with
  | case1 => cases h
  | case2 p cs hnone =>
    cases h
    exact ⟨[], cs, rfl, (splitLine_eq_none_iff cs).1 hnone, rfl⟩
  | case3 p cs header rest hsome ih =>
    have hcs : '!' :: '!' :: '%' :: cs = openMark ++ header ++ ['\n'] ++ rest := by
      simp [openMark, splitLine_eq_some hsome]
    rw [hcs]
    exact (ih (followedBy_eq_error h)).behind
  | case4 p cs ih =>
    have hcs : '%' :: '!' :: '!' :: cs = closeMark ++ cs := rfl
    rw [hcs]
    exact (ih (followedBy_eq_error h)).behind
  | case5 p c cs hopen hclose ih =>
    have whole : c :: cs = c :: run cs ++ afterRun cs := by rw [List.cons_append, run_append]
    rw [whole]
    exact (ih (followedBy_eq_error h)).behind

end Token

/-! ### Directives that close -/

/-- Tokens in which each directive that opens closes as well. -/
inductive Balanced : List Token → Prop
  | nil : Balanced []
  | text {t : Token} {ts : List Token} (kind : t.kind = .text) (others : Balanced ts) : Balanced (t :: ts)
  | directive {t c : Token} {body ts : List Token} (opening : t.kind = .opening) (inner : Balanced body)
      (closing : c.kind = .closing) (others : Balanced ts) : Balanced (t :: (body ++ c :: ts))

theorem Reads.balanced {limit depth : Nat} {inChoice : Bool} {ts rest : List Token} {items : List Item}
    (h : Reads limit depth inChoice ts items rest) : ∃ body, ts = body ++ rest ∧ Balanced body := by
  induction h with
  | nil => exact ⟨[], rfl, .nil⟩
  | stop => exact ⟨[], rfl, .nil⟩
  | blank kind _ _ ih =>
    obtain ⟨body, rfl, hbody⟩ := ih
    exact ⟨_ :: body, rfl, .text kind hbody⟩
  | text kind _ _ ih =>
    obtain ⟨body, rfl, hbody⟩ := ih
    exact ⟨_ :: body, rfl, .text kind hbody⟩
  | @directive _ _ t c _ _ _ _ _ _ kind _ _ _ close _ _ ih ih' =>
    obtain ⟨body, rfl, hbody⟩ := ih
    obtain ⟨others, rfl, hothers⟩ := ih'
    exact ⟨t :: (body ++ c :: others), by simp, .directive kind hbody close hothers⟩

theorem Reads.opening_of_separator {limit depth : Nat} {inChoice : Bool} {ts rest : List Token}
    {items : List Item} (h : Reads limit depth inChoice ts items rest) {s : Token}
    (hs : s ∈ separatorsOf items) : s ∈ ts ∧ s.kind = .opening := by
  induction h with
  | nil => cases hs
  | stop => cases hs
  | blank _ _ _ ih => exact (ih hs).imp_left (List.mem_cons_of_mem _)
  | text _ _ _ ih => exact (ih hs).imp_left (List.mem_cons_of_mem _)
  | @directive _ _ t _ ts cs _ _ _ items kind _ _ inner _ verdict _ _ ih =>
    have hcs : cs <:+ t :: ts := ((List.suffix_cons _ _).trans inner.suffix).trans (List.suffix_cons _ _)
    have hlater (hs : s ∈ separatorsOf items) : s ∈ t :: ts ∧ s.kind = .opening :=
      (ih hs).imp_left fun hmem => hcs.subset hmem
    cases closed_of_close (inner.close_of_judge verdict) with
    | separator =>
      obtain rfl | hs := List.mem_cons.1 hs
      · exact ⟨List.mem_cons_self, kind⟩
      · exact hlater hs
    | _ => exact hlater hs

/-! ### Tokens that are blamed -/

/-- The tokens that a refusal can blame for a flaw. -/
inductive Blames (tokens : List Token) : Flaw → Token → Prop
  | closing {t : Token} (mem : t ∈ tokens) (kind : t.kind = .closing) : Blames tokens .unmatchedClosing t
  /-- Behind `t` all directives close, so it is the innermost one that is open at the end. -/
  | unclosed {t e : Token} {before after : List Token} (split : tokens = before ++ t :: (after ++ [e]))
      (kind : t.kind = .opening) (inner : Balanced after) (finish : e.kind = .finish) :
      Blames tokens (.unclosed t.value) t
  | header {flaw : Flaw} {t : Token} (mem : t ∈ tokens) (kind : t.kind = .opening)
      (ofHeader : flaw.isOfHeader = true) : Blames tokens flaw t

theorem Blames.of_suffix {ts us : List Token} {flaw : Flaw} {t : Token} (h : Blames ts flaw t)
    (hs : ts <:+ us) : Blames us flaw t := by
  cases h with
  | closing mem kind => exact .closing (hs.subset mem) kind
  | @unclosed _ e before after split kind inner finish =>
    obtain ⟨front, rfl⟩ := hs
    exact .unclosed (by rw [split, ← List.append_assoc]) kind inner finish
  | header mem kind ofHeader => exact .header (hs.subset mem) kind ofHeader

theorem withArgument_eq_error {keyword argument : String} {t : Token} {block : Except Refusal Block}
    {r : Refusal} (h : withArgument keyword argument t block = .error r) :
    r = .flawed (.missingArgument keyword) t ∨ block = .error r := by
  unfold withArgument at h
  split at h
  · cases h
    exact .inl rfl
  · cases block with
    | ok b => cases h
    | error r' =>
      cases h
      exact .inr rfl

/-- A directive without its argument is blamed for its header, and else for what its block is blamed for. -/
theorem blamed_of_withArgument {keyword argument : String} {t u : Token} {block : Except Refusal Block}
    {flaw : Flaw} {separators : List Token} (h : withArgument keyword argument t block = .error (.flawed flaw u))
    (hblock : block = .error (.flawed flaw u) → flaw.isOfHeader = true ∧ (u = t ∨ u ∈ separators)) :
    flaw.isOfHeader = true ∧ (u = t ∨ u ∈ separators) := by
  obtain h | h := withArgument_eq_error h
  · cases h
    exact ⟨rfl, .inl rfl⟩
  · exact hblock h

/-- A directive is blamed for its header or body, or a separator in its body is for being one too many. -/
theorem judge_eq_error {t : Token} {items : List Item} {inChoice : Bool} {flaw : Flaw} {u : Token}
    (h : judge t items inChoice = .error (.flawed flaw u)) :
    flaw.isOfHeader = true ∧ (u = t ∨ u ∈ separatorsOf items) := by
  unfold judge at h
  split at h
  split at h
  -- A separator stands in a choice, without an argument or a body.
  · split at h
    · cases h
      exact ⟨rfl, .inl rfl⟩
    · split at h
      · cases h
        exact ⟨rfl, .inl rfl⟩
      · split at h
        · cases h
          exact ⟨rfl, .inl rfl⟩
        · cases h
  · refine blamed_of_withArgument h fun h => ?_
    split at h
    · cases h
      exact ⟨rfl, .inl rfl⟩
    · cases h
    · rename_i first second others hseparators
      cases h
      exact ⟨rfl, .inr (by simp [hseparators])⟩
  · refine blamed_of_withArgument h fun h => ?_
    cases h
  · refine blamed_of_withArgument h fun h => ?_
    split at h
    · cases h
      exact ⟨rfl, .inl rfl⟩
    · cases h
  · refine blamed_of_withArgument h fun h => ?_
    split at h
    · cases h
      exact ⟨rfl, .inl rfl⟩
    · cases h
  · cases h

theorem blames_of_descend {limit depth : Nat} {inChoice : Bool} {tokens : List Token} {flaw : Flaw}
    {u : Token} (ended : Ended tokens)
    (h : descend limit depth inChoice tokens = .error (.flawed flaw u)) : Blames tokens flaw u := by
  fun_induction descend limit depth inChoice tokens with
  | case1 => cases h
  | case2 => cases h
  | case3 => cases h
  | case4 depth inChoice t ts hk ih =>
    obtain h | ⟨r, -, h⟩ := bind_eq_error.1 h
    · exact (ih (ended.of_cons (by simp [hk])) h).of_suffix (List.suffix_cons t ts)
    · cases h
  | case5 => cases h
  | case6 depth inChoice t ts hk =>
    cases h
    exact .header List.mem_cons_self hk rfl
  | case7 depth inChoice t ts hk hroom hv ih₂ ih₁ =>
    have hts : Ended ts := ended.of_cons (by simp [hk])
    obtain h | ⟨⟨body, rest, hr⟩, hd, h⟩ := bind_eq_error.1 h
    · exact (ih₂ hts h).of_suffix (List.suffix_cons t ts)
    have reading := reads_of_descend hd
    obtain ⟨hrest, c, cs, rfl, hstop⟩ := reading.stops hts
    by_cases hc : c.kind = .closing
    · simp only [hc, if_true] at h
      obtain h | ⟨item, -, h⟩ := bind_eq_error.1 h
      · obtain ⟨ofHeader, rfl | hmem⟩ := judge_eq_error h
        · exact .header List.mem_cons_self hk ofHeader
        · obtain ⟨hmem, hopening⟩ := reading.opening_of_separator hmem
          exact .header (List.mem_cons_of_mem t hmem) hopening ofHeader
      · obtain h | ⟨r, -, h⟩ := bind_eq_error.1 h
        · exact (ih₁ c cs hr (hrest.of_cons (by simp [hc])) h).of_suffix
            ((List.suffix_cons c cs).trans (hr.trans (List.suffix_cons t ts)))
        · cases h
    · simp only [hc, if_false] at h
      cases h
      have hfinish : c.kind = .finish := hstop.resolve_left hc
      obtain rfl := hrest.eq_nil hfinish
      obtain ⟨inner, hsplit, hinner⟩ := reading.balanced
      have hwhole : u :: ts = [] ++ u :: (inner ++ [c]) := congrArg (u :: ·) hsplit
      exact .unclosed hwhole hk hinner hfinish

theorem blames_of_descendTokens {limit : Nat} {tokens : List Token} {flaw : Flaw} {u : Token}
    (ended : Ended tokens) (h : descendTokens limit tokens = .error (.flawed flaw u)) :
    Blames tokens flaw u := by
  obtain h | ⟨⟨items, rest, hr⟩, hd, h⟩ := bind_eq_error.1 h
  · exact blames_of_descend ended h
  · obtain ⟨-, c, cs, rfl, -⟩ := (reads_of_descend hd).stops ended
    simp only at h
    split at h
    · rename_i hc
      cases h
      exact .closing (hr.subset List.mem_cons_self) hc
    · cases h

/-! ### What a flaw says -/

theorem detail_unclosed (header : String) :
    (Flaw.unclosed header).detail = "Unclosed directive '" ++ header ++ "'" := rfl

theorem detail_missingArgument (keyword : String) :
    (Flaw.missingArgument keyword).detail = "'" ++ keyword ++ "' directive requires an argument" := rfl

/-- A flaw of a header is not told in the words for a marker or a directive without a partner. -/
theorem detail_of_isOfHeader {flaw : Flaw} (h : flaw.isOfHeader = true) :
    flaw.detail ≠ "Unmatched closing marker" ∧
      ∀ header : String, flaw.detail ≠ "Unclosed directive '" ++ header ++ "'" := by
  -- Three characters tell these details apart.
  have hstart : flaw.detail.toList.take 3 ≠ ['U', 'n', 'm'] ∧ flaw.detail.toList.take 3 ≠ ['U', 'n', 'c'] := by
    cases flaw with
    | unmatchedClosing => cases h
    | unclosed header => cases h
    | other detail => cases h
    | missingArgument keyword =>
      rw [detail_missingArgument]
      simp
    | _ => decide +kernel
  constructor
  · intro he
    rw [he] at hstart
    exact hstart.1 (by simp)
  · intro header he
    rw [he] at hstart
    exact hstart.2 (by simp)

theorem detail_unclosed_ne (header : String) : (Flaw.unclosed header).detail ≠ "Unmatched closing marker" := by
  intro h
  have hstart := congrArg (·.toList.take 3) h
  simp [detail_unclosed] at hstart

theorem detail_unmatchedClosing_ne (header : String) :
    Flaw.unmatchedClosing.detail ≠ "Unclosed directive '" ++ header ++ "'" := by
  intro h
  have hstart := congrArg (·.toList.take 3) h
  change "Unmatched closing marker".toList.take 3 = _ at hstart
  simp at hstart

/-- The innermost directive that is open at the end of a text opens behind `before` with this header. -/
def OpenAtEnd (text : String) (before rest : List Char) (header : String) : Prop :=
  ∃ front t behind e line others, Token.scan text = .ok (front ++ t :: (behind ++ [e])) ∧
    t.kind = .opening ∧ Balanced behind ∧ e.kind = .finish ∧ t.place.offset = before.length ∧
    rest = Token.openMark ++ line ++ '\n' :: others ∧ header = String.ofList (Text.trim line)

/-- What a refusal tells of a text: the place of the flaw, which comes behind `before`, the marker there, and,
if a directive is open at the end, that the innermost such directive opens there. -/
structure Located (text : String) (before : List Char) (m : Malformed) : Prop where
  remainder : text.toList = before ++ m.remainder.toList
  nonempty : m.remainder ≠ ""
  line : m.line = (Place.ofOffset text.toList before.length).line
  column : m.column = (Place.ofOffset text.toList before.length).column
  closing : m.flaw.detail = "Unmatched closing marker" ↔ Token.closeMark <+: m.remainder.toList
  opening : m.flaw.detail ≠ "Unmatched closing marker" ↔ Token.openMark <+: m.remainder.toList
  unclosed (header : String) (detail : m.flaw.detail = "Unclosed directive '" ++ header ++ "'") :
    OpenAtEnd text before m.remainder.toList header

/-- A flaw at the place behind `before` is located if the marker there and its words agree. -/
theorem located_of_marker {text : String} {before rest : List Char} (htext : text.toList = before ++ rest)
    {flaw : Flaw} (hclosing : flaw.detail = "Unmatched closing marker" → Token.closeMark <+: rest)
    (hopening : flaw.detail ≠ "Unmatched closing marker" → Token.openMark <+: rest)
    (hunclosed : ∀ header : String, flaw.detail = "Unclosed directive '" ++ header ++ "'" →
      OpenAtEnd text before rest header) :
    let place := Place.start.advance before
    Located text before ⟨flaw, place.line, place.column, String.ofList rest⟩ := by
  intro place
  have hplace : Place.ofOffset text.toList before.length = place := by rw [htext, Place.ofOffset_append]
  -- No text begins with both markers.
  have hone (hclose : Token.closeMark <+: rest) : ¬ Token.openMark <+: rest := by
    rintro hopen
    obtain ⟨a, rfl⟩ := hclose
    simp [Token.openMark, Token.closeMark, List.cons_prefix_cons] at hopen
  have hne : rest ≠ [] := by
    rintro rfl
    by_cases hd : flaw.detail = "Unmatched closing marker"
    · simpa [Token.closeMark] using hclosing hd
    · simpa [Token.openMark] using hopening hd
  constructor
  · rw [String.toList_ofList, htext]
  · rw [ne_eq, ← String.toList_inj, String.toList_ofList]
    exact hne
  · rw [hplace]
  · rw [hplace]
  · rw [String.toList_ofList]
    refine ⟨hclosing, fun hclose => ?_⟩
    by_contra hd
    exact hone hclose (hopening hd)
  · rw [String.toList_ofList]
    exact ⟨hopening, fun hopen hd => hone (hclosing hd) hopen⟩
  · rw [String.toList_ofList]
    exact hunclosed

theorem located_of_blames {text : String} {tokens : List Token} (hscan : Token.scan text = .ok tokens)
    {flaw : Flaw} {t : Token} (h : Blames tokens flaw t) :
    ∃ before, Located text before ⟨flaw, t.place.line, t.place.column,
      String.ofList (text.toList.drop t.place.offset)⟩ := by
  have hmarker : t ∈ tokens ∧ (t.kind = .opening ∨ t.kind = .closing) := by
    cases h with
    | closing mem kind => exact ⟨mem, .inr kind⟩
    | unclosed split kind => exact ⟨by simp [split], .inl kind⟩
    | header mem kind => exact ⟨mem, .inl kind⟩
  obtain ⟨before, rest, htext, hplace, hclose, hopen⟩ := Token.drop_of_mem_scan hscan hmarker.1 hmarker.2
  have hoffset : t.place.offset = before.length := by
    rw [hplace, Place.advance_offset]
    exact Nat.zero_add _
  have hopening (kind : t.kind = .opening) : Token.openMark <+: rest := by
    obtain ⟨header, behind, rfl, -⟩ := hopen kind
    rw [List.append_assoc]
    exact List.prefix_append _ _
  have hdrop : text.toList.drop t.place.offset = rest := by rw [htext, hoffset, List.drop_left]
  rw [hdrop, hplace]
  refine ⟨before, located_of_marker htext ?_ ?_ ?_⟩
  · intro hd
    cases h with
    | closing mem kind => exact hclose kind
    | unclosed split => exact absurd hd (detail_unclosed_ne _)
    | header mem kind ofHeader => exact absurd hd (detail_of_isOfHeader ofHeader).1
  · intro hd
    cases h with
    | closing => exact absurd rfl hd
    | unclosed split kind => exact hopening kind
    | header mem kind => exact hopening kind
  · intro header hd
    cases h with
    | closing => exact absurd hd (detail_unmatchedClosing_ne header)
    | @unclosed _ e front behind split kind inner finish =>
      obtain ⟨line, others, hrest, hvalue⟩ := hopen kind
      obtain rfl : t.value = header := by simpa [detail_unclosed, ← String.toList_inj] using hd
      rw [split] at hscan
      exact ⟨front, t, behind, e, line, others, hscan, kind, inner, finish, hoffset, hrest, hvalue⟩
    | header mem kind ofHeader => exact absurd hd ((detail_of_isOfHeader ofHeader).2 header)

theorem located_of_unterminated {text : String} {m : Malformed}
    (h : Token.Unterminated Place.start text.toList m) : ∃ before, Located text before m := by
  obtain ⟨before, header, htext, hline, rfl⟩ := h
  refine ⟨before, located_of_marker htext ?_ ?_ ?_⟩
  · intro hd
    exact absurd hd (detail_of_isOfHeader rfl).1
  · intro _
    exact List.prefix_append _ _
  · intro header' hd
    exact absurd hd ((detail_of_isOfHeader rfl).2 header')

/-- Every token and every flaw is told with the place that the text in front of it has, and the remainder of
a flaw begins with the marker that is blamed. -/
theorem places_exact (text : String) :
    (∀ tokens, Token.scan text = .ok tokens →
      ∀ t ∈ tokens, t.place = Place.ofOffset text.toList t.place.offset) ∧
      ∀ (limit : Int) (m : Malformed), parse limit text = .error (.malformed m) →
        ∃ before, Located text before m := by
  refine ⟨fun tokens hscan t ht => Token.place_of_mem_scan hscan ht, fun limit m h => ?_⟩
  rw [parse_eq_descendText] at h
  split at h
  · cases h
  unfold descendText at h
  cases hscan : Token.scan text with
  | error m' =>
    simp only [hscan] at h
    cases h
    exact located_of_unterminated (Token.unterminated_of_scanFrom hscan)
  | ok tokens =>
    simp only [hscan] at h
    cases hread : descendTokens limit.toNat tokens with
    | ok blocks => simp [hread, Except.mapError] at h
    | error r =>
      cases r with
      | tooDeep u => simp [hread, Except.mapError, Refusal.toError] at h
      | flawed flaw t =>
        simp only [hread, Except.mapError, Refusal.toError] at h
        cases h
        exact located_of_blames hscan (blames_of_descendTokens (ended_of_scanFrom hscan) hread)

/-- The outer one of two directives is open at the end, and a text stands in front of it. -/
theorem places_unclosed :
    let text := "a\n !!% b\n!!% if c\nd%!!"
    let m : Malformed := ⟨.unclosed "b", 2, 2, "!!% b\n!!% if c\nd%!!"⟩
    parse 9 text = .error (.malformed m) ∧ ∃ before, Located text before m := by
  intro text m
  have h : parse 9 text = .error (.malformed m) := by cbv
  exact ⟨h, (places_exact text).2 9 m h⟩

end Template

end Stencil
