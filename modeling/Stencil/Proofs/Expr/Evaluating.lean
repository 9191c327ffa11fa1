import Mathlib
import Stencil.Proofs.Session

/-!
# Single evaluations

A context has its engine prepare an expression and run what it prepared. Main statements: an evaluation leaves
no trace, and its failures tell of their expression unless preparing fails for another reason than syntax;
and names that an expression does not mention may be bound and unbound around it, but for the one name that
no program can be run with.
-/
namespace Stencil.Expr

open Render (outcome)

/-! ### Answers -/

namespace Engine

/-- What the two evaluations of an expression come to. -/
def answers (e : Engine) (memory : e.Memory) (s : String) : Except Error Bool × Except Error String :=
  ((outcome (e.silent.evalCondition s) memory).1, (outcome (e.silent.evalText s) memory).1)

variable (e : Engine)

theorem answers_eq (memory : e.Memory) (s : String) :
    e.answers memory s = (e.condition memory.bindings s, e.textOf memory.bindings s) := by
  rw [answers, e.outcome_evalCondition, e.outcome_evalText]

/-- What is prepared already does not matter. -/
theorem answers_congr {memory memory' : e.Memory} {s : String}
    (h : e.evaluate memory.bindings s = e.evaluate memory'.bindings s) :
    e.answers memory s = e.answers memory' s := by
  rw [answers_eq, answers_eq, condition, condition, textOf, textOf, h]

end Engine

/-! ### Failures -/

/-- If there is a failure, it is one of the expression. -/
def FailsAs {α : Type} (s : String) (r : Except Error α) : Prop :=
  ∀ error, r = .error error → ∃ flaw, error = .evaluation flaw s

section

variable {α β : Type} {s : String}

theorem failsAs_ok (a : α) : FailsAs s (.ok a) := by
  intro error h
  cases h

theorem failsAs_evaluation (flaw : EvaluationFlaw) : FailsAs s (.error (.evaluation flaw s) : Except Error α) := by
  rintro error ⟨⟩
  exact ⟨flaw, rfl⟩

theorem not_failsAs_stray (stray : Stray) : ¬ FailsAs s (.error (.stray stray) : Except Error α) := by
  intro h
  obtain ⟨flaw, hflaw⟩ := h _ rfl
  cases hflaw

/-- What is reported of an expression depends on whether there is a message to report. -/
theorem failsAs_report_iff (flaw : String → EvaluationFlaw) (message : Message) :
    FailsAs s (.error (report s flaw message) : Except Error α) ↔ message.IsTold := by
  cases message with
  | told text => exact iff_of_true (failsAs_evaluation _) trivial
  | untold stray => exact iff_of_false (not_failsAs_stray stray) id

/-- Only the first of two steps can fail with an error of another kind. -/
theorem failsAs_bind_iff {r : Except Error α} {f : α → Except Error β} (hf : ∀ a, FailsAs s (f a)) :
    FailsAs s (r >>= f) ↔ FailsAs s r := by
  cases r with
  | ok a => exact iff_of_true (hf a) (failsAs_ok a)
  | error error =>
    constructor
    · rintro h _ ⟨⟩
      exact h error rfl
    · rintro h _ ⟨⟩
      exact h error rfl

theorem failsAs_asCondition (v : Value) : FailsAs s (Engine.asCondition s v) := by
  unfold Engine.asCondition
  split
  · exact failsAs_ok _
  · exact failsAs_evaluation _

theorem failsAs_asText (v : Value) : FailsAs s (Engine.asText s v) := by
  unfold Engine.asText
  split
  · exact failsAs_ok _
  · exact failsAs_evaluation _

end

namespace Engine

/-- Whatever goes wrong with an expression can be reported: it is refused for its syntax only, and each message
can be made. -/
structure Reports (e : Engine) (b : Bindings) (s : String) : Prop where
  refused (refusal : Refusal) : e.compile s = .error refusal →
    ∃ message : Message, refusal = .badSyntax message ∧ message.IsTold
  failed (p : e.Program) (f : Failure) : e.compile s = .ok p → e.run p b = .error f → f.message.IsTold

section

variable {e : Engine} {b : Bindings} {s : String}

theorem reports_of_error {refusal : Refusal} (hcompile : e.compile s = .error refusal) :
    e.Reports b s ↔ ∃ message : Message, refusal = .badSyntax message ∧ message.IsTold := by
  constructor
  · exact fun h => h.refused refusal hcompile
  · intro h
    constructor
    · intro refusal' hcompile'
      obtain rfl : refusal = refusal' := Except.error.inj (hcompile ▸ hcompile')
      exact h
    · intro p f hp
      rw [hcompile] at hp
      cases hp

theorem reports_of_ok {p : e.Program} (hcompile : e.compile s = .ok p) :
    e.Reports b s ↔ ∀ f, e.run p b = .error f → f.message.IsTold := by
  constructor
  · exact fun h f => h.failed p f hcompile
  · intro h
    constructor
    · intro refusal hrefusal
      rw [hcompile] at hrefusal
      cases hrefusal
    · intro p' f hcompile'
      obtain rfl : p = p' := Except.ok.inj (hcompile ▸ hcompile')
      exact h f

end

variable (e : Engine) (b : Bindings) (s : String)

/-- The value of an expression is missing for a reason that tells of the expression, just if what goes wrong
can be reported. -/
theorem failsAs_evaluate_iff : FailsAs s (e.evaluate b s) ↔ e.Reports b s := by
  unfold evaluate
  cases hcompile : e.compile s with
  | ok p =>
    rw [reports_of_ok hcompile, finish]
    split
    · rename_i f hrun
      rw [failsAs_report_iff]
      exact ⟨fun h f' hf' => Except.error.inj (hrun ▸ hf') ▸ h, fun h => h f hrun⟩
    · rename_i hrun
      exact iff_of_true (failsAs_evaluation _) (by simp [hrun])
    · rename_i hrun
      exact iff_of_true (failsAs_ok _) (by simp [hrun])
  | error refusal =>
    rw [reports_of_error hcompile]
    cases refusal with
    | badSyntax message => simpa [finish] using failsAs_report_iff .badSyntax message
    | badForm message => exact iff_of_false (not_failsAs_stray _) (by simp)
    | failed f => exact iff_of_false (not_failsAs_stray _) (by simp)

theorem failsAs_condition_iff : FailsAs s (e.condition b s) ↔ e.Reports b s :=
  (failsAs_bind_iff failsAs_asCondition).trans (e.failsAs_evaluate_iff b s)

theorem failsAs_textOf_iff : FailsAs s (e.textOf b s) ↔ e.Reports b s :=
  (failsAs_bind_iff failsAs_asText).trans (e.failsAs_evaluate_iff b s)

/-- The bindings are the same, and all evaluations under other bindings come to the same. -/
def AsBefore {e : Engine} (memory memory' : e.Memory) : Prop :=
  memory'.bindings = memory.bindings ∧ ∀ (b : Bindings) (later : String),
    e.answers { memory' with bindings := b } later = e.answers { memory with bindings := b } later

theorem asBefore_prepared {e : Engine} (memory : e.Memory) (prepared : e.Prepared) :
    AsBefore memory { memory with prepared } := ⟨rfl, fun _ _ => e.answers_congr rfl⟩

/-- Evaluations give a value of the type asked for or fail with an error of their expression, just if what goes
wrong can be reported: the expression is not refused for another reason than its syntax, and the message of a
failure can be made. Whatever they come to, the bindings stay, and later evaluations go as if there had been
none. -/
theorem evaluation_contained (e : Engine) (memory : e.Memory) (s : String) :
    (FailsAs s (e.answers memory s).1 ↔ e.Reports memory.bindings s) ∧
      (FailsAs s (e.answers memory s).2 ↔ e.Reports memory.bindings s) ∧
      AsBefore memory (outcome (e.silent.evalCondition s) memory).2 ∧
      AsBefore memory (outcome (e.silent.evalText s) memory).2 := by
  rw [answers_eq]
  refine ⟨e.failsAs_condition_iff _ s, e.failsAs_textOf_iff _ s, ?_, ?_⟩
  · rw [e.outcome_evalCondition]
    exact asBefore_prepared memory _
  · rw [e.outcome_evalText]
    exact asBefore_prepared memory _

/-- Why `evaluation_contained` has a condition. An argument that comes twice is no matter of syntax, and a key that
is missing cannot be shown if it has more digits than a text may have. -/
theorem evaluation_uncontained :
    let memory (b : Bindings) : engine.Memory := .fresh engine b
    let twice : Stray := ⟨.badForm, "keyword argument repeated: a (<template>, line 12)"⟩
    let digits : Stray := ⟨.badValue, tooLongToShow⟩
    engine.answers (memory []) "'{a}'.format(a=1, a=2)" = (.error (.stray twice), .error (.stray twice)) ∧
      engine.answers (memory [("x", "10")]) "{}.pop((x|int)**5000)"
        = (.error (.stray digits), .error (.stray digits)) ∧
      ∀ (s : String) (stray : Stray), ¬ FailsAs s (.error (.stray stray) : Except Error String) := by
  intro memory twice digits
  refine ⟨?_, ?_, fun s stray => not_failsAs_stray stray⟩
  · rw [answers_eq]
    decide +kernel
  · rw [answers_eq]
    decide +kernel

/-! ### Names that are not mentioned -/

/-- Programs are called with all bindings. The name of the template is taken in a call, and of the others a
program looks up those that its expression mentions. -/
structure CallsByName (e : Engine) (mentioned : String → List String) : Prop where
  taken (p : e.Program) (b : Bindings) : (b.get? Form.templateName).isSome → e.run p b = typeError selfTaken
  lookUp (s : String) (p : e.Program) (b b' : Bindings) : e.compile s = .ok p →
    b.get? Form.templateName = none → b'.get? Form.templateName = none →
    (∀ name ∈ mentioned s, b.get? name = b'.get? name) → e.run p b = e.run p b'

section

variable {e : Engine} {mentioned : String → List String} (h : e.CallsByName mentioned) (s : String)

include h

/-- Where the name of the template is bound or free alike, only the names that are mentioned matter. -/
theorem CallsByName.evaluate_congr {b b' : Bindings}
    (htaken : (b.get? Form.templateName).isSome = (b'.get? Form.templateName).isSome)
    (hnames : ∀ name ∈ mentioned s, b.get? name = b'.get? name) : e.evaluate b s = e.evaluate b' s := by
  unfold evaluate finish
  cases hcompile : e.compile s with
  | error refusal => cases refusal <;> rfl
  | ok p =>
    have hrun : e.run p b = e.run p b' := by
      by_cases hself : (b.get? Form.templateName).isSome
      · rw [h.taken p b hself, h.taken p b' (htaken ▸ hself)]
      · have hfree : b.get? Form.templateName = none := by simpa using hself
        have hfree' : b'.get? Form.templateName = none := by simpa [htaken] using hself
        exact h.lookUp s p b b' hcompile hfree hfree' hnames
    simp only [hrun]

/-- No program can be run where the name of the template is bound. -/
theorem CallsByName.evaluate_of_taken {b : Bindings} (hself : (b.get? Form.templateName).isSome)
    {p : e.Program} (hcompile : e.compile s = .ok p) :
    e.evaluate b s = .error (.evaluation (.failed selfTaken) s) := by
  have hrun : e.run p b = .error (.raised .type selfTaken) := h.taken p b hself
  simp only [evaluate, finish, hcompile, hrun, Failure.flaw, Failure.message, report]

section

variable {name : String} (hname : name ∉ mentioned s) (b : Bindings) (prepared prepared' : e.Prepared)

include hname

theorem CallsByName.answers_set (value : String)
    (hself : name ≠ Form.templateName ∨ (b.get? Form.templateName).isSome) :
    e.answers ⟨b.set name value, prepared'⟩ s = e.answers ⟨b, prepared⟩ s := by
  refine e.answers_congr (h.evaluate_congr s ?_ fun other hmem => ?_)
  · by_cases htaken : Form.templateName = name
    · subst htaken
      rw [b.get?_set_self]
      exact (hself.resolve_left (by simp)).symm
    · rw [b.get?_set_of_ne value htaken]
  · exact b.get?_set_of_ne value fun heq => hname (heq ▸ hmem)

theorem CallsByName.answers_unset (hself : name ≠ Form.templateName ∨ b.get? Form.templateName = none) :
    e.answers ⟨b.unset name, prepared'⟩ s = e.answers ⟨b, prepared⟩ s := by
  refine e.answers_congr (h.evaluate_congr s ?_ fun other hmem => ?_)
  · by_cases htaken : Form.templateName = name
    · subst htaken
      rw [b.get?_unset_self, hself.resolve_left (by simp)]
    · rw [b.get?_unset_of_ne htaken]
  · exact b.get?_unset_of_ne fun heq => hname (heq ▸ hmem)

end

end

end Engine

/-! ### The engine of expressions -/

/-- The names that an expression mentions. -/
def mentionedIn (s : String) : List String :=
  match Term.read s with
  | .ok raw => raw.names
  | .error _ => []

/-- A name of a form means one of the names that the form was made from. -/
theorem Form.mem_of_meaning? {names : List String} {name other : String} (h : Form.meaning? names name = some other) :
    other ∈ names := by
  unfold Form.meaning? at h
  dsimp only at h
  split at h
  · cases h
  · have hmem := (List.mem_filter.1 (List.mem_of_getLast? h)).1
    unfold Form.lookUpOrder at hmem
    split at hmem
    · rename_i hself
      obtain rfl | hmem := List.mem_cons.1 hmem
      · simpa using hself
      · exact (List.mem_filter.1 hmem).1
    · exact hmem

theorem Form.meanings_of {raw prepared : Term} {form : Form} (h : Form.of raw prepared = .ok form) :
    form.meanings = raw.names.map fun name => (name, meaning? raw.names name) := by
  unfold Form.of at h
  split at h
  · cases h
  · cases h
    rfl

/-- Whatever a form looks up is mentioned by its expression. -/
theorem Form.mem_of_lookup {s : String} {form : Form} (hform : Form.compile s = .ok form) {name other : String}
    (h : form.meanings.lookup name = some (some other)) : other ∈ mentionedIn s := by
  cases hraw : Term.read s with
  | error refusal =>
    rw [Form.compile, hraw] at hform
    cases hform
  | ok raw =>
    cases hprepared : raw.prepare with
    | error refusal =>
      simp only [Form.compile, hraw, hprepared, bind, Except.bind] at hform
      cases hform
    | ok prepared =>
      have hof : Form.of raw prepared = .ok form := by
        simpa only [Form.compile, hraw, hprepared, bind, Except.bind] using hform
      obtain ⟨before, after, hsplit, -⟩ := List.lookup_eq_some_iff.1 h
      have hmem : (name, some other) ∈ form.meanings := by simp [hsplit]
      rw [Form.meanings_of hof] at hmem
      obtain ⟨n, -, hn⟩ := List.mem_map.1 hmem
      rw [mentionedIn, hraw]
      exact Form.mem_of_meaning? (congrArg Prod.snd hn)

/-- Forms are called with all bindings, and look up what their expressions mention. -/
theorem engine_callsByName : engine.CallsByName mentionedIn where
  taken form b h := if_pos h
  lookUp s form b b' hform hself hself' hnames := by
    have hscope : (fun name => ((form.meanings.lookup name).join).bind (scopeOf b))
        = fun name => ((form.meanings.lookup name).join).bind (scopeOf b') := by
      funext name
      cases hmeaning : form.meanings.lookup name with
      | none => rfl
      | some meaning =>
        cases meaning with
        | none => rfl
        | some other =>
          have hother : b.get? other = b'.get? other := hnames other (Form.mem_of_lookup hform hmeaning)
          simp only [Option.join_some, Option.bind_some, scopeOf, hother]
    have hrun : form.run (scopeOf b) = form.run (scopeOf b') := by
      unfold Form.run
      rw [hscope]
    simp only [engine, hself, hself', hrun]

/-- Where the name of the template is bound, an expression fails. -/
def selfFailure {α : Type} (s : String) : Except Error α := .error (.evaluation (.failed selfTaken) s)

/-- A name that an expression does not mention may be bound and unbound without effect on its evaluations,
whatever has been prepared meanwhile. If it is the name of the template, it must have been bound or free
before as well: where it is bound, nothing can be evaluated. This is so for each engine that calls its
programs with all bindings and looks up what expressions mention, as the engine of expressions does. -/
theorem unmentioned_unseen {e : Engine} {mentioned : String → List String} (he : e.CallsByName mentioned)
    {s name : String} (hname : name ∉ mentioned s) (value : String) (b : Bindings)
    (prepared prepared' : e.Prepared) :
    (name ≠ Form.templateName ∨ (b.get? Form.templateName).isSome →
        e.answers ⟨b.set name value, prepared'⟩ s = e.answers ⟨b, prepared⟩ s) ∧
      (name ≠ Form.templateName ∨ b.get? Form.templateName = none →
        e.answers ⟨b.unset name, prepared'⟩ s = e.answers ⟨b, prepared⟩ s) ∧
      ∀ p, (b.get? Form.templateName).isSome → e.compile s = .ok p →
        e.answers ⟨b, prepared⟩ s = (selfFailure s, selfFailure s) := by
  refine ⟨?_, ?_, ?_⟩
  · exact he.answers_set s hname b prepared prepared' value
  · exact he.answers_unset s hname b prepared prepared'
  · intro p hself hcompile
    rw [e.answers_eq, Engine.condition, Engine.textOf, he.evaluate_of_taken s hself hcompile]
    rfl

/-- A name beside the one that is mentioned. -/
theorem unmentioned_beside :
    let b : Bindings := [("a", "x")]
    let memory (b : Bindings) : engine.Memory := .fresh engine b
    engine.CallsByName mentionedIn ∧ "b" ∉ mentionedIn "a" ∧ "b" ≠ Form.templateName ∧
      engine.answers (memory (b.set "b" "y")) "a" = engine.answers (memory b) "a" ∧
      (engine.answers (memory b) "a").2 = .ok "x" := by
  intro b memory
  have hname : "b" ∉ mentionedIn "a" := by decide +kernel
  have hself : "b" ≠ Form.templateName := by decide
  refine ⟨engine_callsByName, hname, hself, ?_, ?_⟩
  · exact (unmentioned_unseen engine_callsByName hname "y" b _ _).1 (.inl hself)
  · rw [Engine.answers_eq]
    decide +kernel

/-- Where the name of the template gets bound, what had a value has none any more. -/
theorem unmentioned_template_seen :
    let b : Bindings := [("a", "x")]
    let memory (b : Bindings) : engine.Memory := .fresh engine b
    Form.templateName ∉ mentionedIn "a" ∧ (engine.answers (memory b) "a").2 = .ok "x" ∧
      (engine.answers (memory (b.set Form.templateName "y")) "a").2 = selfFailure "a" := by
  intro b memory
  rw [Engine.answers_eq, Engine.answers_eq]
  refine ⟨?_, ?_, ?_⟩ <;> decide +kernel

end Stencil.Expr
