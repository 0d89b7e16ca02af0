import Mathlib.Data.List.Forall2
import CompanionStyles.Traced

/-!
Operations that go alike for two ids. They log the same messages, call the same callbacks and end with the same,
but for the id where it is told. Steps that go alike make up operations that do.
-/

namespace CompanionStyles

variable {id id' : List Char}

/-- A text tells of one id what another text tells of another id. -/
inductive Echoes (id id' : List Char) : String → String → Prop
  | same (text : String) : Echoes id id' text text
  | naming (before after : String) :
      Echoes id id' (before ++ String.ofList id ++ after) (before ++ String.ofList id' ++ after)

theorem Echoes.of_eq {text text' : String} (before after : String)
    (told : text = before ++ String.ofList id ++ after) (told' : text' = before ++ String.ofList id' ++ after) :
    Echoes id id' text text' := by
  rw [told, told']
  exact .naming before after

def LogLine.Echoes (id id' : List Char) (line line' : LogLine) : Prop :=
  line'.level = line.level ∧ CompanionStyles.Echoes id id' line.text line'.text

/-- Two failures are the same, or both tell that a component is not well formed, each of its own id. -/
inductive Failure.Echoes (id id' : List Char) : Failure → Failure → Prop
  | same (failure : Failure) : Failure.Echoes id id' failure failure
  | component (reason : String) : Failure.Echoes id id' (.component id reason) (.component id' reason)

namespace Traced

/-- Two operations end alike: with related values, or with failures of one kind. -/
inductive EndsAlike (id id' : List Char) {α β : Type} (related : α → β → Prop) :
    Except Failure α → Except Failure β → Prop
  | ok {value : α} {value' : β} (alike : related value value') : EndsAlike id id' related (.ok value) (.ok value')
  | error {failure failure' : Failure} (alike : failure.Echoes id id' failure') :
      EndsAlike id id' related (.error failure) (.error failure')

/-- Two operations go alike, one for one id and the other for another. -/
structure Echoes (id id' : List Char) {α β : Type} (related : α → β → Prop) (t : Traced α) (t' : Traced β) : Prop where
  log : List.Forall₂ (LogLine.Echoes id id') t.log t'.log
  calls : t'.calls = t.calls
  result : EndsAlike id id' related t.result t'.result

namespace Echoes

theorem same {α : Type} (t : Traced α) : t.Echoes id id' Eq t where
  log := List.forall₂_same.mpr fun line _ => ⟨rfl, .same line.text⟩
  calls := rfl
  result := by
    cases t.result with
    | error failure => exact .error (.same failure)
    | ok value => exact .ok rfl

theorem pure {α β : Type} {related : α → β → Prop} {value : α} {value' : β} (alike : related value value') :
    Echoes id id' related (Pure.pure value) (Pure.pure value') :=
  ⟨.nil, rfl, .ok alike⟩

theorem fail {α β : Type} {related : α → β → Prop} {failure failure' : Failure}
    (alike : failure.Echoes id id' failure') :
    Echoes id id' related (Traced.fail failure : Traced α) (Traced.fail failure' : Traced β) :=
  ⟨.nil, rfl, .error alike⟩

theorem write {log log' : List LogLine} (alike : List.Forall₂ (LogLine.Echoes id id') log log') :
    Echoes id id' Eq (Traced.write log) (Traced.write log') :=
  ⟨alike, rfl, .ok rfl⟩

theorem debug {text text' : String} (alike : CompanionStyles.Echoes id id' text text') :
    Echoes id id' Eq (Traced.debug text) (Traced.debug text') :=
  .write (.cons ⟨rfl, alike⟩ .nil)

/-- One step after another goes alike if each of them does. -/
theorem bind {α β γ δ : Type} {related : α → β → Prop} {related' : γ → δ → Prop} {first : Traced α}
    {first' : Traced β} {next : α → Traced γ} {next' : β → Traced δ} (alike : first.Echoes id id' related first')
    (later : ∀ value value', related value value' → (next value).Echoes id id' related' (next' value')) :
    (first >>= next).Echoes id id' related' (first' >>= next') := by
  obtain ⟨log, calls, result⟩ := alike
  generalize ends : first.result = result₁ at result
  generalize ends' : first'.result = result₂ at result
  cases result with
  | error alike =>
    rw [bind_of_error ends, bind_of_error ends']
    exact ⟨log, calls, .error alike⟩
  | @ok value value' alike =>
    obtain ⟨log', calls', result'⟩ := later value value' alike
    rw [bind_of_ok ends, bind_of_ok ends']
    exact ⟨List.rel_append log log', by rw [calls, calls'], result'⟩

/-- The same step, and then steps that go alike. -/
theorem bind_same {α γ δ : Type} {related' : γ → δ → Prop} (first : Traced α) {next : α → Traced γ}
    {next' : α → Traced δ} (later : ∀ value, (next value).Echoes id id' related' (next' value)) :
    (first >>= next).Echoes id id' related' (first >>= next') := by
  refine bind (same first) fun value value' equal => ?_
  rw [← equal]
  exact later value

end Echoes

end Traced

end CompanionStyles
