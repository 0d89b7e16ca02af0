import CompanionStyles.Failure
import CompanionStyles.Manifest
import CompanionStyles.Style.Name
import CompanionStyles.Trace

/-!
Operations with their traces: what an operation logs, which of the callbacks it was given it calls, and
what it ends with. A failure ends an operation, but what it did before remains in the trace.
-/

namespace CompanionStyles

/-- A hook for manifests, told apart by its tag. It returns nothing, so to call it is all it does. -/
structure ManifestHook where
  tag : String
  deriving DecidableEq, Repr

/-- A callback as it was called, with its arguments. -/
inductive Call where
  | filter (fileName : List Char) (path : Path)
  | resolver (componentName : List Char) (directory component : Path)
  | manifestHook (hook : ManifestHook) (path : Path) (manifest : Manifest)
  | preprocess (dialect : Style.Dialect) (path : Path) (source : List Char)
  deriving DecidableEq, Repr

structure Traced (α : Type) where
  log : List LogLine
  calls : List Call
  result : Except Failure α

namespace Traced

def succeed {α : Type} (value : α) : Traced α :=
  ⟨[], [], .ok value⟩

def fail {α : Type} (failure : Failure) : Traced α :=
  ⟨[], [], .error failure⟩

/-- One operation after another, unless the first one fails. -/
def andThen {α β : Type} (first : Traced α) (next : α → Traced β) : Traced β :=
  match first.result with
  | .error failure => ⟨first.log, first.calls, .error failure⟩
  | .ok value =>
    let second := next value
    ⟨first.log ++ second.log, first.calls ++ second.calls, second.result⟩

instance : Monad Traced where
  pure := succeed
  bind := andThen

def ofExcept {α : Type} (result : Except Failure α) : Traced α :=
  ⟨[], [], result⟩

def write (lines : List LogLine) : Traced Unit :=
  ⟨lines, [], .ok ()⟩

def debug (text : String) : Traced Unit :=
  write [⟨.debug, text⟩]

def warn (text : String) : Traced Unit :=
  write [⟨.warn, text⟩]

def call (c : Call) : Traced Unit :=
  ⟨[], [c], .ok ()⟩

@[simp]
theorem ok_bind {α β : Type} (value : α) (next : α → Except Failure β) :
    (Except.ok value >>= next) = next value :=
  rfl

@[simp]
theorem error_bind {α β : Type} (failure : Failure) (next : α → Except Failure β) :
    (Except.error failure >>= next) = .error failure :=
  rfl

/-- Two steps end well if the first one gives a value with which the second one does. -/
theorem bind_eq_ok_iff {α β : Type} {first : Except Failure α} {next : α → Except Failure β}
    {result : β} : (first >>= next) = .ok result ↔ ∃ value, first = .ok value ∧ next value = .ok result := by
  cases first with
  | error failure => simp
  | ok value => simp

/-- Two steps fail if the first one does, or the second one on its value. -/
theorem bind_eq_error_iff {α β : Type} {first : Except Failure α} {next : α → Except Failure β}
    {failure : Failure} : (first >>= next) = .error failure ↔
      first = .error failure ∨ ∃ value, first = .ok value ∧ next value = .error failure := by
  cases first with
  | error other => simp
  | ok value => simp

/-- A failure that is told in other words is a failure all the same. -/
theorem mapError_eq_ok_iff {ε α : Type} {result : Except ε α} {wrap : ε → Failure} {value : α} :
    result.mapError wrap = .ok value ↔ result = .ok value := by
  cases result with
  | error fault => exact iff_of_false (by rintro ⟨⟩) (by rintro ⟨⟩)
  | ok found =>
    constructor
    · exact fun same => congrArg Except.ok (Except.ok.inj same)
    · exact fun same => congrArg Except.ok (Except.ok.inj same)

/-- Whether there is a value that passes a test. -/
def passes {α : Type} (test : α → Bool) : Except Failure α → Bool
  | .ok value => test value
  | .error _ => false

theorem passes_iff {α : Type} {test : α → Bool} {result : Except Failure α} :
    passes test result = true ↔ ∃ value, result = .ok value ∧ test value = true := by
  cases result with
  | error failure => simp [passes]
  | ok value => simp [passes]

@[simp]
theorem result_pure {α : Type} (value : α) : (pure value : Traced α).result = .ok value :=
  rfl

@[simp]
theorem result_fail {α : Type} (failure : Failure) : (fail failure : Traced α).result = .error failure :=
  rfl

@[simp]
theorem result_ofExcept {α : Type} (result : Except Failure α) : (ofExcept result).result = result :=
  rfl

@[simp]
theorem result_write (lines : List LogLine) : (write lines).result = .ok () :=
  rfl

@[simp]
theorem result_debug (text : String) : (debug text).result = .ok () :=
  rfl

@[simp]
theorem result_call (c : Call) : (call c).result = .ok () :=
  rfl

theorem bind_of_error {α β : Type} {first : Traced α} {next : α → Traced β} {failure : Failure}
    (fails : first.result = .error failure) :
    (first >>= next) = ⟨first.log, first.calls, .error failure⟩ := by
  change first.andThen next = _
  rw [andThen, fails]

theorem bind_of_ok {α β : Type} {first : Traced α} {next : α → Traced β} {value : α}
    (succeeds : first.result = .ok value) :
    (first >>= next) =
      ⟨first.log ++ (next value).log, first.calls ++ (next value).calls, (next value).result⟩ := by
  change first.andThen next = _
  rw [andThen, succeeds]

/-- What an operation ends with does not depend on its trace. -/
@[simp]
theorem result_bind {α β : Type} (first : Traced α) (next : α → Traced β) :
    (first >>= next).result = first.result >>= fun value => (next value).result := by
  change (andThen first next).result = _
  unfold andThen
  cases first.result <;> rfl

end Traced

end CompanionStyles
