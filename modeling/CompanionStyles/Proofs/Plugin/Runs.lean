import CompanionStyles.Proofs.Plugin.Binding
import CompanionStyles.Proofs.VirtualModule.Id

/-!
Runs of a plugin: actions one after the other, of which those that fail change nothing. At every point of
a run the registry has, for every path, the text of the last style that was bound under it.
-/

namespace CompanionStyles

inductive Action where
  | configure (config : HostConfig)
  | transform (tree : FileTree) (code id : List Char)
  | watch (event : WatchEvent)

/-- What a transform is called with, apart from the tree of files. -/
structure TransformCall where
  code : List Char
  id : List Char

namespace Plugin

/-- What a transform answers: an output, none, or a failure. -/
def answer (p : Plugin) (tree : FileTree) (c : TransformCall) : Except Failure (Option TransformOutput) :=
  Prod.snd <$> (p.transform tree c.code c.id).result

/-- The plugin that an operation ends with, or the old one if it fails. -/
def keep {α : Type} (p : Plugin) (next : α → Plugin) : Except Failure α → Plugin
  | .ok value => next value
  | .error _ => p

def after (p : Plugin) : Action → Plugin
  | .configure config => p.keep id (p.configResolved config).result
  | .transform tree code id => p.keep Prod.fst (p.transform tree code id).result
  | .watch event => p.keep Prod.fst (p.watch event).result

def run (p : Plugin) (actions : List Action) : Plugin :=
  actions.foldl after p

/-- The binding that an action makes, if it is a transform that succeeds. -/
def bindingOf (p : Plugin) : Action → Option Binding
  | .transform tree code id =>
    match p.binding tree code id with
    | .ok bound => bound
    | .error _ => none
  | _ => none

def cssOf (p : Plugin) (key : List Char) (action : Action) : Option (List Char) :=
  match p.bindingOf action with
  | some b => if b.key = key then some b.style.css else none
  | none => none

/-- The text of the last style that a run binds under a path. -/
def lastCss (p : Plugin) (key : List Char) : List Action → Option (List Char)
  | [] => none
  | action :: actions => ((p.after action).lastCss key actions).or (p.cssOf key action)

theorem run_cons (p : Plugin) (action : Action) (actions : List Action) :
    p.run (action :: actions) = (p.after action).run actions :=
  rfl

theorem run_append (p : Plugin) (first second : List Action) :
    p.run (first ++ second) = (p.run first).run second :=
  List.foldl_append

theorem after_transform (p : Plugin) (tree : FileTree) (code id : List Char) :
    p.after (.transform tree code id) =
      match p.bindingOf (.transform tree code id) with
      | some b => p.afterBinding id b
      | none => p := by
  unfold after bindingOf
  dsimp only
  rw [transform_result]
  cases p.binding tree code id with
  | error failure => rfl
  | ok found => cases found <;> rfl

theorem alike_after_transform (p : Plugin) (tree : FileTree) (code id : List Char) :
    (p.after (.transform tree code id)).Alike p := by
  rw [after_transform]
  split
  · exact alike_afterBinding p id _
  · exact .refl p

theorem answer_eq (p : Plugin) (tree : FileTree) (c : TransformCall) :
    p.answer tree c = Option.map Binding.answer <$> p.binding tree c.code c.id := by
  rw [answer, transform_result]
  cases p.binding tree c.code c.id with
  | error failure => rfl
  | ok bound => cases bound <;> rfl

theorem Alike.answer {p q : Plugin} (alike : p.Alike q) (tree : FileTree) (c : TransformCall) :
    p.answer tree c = q.answer tree c := by
  rw [answer_eq, answer_eq, alike.binding]

/-- A configuration that is right is taken, if it is the first one. -/
theorem configResolved_eq_ok {p q : Plugin} {config : HostConfig}
    (configured : (p.configResolved config).result = .ok q) :
    q = p ∨ p.host = none ∧ q = { p with host := some config } := by
  unfold configResolved at configured
  dsimp only at configured
  cases host : p.host with
  | none =>
    rw [host] at configured
    refine Or.inr ⟨rfl, ?_⟩
    split at configured
    · rw [Traced.result_bind] at configured
      obtain ⟨_, _, configured⟩ := Traced.bind_eq_ok_iff.mp configured
      exact (Except.ok.inj configured).symm
    · exact (Except.ok.inj configured).symm
  | some first =>
    rw [host] at configured
    refine Or.inl ?_
    split at configured
    · rw [Traced.result_bind] at configured
      obtain ⟨_, _, configured⟩ := Traced.bind_eq_ok_iff.mp configured
      exact (Except.ok.inj configured).symm
    · exact (Except.ok.inj configured).symm

theorem configure_registry (p : Plugin) (config : HostConfig) :
    (p.after (.configure config)).registry = p.registry := by
  unfold after keep
  dsimp only
  split
  · rename_i q configured
    rcases configResolved_eq_ok configured with rfl | ⟨_, rfl⟩ <;> rfl
  · rfl

theorem watch_registry (p : Plugin) (event : WatchEvent) :
    (p.after (.watch event)).registry = p.registry := by
  unfold after keep watch
  dsimp only
  split
  · rename_i pair watched
    split at watched
    · obtain rfl := Except.ok.inj watched
      rfl
    · obtain rfl := Except.ok.inj watched
      rfl
  · rfl

/-- One action: a path has the text that the action binds under it, or what it had. -/
theorem after_get? (p : Plugin) (action : Action) (key : List Char) :
    (p.after action).registry.get? key = (p.cssOf key action).or (p.registry.get? key) := by
  cases action with
  | configure config => rw [configure_registry]; rfl
  | watch event => rw [watch_registry]; rfl
  | transform tree code id =>
    rw [after_transform]
    unfold cssOf
    cases found : p.bindingOf (.transform tree code id) with
    | none => rfl
    | some b =>
      have registered : (p.afterBinding id b).registry = p.registry.register b.key b.style.css := rfl
      dsimp only
      rw [registered, Registry.get?_register]
      by_cases same : key = b.key
      · rw [if_pos same, if_pos same.symm]
        rfl
      · rw [if_neg same, if_neg fun other => same other.symm]
        rfl

/-- A run: a path has the text of the last style that was bound under it, or what it had. -/
theorem run_get? (p : Plugin) (actions : List Action) (key : List Char) :
    (p.run actions).registry.get? key = (p.lastCss key actions).or (p.registry.get? key) := by
  induction actions generalizing p with
  | nil => rfl
  | cons action actions ih =>
    rw [run_cons, ih, after_get?, lastCss, Option.or_assoc]

theorem load_names {p : Plugin} {id key css : List Char} (names : VirtualModule.Names id key)
    (named : key ≠ []) (found : p.registry.get? key = some css) : p.load id = .ok (some css) := by
  rw [load, if_pos names.isVirtual, Registry.resolveContent_names names named found]
  rfl

end Plugin

end CompanionStyles
