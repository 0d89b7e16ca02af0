import CompanionStyles.Plugin.Basic

/-!
Transforms as they go on. A procedure reads and changes the plugin step by step, and what it has changed
before it fails stays changed.
-/

namespace CompanionStyles.Plugin

/-- What is done from a plugin on, and the plugin that it leaves. -/
def Procedure (α : Type) :=
  Plugin → Traced α × Plugin

namespace Procedure

/-- One procedure after another, unless the first one fails. -/
def andThen {α β : Type} (first : Procedure α) (next : α → Procedure β) : Procedure β := fun p =>
  let (done, q) := first p
  match done.result with
  | .error failure => (⟨done.log, done.calls, .error failure⟩, q)
  | .ok value =>
    let (rest, r) := next value q
    (⟨done.log ++ rest.log, done.calls ++ rest.calls, rest.result⟩, r)

instance : Monad Procedure where
  pure value p := (pure value, p)
  bind := andThen

/-- An operation that only reads the plugin. -/
def reading {α : Type} (operation : Plugin → Traced α) : Procedure α := fun p =>
  (operation p, p)

def changing (change : Plugin → Plugin) : Procedure Unit := fun p =>
  (pure (), change p)

def register (key css : List Char) : Procedure Unit :=
  changing fun p => { p with registry := p.registry.register key css }

def record (id : List Char) (directory style : Path) : Procedure Unit :=
  changing fun p => { p with tracker := p.tracker.record id directory style }

/-- Registers the style of a component, and records the component while components are worked on. -/
def commit (id : List Char) (directory : Path) (c : Style.Candidate) (css : List Char) : Procedure Unit := do
  register (registryKey c.path) css
  let dev ← reading fun p => pure p.isDev
  if dev then record id directory c.path
  reading fun _ => Traced.debug (boundText id c)

end Procedure

open Procedure in
/-- Binds a component to its style, step by step. -/
def transforming (tree : FileTree) (code id : List Char) : Procedure (Option TransformOutput) := do
  if isForeign id then return none
  else
    let component := Path.ofText (modulePath id)
    let accepted ← reading fun p => p.resolved.filter.accepts component
    match accepted, component.parent with
    | true, some directory =>
      match ← reading fun p => p.listing tree id directory with
      | none => return none
      | some paths =>
        let candidates ← reading fun p => Style.resolve component paths p.resolved.strategy
        match ← reading fun _ => pick id candidates with
        | none => return none
        | some candidate =>
          let style ← reading fun p => p.styleOf tree candidate
          let styleId := VirtualModule.virtualId (registryKey candidate.path) (some style.css)
          let output ← reading fun _ => rewritten code id style.manifest styleId
          commit id directory candidate style.css
          return some ⟨output.code, output.map, candidate.path, warnings id candidates⟩
    | _, _ => return none

end CompanionStyles.Plugin
