import CompanionStyles.Plugin.Basic

/-!
Bindings: what a transform finds out about a component before the plugin changes. A transform ends with
its binding, and a binding depends on what a plugin was configured with and on nothing that it has served
or tracked.
-/

namespace CompanionStyles

/-- A component with the style that it is bound to. -/
structure Binding where
  directory : Path
  candidate : Style.Candidate
  style : Style.Compiled
  output : PatchOutput
  warnings : List String

namespace Binding

/-- The path under which the style is served. -/
def key (b : Binding) : List Char :=
  Plugin.registryKey b.candidate.path

/-- The id under which the style is imported. -/
def styleId (b : Binding) : List Char :=
  VirtualModule.virtualId b.key (some b.style.css)

def answer (b : Binding) : TransformOutput :=
  ⟨b.output.code, b.output.map, b.candidate.path, b.warnings⟩

end Binding

namespace Plugin

/-- The binding of a component to the first of some candidates. -/
def bindingTo (p : Plugin) (tree : FileTree) (code id : List Char) (directory : Path)
    (candidates : List Style.Candidate) : Except Failure (Option Binding) :=
  match candidates with
  | [] => .ok none
  | candidate :: _ => do
    let style ← (p.styleOf tree candidate).result
    let styleId := VirtualModule.virtualId (registryKey candidate.path) (some style.css)
    let output ← (rewritten code id style.manifest styleId).result
    return some ⟨directory, candidate, style, output, warnings id candidates⟩

/-- The candidates for a component and the directory that they were found in; none for a module that is
no component, or that no directory is there for. -/
def candidates (p : Plugin) (tree : FileTree) (id : List Char) :
    Except Failure (Option (Path × List Style.Candidate)) :=
  if isForeign id then .ok none
  else do
    let component := Path.ofText (modulePath id)
    let accepted ← (p.resolved.filter.accepts component).result
    match accepted, component.parent with
    | true, some directory =>
      match ← (p.listing tree id directory).result with
      | none => return none
      | some paths =>
        let candidates ← (Style.resolve component paths p.resolved.strategy).result
        return some (directory, candidates)
    | _, _ => return none

/-- What a transform binds a component to, if it binds it at all. -/
def binding (p : Plugin) (tree : FileTree) (code id : List Char) : Except Failure (Option Binding) := do
  match ← p.candidates tree id with
  | none => return none
  | some (directory, candidates) => p.bindingTo tree code id directory candidates

def afterBinding (p : Plugin) (id : List Char) (b : Binding) : Plugin :=
  p.bound id b.directory b.candidate.path b.style.css

/-- How a transform ends, given the binding. -/
def ending (p : Plugin) (id : List Char) : Option Binding → Plugin × Option TransformOutput
  | none => (p, none)
  | some b => (p.afterBinding id b, some b.answer)

theorem bind_result (p : Plugin) (tree : FileTree) (code id : List Char) (directory : Path)
    (candidates : List Style.Candidate) :
    (p.bind tree code id directory candidates).result =
      p.ending id <$> p.bindingTo tree code id directory candidates := by
  cases candidates with
  | nil => rfl
  | cons candidate others =>
    have picked : (pick id (candidate :: others)).result = pure (some candidate) := rfl
    unfold bind bindingTo
    simp only [Traced.result_bind, picked, pure_bind, map_bind]
    refine bind_congr fun style => bind_congr fun output => ?_
    simp only [Traced.result_debug, Traced.result_pure]
    rfl

/-- A transform ends with the binding of its component. -/
theorem transform_result (p : Plugin) (tree : FileTree) (code id : List Char) :
    (p.transform tree code id).result = p.ending id <$> p.binding tree code id := by
  unfold transform binding candidates
  by_cases foreign : isForeign id = true
  · simp only [if_pos foreign]
    rfl
  · simp only [if_neg foreign, Traced.result_bind]
    cases (p.resolved.filter.accepts (Path.ofText (modulePath id))).result with
    | error failure => rfl
    | ok accepted =>
      cases accepted with
      | false => rfl
      | true =>
        cases (Path.ofText (modulePath id)).parent with
        | none => rfl
        | some directory =>
          simp only [Traced.ok_bind, Traced.result_bind]
          cases (p.listing tree id directory).result with
          | error failure => rfl
          | ok listing =>
            cases listing with
            | none => rfl
            | some paths =>
              simp only [Traced.ok_bind, Traced.result_bind]
              cases (Style.resolve (Path.ofText (modulePath id)) paths p.resolved.strategy).result with
              | error failure => rfl
              | ok found => exact p.bind_result tree code id directory found

/-- A binding is the outcome of reading and compiling its style and of rewriting the component. -/
theorem bindingTo_eq_some {p : Plugin} {tree : FileTree} {code id : List Char} {directory : Path}
    {candidates : List Style.Candidate} {b : Binding}
    (bound : p.bindingTo tree code id directory candidates = .ok (some b)) :
    b.directory = directory ∧ candidates.head? = some b.candidate
      ∧ (p.styleOf tree b.candidate).result = .ok b.style
      ∧ (rewritten code id b.style.manifest b.styleId).result = .ok b.output := by
  cases candidates with
  | nil => exact absurd bound (by simp [bindingTo])
  | cons candidate others =>
    obtain ⟨style, read, bound⟩ := Traced.bind_eq_ok_iff.mp bound
    obtain ⟨output, rewrites, bound⟩ := Traced.bind_eq_ok_iff.mp bound
    obtain rfl := Option.some.inj (Except.ok.inj bound)
    exact ⟨rfl, rfl, read, rewrites⟩

theorem binding_eq_some {p : Plugin} {tree : FileTree} {code id : List Char} {b : Binding}
    (bound : p.binding tree code id = .ok (some b)) :
    ∃ candidates, p.candidates tree id = .ok (some (b.directory, candidates))
      ∧ p.bindingTo tree code id b.directory candidates = .ok (some b) := by
  obtain ⟨found, searched, bound⟩ := Traced.bind_eq_ok_iff.mp bound
  cases found with
  | none => exact absurd (Except.ok.inj bound) (by simp)
  | some pair =>
    obtain ⟨directory, candidates⟩ := pair
    obtain rfl := (bindingTo_eq_some bound).1
    exact ⟨candidates, searched, bound⟩

/-- A transform that gives an output has bound the component. -/
theorem transform_eq_some {p q : Plugin} {tree : FileTree} {code id : List Char} {out : TransformOutput}
    (succeeds : (p.transform tree code id).result = .ok (q, some out)) :
    ∃ b, p.binding tree code id = .ok (some b) ∧ out = b.answer ∧ q = p.afterBinding id b := by
  rw [transform_result] at succeeds
  cases found : p.binding tree code id with
  | error failure =>
    rw [found] at succeeds
    exact absurd succeeds (by simp [Functor.map, Except.map])
  | ok found' =>
    rw [found] at succeeds
    have same := Except.ok.inj succeeds
    cases found' with
    | none => exact absurd (Prod.mk.inj same).2 (by simp)
    | some b =>
      obtain ⟨plugin, output⟩ := Prod.mk.inj same
      exact ⟨b, rfl, (Option.some.inj output).symm, plugin.symm⟩

theorem readText_of_mapError {read : Except AccessFault (List Char)} {path : Path} {source : List Char}
    (text : read.mapError (Failure.access path) = .ok source) : read = .ok source := by
  cases read with
  | error fault =>
    change Except.error _ = _ at text
    exact absurd text (by simp)
  | ok found => exact congrArg Except.ok (Except.ok.inj text)

/-- The text of a style that is no module is the text of its file. -/
theorem styleOf_plain {p : Plugin} {tree : FileTree} {c : Style.Candidate} {style : Style.Compiled}
    (plain : c.isModule = false) (read : (p.styleOf tree c).result = .ok style) :
    tree.readText c.path = .ok style.css := by
  unfold styleOf at read
  simp only [Traced.result_bind, Traced.result_ofExcept, plain] at read
  obtain ⟨source, text, same⟩ := Traced.bind_eq_ok_iff.mp read
  obtain rfl : Style.passThrough source = style := Except.ok.inj same
  exact readText_of_mapError text

/-- The text of a module is compiled from that of its file. -/
theorem styleOf_module {p : Plugin} {tree : FileTree} {c : Style.Candidate} {style : Style.Compiled}
    (isModule : c.isModule = true) (read : (p.styleOf tree c).result = .ok style) :
    ∃ source, tree.readText c.path = .ok source
      ∧ (p.compiler.compile c.path source p.moduleOptions).result = .ok style := by
  unfold styleOf at read
  simp only [Traced.result_bind, Traced.result_ofExcept, isModule, if_true] at read
  obtain ⟨source, text, compiled⟩ := Traced.bind_eq_ok_iff.mp read
  exact ⟨source, readText_of_mapError text, compiled⟩

/-- Two plugins were configured with the same. -/
structure Alike (p q : Plugin) : Prop where
  options : p.options = q.options
  resolved : p.resolved = q.resolved
  compiler : p.compiler = q.compiler
  host : p.host = q.host

theorem Alike.refl (p : Plugin) : p.Alike p :=
  ⟨rfl, rfl, rfl, rfl⟩

theorem Alike.trans {p q r : Plugin} (first : p.Alike q) (second : q.Alike r) : p.Alike r :=
  ⟨first.options.trans second.options, first.resolved.trans second.resolved,
    first.compiler.trans second.compiler, first.host.trans second.host⟩

theorem Alike.moduleOptions {p q : Plugin} (alike : p.Alike q) : p.moduleOptions = q.moduleOptions := by
  unfold Plugin.moduleOptions
  rw [alike.host, alike.options]

theorem Alike.isDev {p q : Plugin} (alike : p.Alike q) : p.isDev = q.isDev := by
  unfold Plugin.isDev
  rw [alike.host]

theorem Alike.candidates {p q : Plugin} (alike : p.Alike q) (tree : FileTree) (id : List Char) :
    p.candidates tree id = q.candidates tree id := by
  unfold Plugin.candidates Plugin.listing
  rw [alike.resolved]

theorem Alike.styleOf {p q : Plugin} (alike : p.Alike q) (tree : FileTree) (c : Style.Candidate) :
    p.styleOf tree c = q.styleOf tree c := by
  unfold Plugin.styleOf
  rw [alike.compiler, alike.moduleOptions]

theorem Alike.bindingTo {p q : Plugin} (alike : p.Alike q) (tree : FileTree) (code id : List Char)
    (directory : Path) (candidates : List Style.Candidate) :
    p.bindingTo tree code id directory candidates = q.bindingTo tree code id directory candidates := by
  unfold Plugin.bindingTo
  simp only [alike.styleOf]

/-- What is bound does not depend on what a plugin has served and tracked. -/
theorem Alike.binding {p q : Plugin} (alike : p.Alike q) (tree : FileTree) (code id : List Char) :
    p.binding tree code id = q.binding tree code id := by
  unfold Plugin.binding
  simp only [alike.candidates, alike.bindingTo]

theorem alike_afterBinding (p : Plugin) (id : List Char) (b : Binding) : (p.afterBinding id b).Alike p :=
  ⟨rfl, rfl, rfl, rfl⟩

end Plugin

end CompanionStyles
