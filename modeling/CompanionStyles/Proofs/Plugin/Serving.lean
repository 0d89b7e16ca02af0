import CompanionStyles.Proofs.Component.ImportLine
import CompanionStyles.Proofs.Plugin.Runs

/-!
What a transform promises: the id that a component imports its style by is served from then on, with the
text of the last style that was bound under the same path.
-/

namespace CompanionStyles.Plugin

/-- A bound component starts with the import of its style. -/
theorem importLine_prefix_of_binding {p : Plugin} {tree : FileTree} {code id : List Char} {b : Binding}
    (bound : p.binding tree code id = .ok (some b)) :
    Component.importLine b.styleId <+: b.answer.code.toList := by
  obtain ⟨candidates, _, bound⟩ := binding_eq_some bound
  obtain ⟨_, _, _, rewrites⟩ := bindingTo_eq_some bound
  unfold rewritten at rewrites
  rw [Traced.result_bind, Traced.result_write, Traced.ok_bind] at rewrites
  split at rewrites
  · rename_i output done
    obtain rfl := Except.ok.inj rewrites
    exact Component.rewrite_starts done
  · exact absurd rewrites (by simp)

/-- Once a style has been bound under a path, the run after it has a last style for the path. -/
theorem lastCss_isSome (p : Plugin) (key : List Char) (action : Action) (later : List Action)
    (bound : (p.cssOf key action).isSome = true) (before : List Action) (start : Plugin)
    (here : p = start.run before) : (start.lastCss key (before ++ action :: later)).isSome = true := by
  induction before generalizing start with
  | nil =>
    obtain rfl : p = start := here
    rw [List.nil_append, lastCss, Option.isSome_or, bound, Bool.or_true]
  | cons first before ih =>
    rw [List.cons_append, lastCss, Option.isSome_or, ih (start.after first) here, Bool.true_or]

/-- For every transform of a run that gives an output, under a path that is not empty: the output starts
with the import of the id that the path and the style's text make, the id is claimed, and it is the one
that the registry gives right afterwards. From then on every id of the path, marked or not, gets the text
of the last style that a transform has bound under the path. -/
theorem transform_serves (p : Plugin) (before : List Action) (tree : FileTree) (code id : List Char)
    (q : Plugin) (out : TransformOutput)
    (succeeds : ((p.run before).transform tree code id).result = .ok (q, some out))
    (named : registryKey out.style ≠ []) :
    ∃ b, (p.run before).binding tree code id = .ok (some b) ∧ out = b.answer
      ∧ (b.candidate.isModule = false → tree.readText out.style = .ok b.style.css)
      ∧ (b.candidate.isModule = true → ∃ source, tree.readText out.style = .ok source
        ∧ ((p.run before).compiler.compile out.style source (p.run before).moduleOptions).result
          = .ok b.style)
      ∧ Component.importLine b.styleId <+: out.code.toList
      ∧ VirtualModule.resolveId b.styleId = some ('\x00' :: b.styleId)
      ∧ q = p.run (before ++ [.transform tree code id])
      ∧ q.registry.generateId b.key = b.styleId
      ∧ ∀ later, ∃ last,
        p.lastCss b.key (before ++ .transform tree code id :: later) = some last
        ∧ ∀ issued,
          (p.run (before ++ .transform tree code id :: later)).load
            (VirtualModule.virtualId b.key issued) = .ok (some last)
          ∧ (p.run (before ++ .transform tree code id :: later)).load
            ('\x00' :: VirtualModule.virtualId b.key issued) = .ok (some last) := by
  obtain ⟨b, bound, rfl, rfl⟩ := transform_eq_some succeeds
  obtain ⟨candidates, _, found⟩ := binding_eq_some bound
  have read := (bindingTo_eq_some found).2.2.1
  have ends : (p.run before).after (.transform tree code id) = (p.run before).afterBinding id b := by
    rw [after_transform, bindingOf, bound]
  have css : (p.run before).cssOf b.key (.transform tree code id) = some b.style.css := by
    simp [cssOf, bindingOf, bound]
  refine ⟨b, bound, rfl, fun plain => styleOf_plain plain read, fun isModule => styleOf_module isModule read,
    importLine_prefix_of_binding bound, VirtualModule.resolveId_virtualId _ _, ?_, ?_, ?_⟩
  · rw [run_append, run_cons, ends]
    rfl
  · have registered : ((p.run before).afterBinding id b).registry.get? b.key = some b.style.css := by
      rw [← ends, after_get?, css]
      rfl
    exact congrArg (VirtualModule.virtualId b.key) registered
  · intro later
    have some := lastCss_isSome (p.run before) b.key (.transform tree code id) later (by simp [css])
      before p rfl
    obtain ⟨last, same⟩ := Option.isSome_iff_exists.mp some
    have registered :
        (p.run (before ++ .transform tree code id :: later)).registry.get? b.key = Option.some last := by
      rw [run_get?, same]
      rfl
    refine ⟨last, same, fun issued => ⟨?_, ?_⟩⟩
    · exact load_names ⟨issued, Or.inl rfl⟩ named registered
    · exact load_names ⟨issued, Or.inr rfl⟩ named registered

/-- With default options, a component beside a plain style imports it, and gets the text of its file. -/
theorem transform_serves_plain :
    ∃ (p q : Plugin) (out : TransformOutput) (b : Binding),
      (create (.ofSettings .default)).result = .ok p
      ∧ (p.transform (FileTree.empty.writeFile (.ofText "s/a.css".toList) (Utf8.encode ".x".toList))
        "f()".toList "s/a.tsx".toList).result = .ok (q, some out)
      ∧ registryKey out.style ≠ [] ∧ out = b.answer
      ∧ Component.importLine b.styleId <+: out.code.toList
      ∧ q.registry.generateId b.key = b.styleId
      ∧ q.load b.styleId = .ok (some ".x".toList) := by
  have ends : Traced.passes (fun p => Traced.passes (fun ending => ending.2.any fun out =>
        decide (registryKey out.style ≠ []
          ∧ ending.1.registry.get? (registryKey out.style) = some ".x".toList))
      (p.transform (FileTree.empty.writeFile (.ofText "s/a.css".toList) (Utf8.encode ".x".toList))
        "f()".toList "s/a.tsx".toList).result) (create (.ofSettings .default)).result = true := by
    decide +kernel
  obtain ⟨p, created, ends⟩ := Traced.passes_iff.mp ends
  obtain ⟨⟨q, output⟩, succeeds, ends⟩ := Traced.passes_iff.mp ends
  obtain ⟨out, rfl, ends⟩ := (Option.any_eq_true _ _).mp ends
  obtain ⟨named, registered⟩ := of_decide_eq_true ends
  obtain ⟨b, _, rfl, _, _, line, _, same, generated, served⟩ :=
    transform_serves p [] _ _ _ q out succeeds named
  have load : q.load b.styleId = .ok (some ".x".toList) :=
    load_names ⟨some b.style.css, Or.inl rfl⟩ named registered
  exact ⟨p, q, b.answer, b, created, succeeds, named, rfl, line, generated, load⟩

end CompanionStyles.Plugin
