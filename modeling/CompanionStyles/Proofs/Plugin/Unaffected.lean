import CompanionStyles.Proofs.FileTree.Changes
import CompanionStyles.Proofs.Plugin.Binding
import CompanionStyles.Proofs.Style.First

/-!
Changes that a binding does not notice: a component keeps its style and its output while no file is added
to its directory and the style itself stays as it is.
-/

namespace CompanionStyles.Plugin

theorem listing_eq_some_iff {p : Plugin} {tree : FileTree} {id : List Char} {directory : Path}
    {paths : List Path} (lists : p.resolved.strategy.listsFiles = true) :
    (p.listing tree id directory).result = .ok (some paths) ↔ tree.listDirectory directory = .ok paths := by
  unfold listing
  split
  · rename_i resolver strategy
    rw [strategy] at lists
    exact absurd lists Bool.false_ne_true
  · cases tree.listDirectory directory with
    | ok found => simp [Traced.result_pure]
    | error fault =>
      cases fault <;> simp [Traced.result_bind, Traced.result_debug, Traced.result_pure, Traced.result_fail]

theorem candidates_eq_some_iff {p : Plugin} {tree : FileTree} {id : List Char} {directory : Path}
    {candidates : List Style.Candidate} :
    p.candidates tree id = .ok (some (directory, candidates)) ↔
      isForeign id = false
        ∧ (p.resolved.filter.accepts (Path.ofText (modulePath id))).result = .ok true
        ∧ (Path.ofText (modulePath id)).parent = some directory
        ∧ ∃ paths, (p.listing tree id directory).result = .ok (some paths)
          ∧ (Style.resolve (Path.ofText (modulePath id)) paths p.resolved.strategy).result
            = .ok candidates := by
  unfold Plugin.candidates
  by_cases foreign : isForeign id = true
  · simp [foreign]
  · rw [if_neg foreign]
    rw [Bool.not_eq_true] at foreign
    constructor
    · intro found
      obtain ⟨accepted, accepts, found⟩ := Traced.bind_eq_ok_iff.mp found
      split at found
      · rename_i directory' parent
        obtain ⟨listing, listed, found⟩ := Traced.bind_eq_ok_iff.mp found
        cases listing with
        | none => exact absurd (Except.ok.inj found) (by simp)
        | some paths =>
          obtain ⟨candidates', resolved, found⟩ := Traced.bind_eq_ok_iff.mp found
          obtain ⟨rfl, rfl⟩ := Prod.mk.inj (Option.some.inj (Except.ok.inj found))
          exact ⟨foreign, accepts, parent, paths, listed, resolved⟩
      · exact absurd (Except.ok.inj found) (by simp)
    · rintro ⟨_, accepts, parent, paths, listed, resolved⟩
      refine Traced.bind_eq_ok_iff.mpr ⟨true, accepts, ?_⟩
      rw [parent]
      exact Traced.bind_eq_ok_iff.mpr ⟨some paths, listed, Traced.bind_eq_ok_iff.mpr ⟨candidates, resolved, rfl⟩⟩

/-- A component is bound in the directory that it lies in. -/
theorem parent_of_binding {p : Plugin} {tree : FileTree} {code id : List Char} {b : Binding}
    (bound : p.binding tree code id = .ok (some b)) :
    (Path.ofText (modulePath id)).parent = some b.directory := by
  obtain ⟨candidates, searched, _⟩ := binding_eq_some bound
  exact (candidates_eq_some_iff.mp searched).2.2.1

theorem styleOf_congr {before after : FileTree} (p : Plugin) {c : Style.Candidate}
    (same : after.readText c.path = before.readText c.path) : p.styleOf after c = p.styleOf before c := by
  unfold styleOf
  rw [same]

theorem readText_of_styleOf {p : Plugin} {tree : FileTree} {c : Style.Candidate} {style : Style.Compiled}
    (read : (p.styleOf tree c).result = .ok style) : ∃ source, tree.readText c.path = .ok source := by
  cases isModule : c.isModule with
  | false => exact ⟨style.css, styleOf_plain isModule read⟩
  | true =>
    obtain ⟨source, text, _⟩ := styleOf_module isModule read
    exact ⟨source, text⟩

/-- A component is bound as before on a tree on which a file was changed, unless the file was added to
its directory or is its style. -/
theorem binding_of_changes {p : Plugin} {before after : FileTree} {kind : WatchKind} {place : Place}
    {code id : List Char} {b : Binding} (lists : p.resolved.strategy.listsFiles = true)
    (changes : before.Changes kind place after) (bound : p.binding before code id = .ok (some b))
    (notAdded : kind = .add → before.locate b.directory ≠ .ok place.dropLast)
    (notStyle : kind ≠ .add → before.locate b.candidate.path ≠ .ok place) :
    ∃ b', p.binding after code id = .ok (some b') ∧ b'.candidate = b.candidate ∧ b'.output = b.output := by
  obtain ⟨candidates, searched, bound⟩ := binding_eq_some bound
  obtain ⟨own, accepts, parent, paths, listed, resolved⟩ := candidates_eq_some_iff.mp searched
  obtain ⟨_, first, read, rewrites⟩ := bindingTo_eq_some bound
  obtain ⟨source, text⟩ := readText_of_styleOf read
  obtain ⟨final, found, content, file⟩ := FileTree.file_of_readText text
  have untouched : before.locate b.candidate.path ≠ .ok place := by
    intro there
    by_cases add : kind = .add
    · obtain rfl := Except.ok.inj (found.symm.trans there)
      subst add
      exact absurd (file.symm.trans changes.turns.eq_none) (by simp)
    · exact notStyle add there
  obtain ⟨keep, listed', dropped⟩ :=
    changes.listDirectory ((listing_eq_some_iff lists).mp listed) notAdded
  have kept : keep b.candidate.path = true := by
    rw [← Bool.not_eq_false]
    intro lost
    obtain ⟨_, at_place⟩ := dropped _ (Style.path_mem_listing lists resolved first) lost
    exact untouched (found.trans (congrArg Except.ok (at_place final found)))
  obtain ⟨candidates', resolved', first'⟩ := Style.resolve_filter lists resolved first kept
  have searched' : p.candidates after id = .ok (some (b.directory, candidates')) :=
    candidates_eq_some_iff.mpr ⟨own, accepts, parent, _, (listing_eq_some_iff lists).mpr listed', resolved'⟩
  have read' : (p.styleOf after b.candidate).result = .ok b.style := by
    rw [styleOf_congr p ((changes.readText text untouched).trans text.symm), read]
  obtain ⟨others, rfl⟩ := List.head?_eq_some_iff.mp first'
  refine ⟨⟨b.directory, b.candidate, b.style, b.output, warnings id (b.candidate :: others)⟩, ?_, rfl, rfl⟩
  refine Traced.bind_eq_ok_iff.mpr ⟨_, searched', ?_⟩
  exact Traced.bind_eq_ok_iff.mpr ⟨b.style, read', Traced.bind_eq_ok_iff.mpr ⟨b.output, rewrites, rfl⟩⟩

end CompanionStyles.Plugin
