import CompanionStyles.Proofs.Plugin.Runs
import CompanionStyles.Proofs.Plugin.Unaffected
import CompanionStyles.Proofs.Reload.Tracker

/-!
What is tracked while components are worked on. An event asks to reload a component exactly if an earlier
transform bound it in the directory of the added file, or to the changed or removed style.
-/

namespace CompanionStyles

namespace Plugin

/-- What a host does while components are worked on, and the tree of files that it does it on. -/
inductive Step where
  | transform (tree : FileTree) (call : TransformCall) (answer : Except Failure (Option TransformOutput))
  | event (tree : FileTree) (e : WatchEvent)

/-- Work on components, the last step first: transforms, and changes of one file at a time, each with its
event. All that an event asks to reload has been transformed again before the next event. -/
inductive Works (p₀ : Plugin) : Plugin → FileTree → List Step → List (List Char) → Prop
  | start (tree : FileTree) : Works p₀ p₀ tree [] []
  | transform {p : Plugin} {tree : FileTree} {steps : List Step} {pending : List (List Char)}
      (call : TransformCall) : Works p₀ p tree steps pending →
      Works p₀ (p.after (.transform tree call.code call.id)) tree
        (.transform tree call (p.answer tree call) :: steps) (pending.filter (· ≠ call.id))
  | event {p : Plugin} {tree tree' : FileTree} {steps : List Step} {e : WatchEvent} :
      Works p₀ p tree steps [] → tree.Changes e.kind (tree.placeOf e.path) tree' →
      Works p₀ (p.after (.watch e)) tree' (.event tree e :: steps) (p.reloads e)

/-- A step did something, and no later one undid it. -/
def Since (did undone : Step → Prop) (steps : List Step) : Prop :=
  ∃ later step earlier, steps = later ++ step :: earlier ∧ did step ∧ ∀ other ∈ later, ¬undone other

namespace Step

def Transforms (id : List Char) : Step → Prop
  | transform _ call _ => call.id = id
  | event _ _ => False

/-- Whether a step is a transform of a component that gives an output. -/
def Binds (id : List Char) (bound : TransformOutput → Prop) : Step → Prop
  | transform _ call answer => call.id = id ∧ ∃ out, answer = .ok (some out) ∧ bound out
  | event _ _ => False

def Watches (happened : FileTree → WatchEvent → Prop) : Step → Prop
  | transform _ _ _ => False
  | event tree e => happened tree e

end Step

/-- The directory of a component. -/
def LiesIn (id : List Char) (directory : Path) : Prop :=
  ∃ parent, (Path.ofText (modulePath id)).parent = some parent ∧ parent.Equivalent directory

/-- A component was bound in a directory, and not removed since. -/
def BoundIn (steps : List Step) (id : List Char) (directory : Path) : Prop :=
  Since (Step.Binds id fun _ => LiesIn id directory) (Step.Watches fun _ e => e.Removes id) steps

/-- A component was bound to a style, and neither of them was removed since. -/
def BoundTo (steps : List Step) (id : List Char) (style : Path) : Prop :=
  Since (Step.Binds id fun out => out.style.Equivalent style)
    (Step.Watches fun _ e => e.Removes id ∨ e.RemovesFile style) steps

/-- What has been bound to what an event is about. -/
def Concerns (steps : List Step) (e : WatchEvent) (id : List Char) : Prop :=
  match e.kind with
  | .add => ∃ directory, e.path.parent = some directory ∧ BoundIn steps id directory
  | .change => BoundTo steps id e.path
  | .unlink => BoundTo steps id e.path
  | .unlinkDir => False

theorem since_nil {did undone : Step → Prop} : ¬Since did undone [] := by
  rintro ⟨later, step, earlier, split, _⟩
  exact absurd split (by simp)

theorem since_cons {did undone : Step → Prop} {step : Step} {steps : List Step} :
    Since did undone (step :: steps) ↔ did step ∨ ¬undone step ∧ Since did undone steps := by
  constructor
  · rintro ⟨later, other, earlier, split, done, stays⟩
    cases later with
    | nil =>
      obtain ⟨rfl, _⟩ := List.cons.inj split
      exact Or.inl done
    | cons first later =>
      obtain ⟨rfl, rest⟩ := List.cons.inj split
      exact Or.inr ⟨stays step List.mem_cons_self, later, other, earlier, rest, done,
        fun other among => stays other (List.mem_cons_of_mem step among)⟩
  · rintro (done | ⟨stays, later, other, earlier, rfl, done, stays'⟩)
    · exact ⟨[], step, steps, rfl, done, fun other among => absurd among List.not_mem_nil⟩
    · refine ⟨step :: later, other, earlier, rfl, done, ?_⟩
      intro other' among
      rcases List.mem_cons.mp among with rfl | among
      · exact stays
      · exact stays' other' among

theorem since_cons_of_not_undone {did undone : Step → Prop} {step : Step} {steps : List Step}
    (stays : ¬undone step) : Since did undone (step :: steps) ↔ did step ∨ Since did undone steps :=
  since_cons.trans (or_congr_right (and_iff_right stays))

theorem since_cons_of_not_did {did undone : Step → Prop} {step : Step} {steps : List Step}
    (new : ¬did step) : Since did undone (step :: steps) ↔ ¬undone step ∧ Since did undone steps :=
  since_cons.trans (or_iff_right new)

theorem after_watch {p : Plugin} {e : WatchEvent} (dev : p.isDev = true) :
    p.after (.watch e) = { p with tracker := p.tracker.after e } := by
  unfold after keep watch
  dsimp only
  rw [if_pos dev]
  rfl

/-- The ids that are reloaded are those that a watcher's host is told. -/
theorem watch_result {p : Plugin} {e : WatchEvent} (dev : p.isDev = true) :
    (p.watch e).result = .ok (p.after (.watch e), p.reloads e) := by
  rw [after_watch dev, watch, if_pos dev]
  rfl

theorem alike_after_watch {p : Plugin} {e : WatchEvent} (dev : p.isDev = true) :
    (p.after (.watch e)).Alike p := by
  rw [after_watch dev]
  exact ⟨rfl, rfl, rfl, rfl⟩

theorem Works.alike {p₀ p : Plugin} {tree : FileTree} {steps : List Step} {pending : List (List Char)}
    (works : Works p₀ p tree steps pending) (dev : p₀.isDev = true) : p.Alike p₀ := by
  induction works with
  | start tree => exact .refl p₀
  | transform call _ ih => exact (alike_after_transform _ _ _ _).trans ih
  | event _ _ ih => exact (alike_after_watch (ih.isDev.trans dev)).trans ih

theorem answer_eq_some_iff {p : Plugin} {tree : FileTree} {call : TransformCall} {out : TransformOutput} :
    p.answer tree call = .ok (some out) ↔
      ∃ b, p.binding tree call.code call.id = .ok (some b) ∧ b.answer = out := by
  rw [answer_eq]
  cases p.binding tree call.code call.id with
  | error failure => simp [Functor.map, Except.map]
  | ok bound => simp [Functor.map, Except.map]

/-- A transform is tracked if it gives an output, and only then. -/
theorem tracker_after_transform {p : Plugin} (tree : FileTree) (call : TransformCall)
    (dev : p.isDev = true) :
    (∃ b, p.binding tree call.code call.id = .ok (some b)
      ∧ (p.after (.transform tree call.code call.id)).tracker
        = p.tracker.record call.id b.directory b.candidate.path)
    ∨ (∀ b, p.binding tree call.code call.id ≠ .ok (some b))
      ∧ (p.after (.transform tree call.code call.id)).tracker = p.tracker := by
  rw [after_transform, bindingOf]
  cases p.binding tree call.code call.id with
  | error failure => exact Or.inr ⟨by simp, rfl⟩
  | ok bound =>
    cases bound with
    | none => exact Or.inr ⟨by simp, rfl⟩
    | some b => exact Or.inl ⟨b, rfl, if_pos dev⟩

theorem binds_iff {p : Plugin} {tree : FileTree} {call : TransformCall} {id : List Char}
    {bound : TransformOutput → Prop} :
    Step.Binds id bound (.transform tree call (p.answer tree call)) ↔
      call.id = id ∧ ∃ b, p.binding tree call.code call.id = .ok (some b) ∧ bound b.answer := by
  refine and_congr_right fun _ => ⟨?_, ?_⟩
  · rintro ⟨out, answered, done⟩
    obtain ⟨b, found, rfl⟩ := answer_eq_some_iff.mp answered
    exact ⟨b, found, done⟩
  · rintro ⟨b, found, done⟩
    exact ⟨b.answer, answer_eq_some_iff.mpr ⟨b, found, rfl⟩, done⟩

/-- What is known after a transform, if it is told what is known once a binding has been recorded. -/
theorem knows_transform {p : Plugin} {tree : FileTree} {call : TransformCall} {id : List Char}
    {bound : TransformOutput → Prop} (knows : Tracker → Prop) (dev : p.isDev = true)
    (recorded : ∀ b, p.binding tree call.code call.id = .ok (some b) →
      (knows (p.tracker.record call.id b.directory b.candidate.path) ↔
        call.id = id ∧ bound b.answer ∨ knows p.tracker)) :
    knows (p.after (.transform tree call.code call.id)).tracker ↔
      Step.Binds id bound (.transform tree call (p.answer tree call)) ∨ knows p.tracker := by
  rw [binds_iff]
  rcases tracker_after_transform tree call dev with ⟨b, found, tracked⟩ | ⟨unbound, tracked⟩
  · rw [tracked, recorded b found]
    refine or_congr_left (and_congr_right fun _ => ⟨fun done => ⟨b, found, done⟩, ?_⟩)
    rintro ⟨b', found', done⟩
    obtain rfl := Option.some.inj (Except.ok.inj (found.symm.trans found'))
    exact done
  · rw [tracked]
    refine (or_iff_right ?_).symm
    rintro ⟨_, b, found, _⟩
    exact unbound b found

/-- One transform: a directory has the component that was bound in it, and those it had. -/
theorem mem_componentsInDirectory_transform {p : Plugin} {tree : FileTree} {call : TransformCall}
    {id : List Char} {directory : Path} (dev : p.isDev = true) :
    id ∈ (p.after (.transform tree call.code call.id)).tracker.componentsInDirectory directory ↔
      Step.Binds id (fun _ => LiesIn id directory) (.transform tree call (p.answer tree call))
        ∨ id ∈ p.tracker.componentsInDirectory directory := by
  refine knows_transform (fun t => id ∈ t.componentsInDirectory directory) dev fun b found => ?_
  refine Tracker.mem_componentsInDirectory_record.trans (or_congr_left ?_)
  constructor
  · rintro ⟨same, rfl⟩
    exact ⟨rfl, b.directory, parent_of_binding found, same⟩
  · rintro ⟨rfl, parent, lies, same⟩
    rw [parent_of_binding found] at lies
    obtain rfl := Option.some.inj lies
    exact ⟨same, rfl⟩

/-- One transform: a style has the component that was bound to it, and those it had. -/
theorem mem_componentsForStyle_transform {p : Plugin} {tree : FileTree} {call : TransformCall}
    {id : List Char} {style : Path} (dev : p.isDev = true) :
    id ∈ (p.after (.transform tree call.code call.id)).tracker.componentsForStyle style ↔
      Step.Binds id (fun out => out.style.Equivalent style) (.transform tree call (p.answer tree call))
        ∨ id ∈ p.tracker.componentsForStyle style := by
  refine knows_transform (fun t => id ∈ t.componentsForStyle style) dev fun b _ => ?_
  refine Tracker.mem_componentsForStyle_record.trans (or_congr_left ?_)
  exact and_comm.trans (and_congr_left fun _ => eq_comm)

/-- What is known after work: what a transform made known, unless a later event undid it. -/
theorem Works.knows_iff {p₀ p : Plugin} {tree : FileTree} {steps : List Step}
    {pending : List (List Char)} {id : List Char} {bound : TransformOutput → Prop}
    {undone : WatchEvent → Prop} (works : Works p₀ p tree steps pending) (dev : p₀.isDev = true)
    (fresh : p₀.tracker = .empty) (knows : Tracker → Prop) (nothing : ¬knows .empty)
    (transformed : ∀ (p : Plugin) (tree : FileTree) (call : TransformCall), p.isDev = true →
      (knows (p.after (.transform tree call.code call.id)).tracker ↔
        Step.Binds id bound (.transform tree call (p.answer tree call)) ∨ knows p.tracker))
    (watched : ∀ (t : Tracker) (e : WatchEvent), e.kind ≠ .unlinkDir →
      (knows (t.after e) ↔ ¬undone e ∧ knows t)) :
    knows p.tracker ↔ Since (Step.Binds id bound) (Step.Watches fun _ e => undone e) steps := by
  induction works with
  | start tree =>
    rw [fresh]
    exact iff_of_false nothing since_nil
  | transform call before ih =>
    rw [transformed _ _ call ((before.alike dev).isDev.trans dev), ih]
    refine Iff.symm ?_
    exact since_cons_of_not_undone not_false
  | event before changes ih =>
    rw [after_watch ((before.alike dev).isDev.trans dev), watched _ _ changes.turns.ne_unlinkDir, ih]
    refine Iff.symm ?_
    exact since_cons_of_not_did not_false

/-- The tracker knows for a directory the components that were bound in it. -/
theorem Works.mem_componentsInDirectory {p₀ p : Plugin} {tree : FileTree} {steps : List Step}
    {pending : List (List Char)} (works : Works p₀ p tree steps pending) (dev : p₀.isDev = true)
    (fresh : p₀.tracker = .empty) {id : List Char} {directory : Path} :
    id ∈ p.tracker.componentsInDirectory directory ↔ BoundIn steps id directory :=
  works.knows_iff dev fresh (fun t => id ∈ t.componentsInDirectory directory) List.not_mem_nil
    (fun _ _ _ devNow => mem_componentsInDirectory_transform devNow)
    fun _ _ isFile => Tracker.mem_componentsInDirectory_after isFile

/-- The tracker knows for a style the components that were bound to it. -/
theorem Works.mem_componentsForStyle {p₀ p : Plugin} {tree : FileTree} {steps : List Step}
    {pending : List (List Char)} (works : Works p₀ p tree steps pending) (dev : p₀.isDev = true)
    (fresh : p₀.tracker = .empty) {id : List Char} {style : Path} :
    id ∈ p.tracker.componentsForStyle style ↔ BoundTo steps id style :=
  works.knows_iff dev fresh (fun t => id ∈ t.componentsForStyle style) List.not_mem_nil
    (fun _ _ _ devNow => mem_componentsForStyle_transform devNow)
    fun _ _ _ => Tracker.mem_componentsForStyle_after

/-- An event asks to reload exactly the components that were bound to what it is about. -/
theorem Works.mem_reloads_iff {p₀ p : Plugin} {tree : FileTree} {steps : List Step}
    {pending : List (List Char)} (works : Works p₀ p tree steps pending) (dev : p₀.isDev = true)
    (fresh : p₀.tracker = .empty) {e : WatchEvent} {id : List Char} :
    id ∈ p.reloads e ↔ Concerns steps e id := by
  obtain ⟨kind, path⟩ := e
  rw [reloads, if_pos ((works.alike dev).isDev.trans dev)]
  unfold Tracker.affected Concerns
  cases kind with
  | add =>
    dsimp only
    cases path.parent with
    | none => simp
    | some directory => simpa using works.mem_componentsInDirectory dev fresh
  | change => exact works.mem_componentsForStyle dev fresh
  | unlink => exact works.mem_componentsForStyle dev fresh
  | unlinkDir => exact iff_of_false List.not_mem_nil fun none => none

end Plugin

end CompanionStyles
