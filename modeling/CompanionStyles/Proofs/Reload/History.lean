import Mathlib.Data.Char
import Mathlib.Data.List.Lex
import CompanionStyles.Proofs.Reload.Tracker

/-!
What a tracker knows, told by its history. An id belongs to a style or to a directory exactly if it was
recorded there and no later event has undone that. The ids of an event come in increasing order, and a
reloader gets them in that order.
-/

namespace CompanionStyles

namespace Associations

/-- No path is without ids, and the ids of every path increase. -/
def Ordered (a : Associations) : Prop :=
  ∀ e ∈ a.entries, e.2 ≠ [] ∧ e.2.Pairwise (· < ·)

theorem ordered_empty : empty.Ordered := by
  intro e inside
  exact absurd inside List.not_mem_nil

theorem insertId_ne_nil (id : List Char) (ids : List (List Char)) : insertId id ids ≠ [] :=
  List.ne_nil_of_mem (mem_insertId.mpr (Or.inl rfl))

theorem insertId_pairwise (id : List Char) {ids : List (List Char)} (sorted : ids.Pairwise (· < ·)) :
    (insertId id ids).Pairwise (· < ·) := by
  induction ids with
  | nil => exact List.pairwise_singleton _ id
  | cons other rest ih =>
    obtain ⟨least, sorted'⟩ := List.pairwise_cons.mp sorted
    rw [insertId]
    split
    · exact sorted
    · rename_i new
      split
      · rename_i before
        refine List.pairwise_cons.mpr ⟨fun later member => ?_, sorted⟩
        rcases List.mem_cons.mp member with rfl | member
        · exact before
        · exact lt_trans before (least later member)
      · rename_i notBefore
        have behind : other < id := lt_of_le_of_ne (not_lt.mp notBefore) (Ne.symm new)
        refine List.pairwise_cons.mpr ⟨fun later member => ?_, ih sorted'⟩
        rcases mem_insertId.mp member with rfl | member
        · exact behind
        · exact least later member

theorem Ordered.insert {a : Associations} (ordered : a.Ordered) (path : Path) (id : List Char) :
    (a.insert path id).Ordered := by
  obtain ⟨entries, distinct⟩ := a
  unfold Ordered Associations.insert at *
  dsimp only at *
  clear distinct
  induction entries with
  | nil =>
    intro e inside
    obtain rfl := List.mem_singleton.mp inside
    exact ⟨List.cons_ne_nil id [], List.pairwise_singleton _ id⟩
  | cons first rest ih =>
    have here := ordered first List.mem_cons_self
    have later := fun e member => ordered e (List.mem_cons_of_mem first member)
    intro e inside
    rw [insertEntry] at inside
    split at inside
    · rcases List.mem_cons.mp inside with rfl | inside
      · exact ⟨insertId_ne_nil id _, insertId_pairwise id here.2⟩
      · exact later e inside
    · rcases List.mem_cons.mp inside with rfl | inside
      · exact here
      · exact ih later e inside

theorem Ordered.erase {a : Associations} (ordered : a.Ordered) (path : Path) : (a.erase path).Ordered :=
  fun e inside => ordered e (List.mem_filter.mp inside).1

theorem Ordered.keepIds {a : Associations} (ordered : a.Ordered) (keep : List Char → Bool) :
    (a.keepIds keep).Ordered := by
  intro e inside
  obtain ⟨inside, solid⟩ := List.mem_filter.mp inside
  obtain ⟨f, among, rfl⟩ := List.mem_map.mp inside
  rw [Bool.not_eq_true', List.isEmpty_eq_false_iff] at solid
  exact ⟨solid, (ordered f among).2.filter _⟩

theorem Ordered.get_pairwise {a : Associations} (ordered : a.Ordered) (path : Path) :
    (a.get path).Pairwise (· < ·) := by
  unfold get
  split
  · rename_i found
    exact (ordered _ (List.mem_of_find?_eq_some found)).2
  · exact List.Pairwise.nil

/-- A path has an entry exactly if it has ids. -/
theorem Ordered.get_ne_nil_iff {a : Associations} (ordered : a.Ordered) {path : Path} :
    a.get path ≠ [] ↔ ∃ e ∈ a.entries, e.1.Equivalent path := by
  constructor
  · intro some
    obtain ⟨id, inside⟩ := List.exists_mem_of_ne_nil _ some
    obtain ⟨e, among, same, _⟩ := mem_get_iff.mp inside
    exact ⟨e, among, same⟩
  · rintro ⟨e, among, same⟩
    obtain ⟨id, inside⟩ := List.exists_mem_of_ne_nil _ (ordered e among).1
    exact List.ne_nil_of_mem (mem_get_iff.mpr ⟨e, among, same, inside⟩)

end Associations

/-- What is done with a tracker. -/
inductive TrackerStep where
  | record (id : List Char) (directory style : Path)
  | event (e : WatchEvent)

/-- An id was recorded with paths of some kind, and no event since then has undone that. The history
starts with its first step. -/
def Stands (steps : List TrackerStep) (id : List Char) (kind : Path → Path → Prop)
    (undone : WatchEvent → Prop) : Prop :=
  ∃ before directory style after, steps = before ++ .record id directory style :: after
    ∧ kind directory style ∧ ∀ e, .event e ∈ after → ¬undone e

/-- An id was recorded for a style; since then, neither the style was removed nor the component. -/
def StandsForStyle (steps : List TrackerStep) (id : List Char) (style : Path) : Prop :=
  Stands steps id (fun _ other => other.Equivalent style)
    fun e => e.Removes id ∨ e.RemovesFile style

/-- An id was recorded for a directory; since then, neither the directory was removed nor the component. -/
def StandsInDirectory (steps : List TrackerStep) (id : List Char) (directory : Path) : Prop :=
  Stands steps id (fun other _ => other.Equivalent directory)
    fun e => e.Removes id ∨ e.RemovesDirectory directory

/-- The ids that an event is about: those in the directory of an added file, those for a changed or removed
style, none for a removed directory. -/
def StandsFor (steps : List TrackerStep) (e : WatchEvent) (id : List Char) : Prop :=
  match e.kind with
  | .add => ∃ directory, e.path.parent = some directory ∧ StandsInDirectory steps id directory
  | .change => StandsForStyle steps id e.path
  | .unlink => StandsForStyle steps id e.path
  | .unlinkDir => False

theorem not_stands_nil {id : List Char} {kind : Path → Path → Prop} {undone : WatchEvent → Prop} :
    ¬Stands [] id kind undone := by
  rintro ⟨before, _, _, after, split, _⟩
  exact absurd split (by simp)

theorem stands_cons {step : TrackerStep} {steps : List TrackerStep} {id : List Char}
    {kind : Path → Path → Prop} {undone : WatchEvent → Prop} :
    Stands (step :: steps) id kind undone ↔
      ((∃ directory style, step = .record id directory style ∧ kind directory style)
        ∧ ∀ e, .event e ∈ steps → ¬undone e)
      ∨ Stands steps id kind undone := by
  constructor
  · rintro ⟨before, directory, style, after, split, fits, stays⟩
    cases before with
    | nil =>
      obtain ⟨rfl, rfl⟩ := List.cons.inj split
      exact Or.inl ⟨⟨directory, style, rfl, fits⟩, stays⟩
    | cons first before =>
      obtain ⟨rfl, rfl⟩ := List.cons.inj split
      exact Or.inr ⟨before, directory, style, after, rfl, fits, stays⟩
  · rintro (⟨⟨directory, style, rfl, fits⟩, stays⟩ | ⟨before, directory, style, after, rfl, fits, stays⟩)
    · exact ⟨[], directory, style, steps, rfl, fits, stays⟩
    · exact ⟨step :: before, directory, style, after, rfl, fits, stays⟩

namespace Tracker

def step (t : Tracker) : TrackerStep → Tracker
  | .record id directory style => t.record id directory style
  | .event e => t.after e

def follow (t : Tracker) (steps : List TrackerStep) : Tracker :=
  steps.foldl step t

theorem follow_cons (t : Tracker) (first : TrackerStep) (steps : List TrackerStep) :
    t.follow (first :: steps) = (t.step first).follow steps :=
  rfl

/-- What is known after some steps: what one of them recorded, or what was known before, unless a later
event undid it. By induction on the steps, from any tracker on. -/
theorem follow_knows_iff {id : List Char} {kind : Path → Path → Prop} {undone : WatchEvent → Prop}
    (knows : Tracker → Prop)
    (recorded : ∀ t other directory style,
      knows (record t other directory style) ↔ (other = id ∧ kind directory style) ∨ knows t)
    (watched : ∀ t e, knows (after t e) ↔ ¬undone e ∧ knows t) (t : Tracker) (steps : List TrackerStep) :
    knows (t.follow steps) ↔
      Stands steps id kind undone ∨ knows t ∧ ∀ e, .event e ∈ steps → ¬undone e := by
  induction steps generalizing t with
  | nil => simp [follow, not_stands_nil]
  | cons first steps ih =>
    rw [follow_cons, ih, stands_cons]
    cases first with
    | record other directory style =>
      have here : (∃ directory' style', TrackerStep.record other directory style = .record id directory' style'
          ∧ kind directory' style') ↔ other = id ∧ kind directory style := by
        constructor
        · rintro ⟨_, _, same, fits⟩
          obtain ⟨rfl, rfl, rfl⟩ := TrackerStep.record.inj same
          exact ⟨rfl, fits⟩
        · rintro ⟨rfl, fits⟩
          exact ⟨directory, style, rfl, fits⟩
      have later : (∀ e, TrackerStep.event e ∈ TrackerStep.record other directory style :: steps → ¬undone e) ↔
          ∀ e, TrackerStep.event e ∈ steps → ¬undone e := by
        simp
      rw [here, later, step, recorded, or_and_right]
      exact or_left_comm.trans or_assoc.symm
    | event e =>
      have none : ¬∃ directory' style', TrackerStep.event e = .record id directory' style'
          ∧ kind directory' style' := by
        rintro ⟨_, _, same, _⟩
        exact absurd same (by simp)
      have later : (∀ f, TrackerStep.event f ∈ TrackerStep.event e :: steps → ¬undone f) ↔
          ¬undone e ∧ ∀ f, TrackerStep.event f ∈ steps → ¬undone f := by
        simp
      rw [later, step, watched, and_assoc, and_left_comm]
      exact or_congr_left (or_iff_right fun bound => none bound.1).symm

theorem follow_mem_componentsForStyle {steps : List TrackerStep} {id : List Char} {style : Path} :
    id ∈ (empty.follow steps).componentsForStyle style ↔ StandsForStyle steps id style := by
  have recorded : ∀ (t : Tracker) (other : List Char) (directory style' : Path),
      id ∈ (t.record other directory style').componentsForStyle style ↔
        (other = id ∧ style'.Equivalent style) ∨ id ∈ t.componentsForStyle style := by
    intro t other directory style'
    rw [mem_componentsForStyle_record, and_comm, eq_comm]
  rw [follow_knows_iff (fun t => id ∈ t.componentsForStyle style) recorded
    fun _ _ => mem_componentsForStyle_after]
  exact or_iff_left fun known => absurd known.1 List.not_mem_nil

theorem follow_mem_componentsInDirectory {steps : List TrackerStep} {id : List Char} {directory : Path} :
    id ∈ (empty.follow steps).componentsInDirectory directory ↔ StandsInDirectory steps id directory := by
  have recorded : ∀ (t : Tracker) (other : List Char) (directory' style : Path),
      id ∈ (t.record other directory' style).componentsInDirectory directory ↔
        (other = id ∧ directory'.Equivalent directory) ∨ id ∈ t.componentsInDirectory directory := by
    intro t other directory' style
    rw [mem_componentsInDirectory_record, and_comm, eq_comm]
  rw [follow_knows_iff (fun t => id ∈ t.componentsInDirectory directory) recorded
    fun _ _ => mem_componentsInDirectory_after_iff]
  exact or_iff_left fun known => absurd known.1 List.not_mem_nil

/-- The ids of every path that a tracker knows increase, and no path is without. -/
structure Ordered (t : Tracker) : Prop where
  byDirectory : t.byDirectory.Ordered
  byStyle : t.byStyle.Ordered

theorem Ordered.step {t : Tracker} (ordered : t.Ordered) (next : TrackerStep) : (t.step next).Ordered := by
  cases next with
  | record id directory style => exact ⟨ordered.byDirectory.insert directory id, ordered.byStyle.insert style id⟩
  | event e =>
    obtain ⟨kind, path⟩ := e
    cases kind with
    | add => exact ordered
    | change => exact ordered
    | unlink => exact ⟨ordered.byDirectory.keepIds _, (ordered.byStyle.erase path).keepIds _⟩
    | unlinkDir => exact ⟨ordered.byDirectory.erase path, ordered.byStyle⟩

theorem Ordered.follow {t : Tracker} (ordered : t.Ordered) (steps : List TrackerStep) :
    (t.follow steps).Ordered := by
  induction steps generalizing t with
  | nil => exact ordered
  | cons first steps ih => exact ih (ordered.step first)

theorem ordered_empty : empty.Ordered :=
  ⟨Associations.ordered_empty, Associations.ordered_empty⟩

theorem Ordered.isTrackedDirectory_iff {t : Tracker} (ordered : t.Ordered) {directory : Path} :
    t.isTrackedDirectory directory = true ↔ t.componentsInDirectory directory ≠ [] := by
  unfold isTrackedDirectory componentsInDirectory
  rw [ordered.byDirectory.get_ne_nil_iff, List.any_eq_true]
  simp only [decide_eq_true_eq]

theorem Ordered.affected_pairwise {t : Tracker} (ordered : t.Ordered) (e : WatchEvent) :
    (t.affected e).Pairwise (· < ·) := by
  unfold affected
  split
  · split
    · exact ordered.byDirectory.get_pairwise _
    · exact List.Pairwise.nil
  · exact ordered.byStyle.get_pairwise _
  · exact ordered.byStyle.get_pairwise _
  · exact List.Pairwise.nil

theorem follow_mem_affected {steps : List TrackerStep} {e : WatchEvent} {id : List Char} :
    id ∈ (empty.follow steps).affected e ↔ StandsFor steps e id := by
  obtain ⟨kind, path⟩ := e
  unfold affected StandsFor
  cases kind with
  | add =>
    dsimp only
    cases path.parent with
    | none => simp
    | some directory => simpa using follow_mem_componentsInDirectory
  | change => exact follow_mem_componentsForStyle
  | unlink => exact follow_mem_componentsForStyle
  | unlinkDir => simp

/-- A reloader that notes the ids that it is called with, and does some work on the tracker. -/
def noting (work : List Char → Tracker → Tracker) (id : List Char) :
    StateT Tracker (StateM (List (List Char))) Unit := do
  modifyThe (List (List Char)) (· ++ [id])
  modify (work id)

theorem forM_noting (work : List Char → Tracker → Tracker) (ids : List (List Char)) (t : Tracker)
    (called : List (List Char)) :
    ((ids.forM (noting work)).run t).run called
      = (((), ids.foldl (fun t id => work id t) t), called ++ ids) := by
  induction ids generalizing t called with
  | nil => simp [List.forM]; rfl
  | cons id ids ih =>
    have first : ((noting work id).run t).run called = (((), work id t), called ++ [id]) := rfl
    have rest := ih (work id t) (called ++ [id])
    rw [List.append_assoc, List.singleton_append] at rest
    rw [List.foldl_cons, ← rest]
    rfl

/-- An event that is taken calls the reloader on the ids that it gives, in their order, when the tracker has
changed already. -/
theorem handle_noting (work : List Char → Tracker → Tracker) (e : WatchEvent) (t : Tracker)
    (called : List (List Char)) :
    ((handle e (noting work)).run t).run called
      = ((t.affected e, (t.affected e).foldl (fun t id => work id t) (t.after e)),
        called ++ t.affected e) := by
  have order : ((handle e (noting work)).run t).run called
      = match (((t.affected e).forM (noting work)).run (t.after e)).run called with
        | (((), t'), called') => ((t.affected e, t'), called') :=
    rfl
  rw [order, forM_noting]

/-- After any records and events, a style and a directory have exactly the ids that were recorded there, but
for those of which a later event has removed the place or the component; a directory is tracked if it has
any. Added and changed files alter nothing. An event gives, in increasing order, the ids that it is about,
and calls the reloader on each of them in that order, whatever the reloader does to the tracker. -/
theorem history_decides (steps : List TrackerStep) :
    (∀ style, ((empty.follow steps).componentsForStyle style).Pairwise (· < ·))
    ∧ (∀ style id, id ∈ (empty.follow steps).componentsForStyle style ↔ StandsForStyle steps id style)
    ∧ (∀ directory, ((empty.follow steps).componentsInDirectory directory).Pairwise (· < ·))
    ∧ (∀ directory id,
      id ∈ (empty.follow steps).componentsInDirectory directory ↔ StandsInDirectory steps id directory)
    ∧ (∀ directory, (empty.follow steps).isTrackedDirectory directory = true ↔
      ∃ id, StandsInDirectory steps id directory)
    ∧ ∀ e, (e.kind = .add ∨ e.kind = .change → empty.follow (steps ++ [.event e]) = empty.follow steps)
      ∧ ∃ ids, ids.Pairwise (· < ·) ∧ (∀ id, id ∈ ids ↔ StandsFor steps e id)
        ∧ ∀ work called, ((handle e (noting work)).run (empty.follow steps)).run called
          = ((ids, ids.foldl (fun t id => work id t) (empty.follow (steps ++ [.event e]))), called ++ ids) := by
  have ordered := ordered_empty.follow steps
  have after : ∀ e, empty.follow (steps ++ [.event e]) = (empty.follow steps).after e := by
    intro e
    rw [follow, List.foldl_append]
    rfl
  refine ⟨fun style => ordered.byStyle.get_pairwise style, fun style id => follow_mem_componentsForStyle,
    fun directory => ordered.byDirectory.get_pairwise directory,
    fun directory id => follow_mem_componentsInDirectory, ?_, ?_⟩
  · intro directory
    rw [ordered.isTrackedDirectory_iff]
    simp only [← follow_mem_componentsInDirectory]
    exact ⟨List.exists_mem_of_ne_nil _, fun ⟨_, inside⟩ => List.ne_nil_of_mem inside⟩
  · intro e
    refine ⟨?_, (empty.follow steps).affected e, ordered.affected_pairwise e, fun _ => follow_mem_affected, ?_⟩
    · intro kept
      rw [after]
      unfold Tracker.after
      rcases kept with added | changed
      · rw [added]
      · rw [changed]
    · intro work called
      rw [after, handle_noting]

end Tracker

end CompanionStyles
