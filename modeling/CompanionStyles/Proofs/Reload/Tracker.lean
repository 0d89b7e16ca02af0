import CompanionStyles.Reload.Tracker

/-!
What a tracker knows after each of its operations, by the ids that it gives for a directory and for a
style.
-/

namespace CompanionStyles

namespace Associations

/-- The ids of a path are those of the entry with an equivalent one. -/
theorem mem_get_iff {a : Associations} {path : Path} {id : List Char} :
    id ∈ a.get path ↔ ∃ e ∈ a.entries, e.1.Equivalent path ∧ id ∈ e.2 := by
  obtain ⟨entries, distinct⟩ := a
  unfold get
  dsimp only
  induction entries with
  | nil => simp
  | cons e entries ih =>
    obtain ⟨others, distinct⟩ := List.pairwise_cons.mp distinct
    rw [List.find?_cons]
    by_cases same : e.1.Equivalent path
    · rw [decide_eq_true same]
      constructor
      · exact fun inside => ⟨e, List.mem_cons_self, same, inside⟩
      · rintro ⟨f, among, same', inside⟩
        rcases List.mem_cons.mp among with rfl | among
        · exact inside
        · exact absurd (same.trans same'.symm) (others f among)
    · rw [decide_eq_false same]
      refine (ih distinct).trans ?_
      constructor
      · rintro ⟨f, among, same', inside⟩
        exact ⟨f, List.mem_cons_of_mem e among, same', inside⟩
      · rintro ⟨f, among, same', inside⟩
        rcases List.mem_cons.mp among with rfl | among
        · exact absurd same' same
        · exact ⟨f, among, same', inside⟩

/-- The ids of a path do not depend on how it is spelled. -/
theorem get_congr (a : Associations) {path path' : Path} (same : path.Equivalent path') :
    a.get path = a.get path' := by
  have keys : ∀ entry : Path × List (List Char),
      decide (entry.1.Equivalent path) = decide (entry.1.Equivalent path') := fun entry =>
    decide_eq_decide.mpr ⟨fun left => left.trans same, fun right => right.trans same.symm⟩
  simp only [get, keys]

theorem mem_get_congr {a : Associations} {path path' : Path} {id : List Char}
    (same : path.Equivalent path') : id ∈ a.get path ↔ id ∈ a.get path' := by
  rw [a.get_congr same]

theorem mem_insertId {id other : List Char} {ids : List (List Char)} :
    other ∈ insertId id ids ↔ other = id ∨ other ∈ ids := by
  induction ids with
  | nil => simp [insertId]
  | cons first rest ih =>
    rw [insertId]
    split
    · rename_i same
      rw [same, List.mem_cons]
      exact ⟨Or.inr, fun inside => inside.elim Or.inl fun old => old⟩
    · split
      · exact List.mem_cons
      · rw [List.mem_cons, ih, List.mem_cons]
        exact or_left_comm

theorem any_insertEntry {entries : List (Path × List (List Char))} {key path : Path} {id : List Char} :
    (insertEntry key id entries).any (fun e => decide (e.1.Equivalent path)) = true ↔
      key.Equivalent path ∨ entries.any (fun e => decide (e.1.Equivalent path)) = true := by
  induction entries with
  | nil => simp [insertEntry]
  | cons e entries ih =>
    rw [insertEntry]
    split
    · rename_i same
      have along : key.Equivalent path → e.1.Equivalent path := same.trans
      rw [List.any_cons, List.any_cons, Bool.or_eq_true, decide_eq_true_eq]
      exact (or_iff_right_of_imp fun here => Or.inl (along here)).symm
    · rw [List.any_cons, List.any_cons, Bool.or_eq_true, Bool.or_eq_true, ih]
      exact or_left_comm

theorem mem_get_insert {a : Associations} {key path : Path} {id other : List Char} :
    other ∈ (a.insert key id).get path ↔ key.Equivalent path ∧ other = id ∨ other ∈ a.get path := by
  rw [mem_get_iff, mem_get_iff]
  obtain ⟨entries, distinct⟩ := a
  unfold insert
  dsimp only
  clear distinct
  induction entries with
  | nil => simp [insertEntry]
  | cons e entries ih =>
    obtain ⟨key', ids⟩ := e
    rw [insertEntry]
    split
    · rename_i same
      have samePath : key'.Equivalent path ↔ key.Equivalent path :=
        ⟨same.symm.trans, same.trans⟩
      simp only [List.mem_cons, exists_eq_or_imp, mem_insertId, samePath]
      rw [and_or_left, or_assoc]
    · simp only [List.mem_cons, exists_eq_or_imp, ih]
      exact or_left_comm

theorem mem_get_erase {a : Associations} {key path : Path} {id : List Char} :
    id ∈ (a.erase key).get path ↔ ¬key.Equivalent path ∧ id ∈ a.get path := by
  rw [mem_get_iff, mem_get_iff]
  unfold erase
  dsimp only
  constructor
  · rintro ⟨e, among, same, inside⟩
    obtain ⟨among, kept⟩ := List.mem_filter.mp among
    rw [Bool.not_eq_true', decide_eq_false_iff_not] at kept
    exact ⟨fun same' => kept (same.trans same'.symm), e, among, same, inside⟩
  · rintro ⟨apart, e, among, same, inside⟩
    refine ⟨e, List.mem_filter.mpr ⟨among, ?_⟩, same, inside⟩
    rw [Bool.not_eq_true', decide_eq_false_iff_not]
    exact fun same' => apart (same'.symm.trans same)

theorem mem_get_keepIds {a : Associations} {keep : List Char → Bool} {path : Path} {id : List Char} :
    id ∈ (a.keepIds keep).get path ↔ keep id = true ∧ id ∈ a.get path := by
  rw [mem_get_iff, mem_get_iff]
  unfold keepIds
  dsimp only
  constructor
  · rintro ⟨e, left, same, inside⟩
    obtain ⟨f, among, rfl⟩ := List.mem_map.mp (List.mem_filter.mp left).1
    have passes := List.mem_filter.mp inside
    exact ⟨passes.2, f, among, same, passes.1⟩
  · rintro ⟨kept, e, among, same, inside⟩
    have stays : id ∈ e.2.filter keep := List.mem_filter.mpr ⟨inside, kept⟩
    refine ⟨_, List.mem_filter.mpr ⟨List.mem_map_of_mem among, ?_⟩, same, stays⟩
    rw [Bool.not_eq_true', List.isEmpty_eq_false_iff]
    exact List.ne_nil_of_mem stays

end Associations

/-- Whether an event removes the component that an id names. -/
def WatchEvent.Removes (e : WatchEvent) (id : List Char) : Prop :=
  e.kind = .unlink ∧ modulePath id = e.component

/-- Whether an event removes the file at a path. -/
def WatchEvent.RemovesFile (e : WatchEvent) (path : Path) : Prop :=
  e.kind = .unlink ∧ e.path.Equivalent path

/-- Whether an event removes the directory at a path. -/
def WatchEvent.RemovesDirectory (e : WatchEvent) (path : Path) : Prop :=
  e.kind = .unlinkDir ∧ e.path.Equivalent path

namespace Tracker

theorem isTrackedDirectory_record {t : Tracker} {id : List Char} {directory style path : Path} :
    (t.record id directory style).isTrackedDirectory path = true ↔
      directory.Equivalent path ∨ t.isTrackedDirectory path = true :=
  Associations.any_insertEntry

theorem mem_componentsInDirectory_record {t : Tracker} {id other : List Char} {directory style path : Path} :
    other ∈ (t.record id directory style).componentsInDirectory path ↔
      directory.Equivalent path ∧ other = id ∨ other ∈ t.componentsInDirectory path :=
  Associations.mem_get_insert

theorem mem_componentsForStyle_record {t : Tracker} {id other : List Char} {directory style path : Path} :
    other ∈ (t.record id directory style).componentsForStyle path ↔
      style.Equivalent path ∧ other = id ∨ other ∈ t.componentsForStyle path :=
  Associations.mem_get_insert

/-- After an event, a directory has the components it had, unless it was removed itself, less one that was
removed. -/
theorem mem_componentsInDirectory_after_iff {t : Tracker} {e : WatchEvent} {id : List Char} {path : Path} :
    id ∈ (t.after e).componentsInDirectory path ↔
      ¬(e.Removes id ∨ e.RemovesDirectory path) ∧ id ∈ t.componentsInDirectory path := by
  obtain ⟨kind, place⟩ := e
  unfold WatchEvent.Removes WatchEvent.RemovesDirectory
  cases kind with
  | add => simp [after]
  | change => simp [after]
  | unlink =>
    refine Associations.mem_get_keepIds.trans ?_
    simp [names, componentsInDirectory]
  | unlinkDir =>
    refine Associations.mem_get_erase.trans ?_
    simp [componentsInDirectory]

/-- After an event of a file, a directory has the components it had, less one that was removed. -/
theorem mem_componentsInDirectory_after {t : Tracker} {e : WatchEvent} {id : List Char} {path : Path}
    (isFile : e.kind ≠ .unlinkDir) :
    id ∈ (t.after e).componentsInDirectory path ↔ ¬e.Removes id ∧ id ∈ t.componentsInDirectory path := by
  have stays : ¬e.RemovesDirectory path := fun removed => isFile removed.1
  rw [mem_componentsInDirectory_after_iff, or_iff_left stays]

/-- After an event, a style has the components it had, unless it was removed itself, less one that was
removed. -/
theorem mem_componentsForStyle_after {t : Tracker} {e : WatchEvent} {id : List Char} {path : Path} :
    id ∈ (t.after e).componentsForStyle path ↔
      ¬(e.Removes id ∨ e.RemovesFile path) ∧ id ∈ t.componentsForStyle path := by
  obtain ⟨kind, place⟩ := e
  unfold WatchEvent.Removes WatchEvent.RemovesFile
  cases kind with
  | add => simp [after]
  | change => simp [after]
  | unlink =>
    refine Associations.mem_get_keepIds.trans ?_
    rw [Associations.mem_get_erase, not_or, and_assoc]
    simp [names, componentsForStyle]
  | unlinkDir => simp [after, componentsForStyle]

end Tracker

end CompanionStyles
