import CompanionStyles.Proofs.FileTree.Listing
import CompanionStyles.Reload.Tracker

/-!
One file of a tree is added, changed or removed. A path that led somewhere else leads there still, and a
directory lists what it did, less the file that was removed, unless a file was added to it.
-/

namespace CompanionStyles.FileTree

/-- What a kind of event makes of the entry at a place. -/
inductive Turns : WatchKind → Option FileEntry → Option FileEntry → Prop
  | add (content : Bytes) : Turns .add none (some (.file content))
  | change (old new : Bytes) : Turns .change (some (.file old)) (some (.file new))
  | unlink (old : Bytes) : Turns .unlink (some (.file old)) none

theorem Turns.ne_unlinkDir {kind : WatchKind} {was is : Option FileEntry} (turns : Turns kind was is) :
    kind ≠ .unlinkDir := by
  rintro rfl
  cases turns

theorem Turns.change_or_unlink {kind : WatchKind} {was is : Option FileEntry}
    (turns : Turns kind was is) (notAdded : kind ≠ .add) : kind = .change ∨ kind = .unlink := by
  cases turns with
  | add => exact absurd rfl notAdded
  | change => exact Or.inl rfl
  | unlink => exact Or.inr rfl

theorem Turns.eq_none {was is : Option FileEntry} (turns : Turns .add was is) : was = none := by
  cases turns
  rfl

theorem Turns.not_directory {kind : WatchKind} {is : Option FileEntry} :
    ¬Turns kind (some .directory) is := by
  intro turns
  cases turns

theorem Turns.ne_none {kind : WatchKind} {was is : Option FileEntry} (turns : Turns kind was is)
    (there : was ≠ none) : is ≠ none ∨ ∃ content, was = some (.file content) := by
  cases turns with
  | add => exact absurd rfl there
  | change old new => exact Or.inl (Option.some_ne_none _)
  | unlink old => exact Or.inr ⟨old, rfl⟩

theorem Turns.isFile_iff {kind : WatchKind} {was is : Option FileEntry} (turns : Turns kind was is)
    (notAdded : kind ≠ .add) :
    (∃ content, is = some (.file content)) ↔
      (∃ content, was = some (.file content)) ∧ kind ≠ .unlink := by
  cases turns with
  | add => exact absurd rfl notAdded
  | change => simp
  | unlink => simp

/-- One file was added, changed or removed; all else is as it was. -/
structure Changes (before : FileTree) (kind : WatchKind) (place : Place) (after : FileTree) : Prop where
  home : after.home = before.home
  elsewhere : ∀ other, other ≠ place → after.get? other = before.get? other
  turns : Turns kind (before.get? place) (after.get? place)

theorem get?_put {t : FileTree} {place other : Place} {named : ∀ name ∈ place, Path.IsName name}
    {entry : FileEntry} (inside : other ≠ []) :
    (t.put place named entry).get? other = if other = place then some entry else t.get? other := by
  have entries : (t.put place named entry).entries
      = t.entries.filter (fun e => e.1 ≠ place) ++ [(place, entry)] := rfl
  split
  · rename_i same
    refine (get?_eq_some_iff inside).mpr ?_
    rw [entries, same]
    exact List.mem_append_right _ (List.mem_singleton.mpr rfl)
  · rename_i apart
    refine Option.ext fun found => ?_
    rw [get?_eq_some_iff inside, get?_eq_some_iff inside, entries, List.mem_append, List.mem_filter,
      List.mem_singleton]
    constructor
    · rintro (⟨among, _⟩ | last)
      · exact among
      · exact absurd (Prod.mk.inj last).1 apart
    · exact fun among => Or.inl ⟨among, decide_eq_true apart⟩

/-- Writing a file adds it, or changes it if it is there. -/
theorem changes_put {t : FileTree} {kind : WatchKind} {place : Place} {content : Bytes}
    (named : ∀ name ∈ place, Path.IsName name) (inside : place ≠ [])
    (turns : Turns kind (t.get? place) (some (.file content))) :
    t.Changes kind place (t.put place named (.file content)) where
  home := rfl
  elsewhere := by
    intro other apart
    by_cases top : other = []
    · rw [top, get?, get?, if_pos rfl, if_pos rfl]
    · rw [get?_put top, if_neg apart]
  turns := by rwa [get?_put inside, if_pos rfl]

variable {before after : FileTree} {kind : WatchKind} {place : Place}

theorem Changes.get?_directory (changes : before.Changes kind place after) {other : Place}
    (directory : before.get? other = some .directory) : after.get? other = some .directory := by
  by_cases same : other = place
  · have turns := changes.turns
    rw [← same, directory] at turns
    exact absurd turns Turns.not_directory
  · rw [changes.elsewhere other same, directory]

/-- A place at which something was is there still, or the file at it was changed. -/
theorem Changes.get?_ne_none (changes : before.Changes kind place after) {other : Place}
    (there : before.get? other ≠ none) :
    after.get? other ≠ none ∨ other = place ∧ ∃ content, before.get? other = some (.file content) := by
  by_cases same : other = place
  · rw [same] at there ⊢
    exact (changes.turns.ne_none there).imp_right fun file => ⟨rfl, file⟩
  · rw [changes.elsewhere other same]
    exact Or.inl there

/-- The pieces that led to a place lead there still, unless it is the one that was changed: on the way
there are only directories. -/
theorem Changes.follow (changes : before.Changes kind place after) {start final : Place}
    {pieces : List Bytes} (found : before.follow start pieces = .ok final) (apart : final ≠ place) :
    after.follow start pieces = .ok final := by
  induction pieces generalizing start with
  | nil => exact found
  | cons piece rest ih =>
    obtain ⟨there, next, leads, found⟩ := follow_cons_eq_ok_iff.mp found
    refine follow_cons_eq_ok_iff.mpr ⟨changes.get?_directory there, next, ?_, ih found⟩
    cases leads with
    | stay marked => exact .stay marked
    | up => exact .up
    | down notMarked notDots short there =>
      refine .down notMarked notDots short ?_
      rcases changes.get?_ne_none there with stays | ⟨same, content, file⟩
      · exact stays
      · -- The changed file would be the end of the path.
        cases rest with
        | nil => exact absurd ((Except.ok.inj found).symm.trans same) apart
        | cons _ _ =>
          have directory := (follow_cons_eq_ok_iff.mp found).1
          exact absurd (file.symm.trans directory) (by simp)

theorem Changes.locate (changes : before.Changes kind place after) {p : Path} {final : Place}
    (found : before.locate p = .ok final) (apart : final ≠ place) : after.locate p = .ok final := by
  obtain ⟨text, nonempty, short, walked⟩ := locate_eq_ok_iff.mp found
  refine locate_eq_ok_iff.mpr ⟨text, nonempty, short, ?_⟩
  rw [start_congr changes.home]
  exact changes.follow walked apart

theorem file_of_readText {t : FileTree} {p : Path} {text : List Char} (read : t.readText p = .ok text) :
    ∃ final, t.locate p = .ok final ∧ t.IsFile final := by
  unfold FileTree.readText at read
  cases found : t.locate p with
  | error fault =>
    rw [found] at read
    exact absurd read (by simp [bind, Except.bind])
  | ok final =>
    rw [found] at read
    simp only [bind, Except.bind] at read
    split at read
    · rename_i content there
      exact ⟨final, rfl, content, there⟩
    · exact absurd read (by simp)
    · exact absurd read (by simp)

/-- A file that was read, and is not the one that was changed, reads the same. -/
theorem Changes.readText (changes : before.Changes kind place after) {p : Path} {text : List Char}
    (read : before.readText p = .ok text) (apart : before.locate p ≠ .ok place) :
    after.readText p = .ok text := by
  obtain ⟨final, found, _⟩ := file_of_readText read
  have elsewhere : final ≠ place := fun same => apart (by rw [found, same])
  unfold FileTree.readText at read ⊢
  rw [found] at read
  rw [changes.locate found elsewhere]
  simp only [bind, Except.bind] at read ⊢
  rwa [changes.elsewhere final elsewhere]

/-- The names in a directory that a file was not added to. -/
theorem Changes.fileNames (changes : before.Changes kind place after) {directory : Place}
    (notAdded : kind = .add → place.dropLast ≠ directory) :
    after.fileNames directory = (before.fileNames directory).filter fun name =>
      !decide (kind = .unlink ∧ directory ++ [name] = place) := by
  refine fileNames_eq_filter fun name => ?_
  rw [Bool.not_eq_true', decide_eq_false_iff_not]
  by_cases same : directory ++ [name] = place
  · have notAdded : kind ≠ .add := fun add => notAdded add (by rw [← same, List.dropLast_concat])
    unfold IsFile
    rw [same, changes.turns.isFile_iff notAdded]
    simp
  · unfold IsFile
    rw [changes.elsewhere _ same]
    simp [same]

theorem listDirectory_eq_ok_iff {t : FileTree} {d : Path} {paths : List Path} :
    t.listDirectory d = .ok paths ↔
      ∃ directory, t.locate d = .ok directory ∧ t.get? directory = some .directory
        ∧ paths = (t.fileNames directory).map fun name => d.join ⟨name⟩ := by
  unfold listDirectory
  cases t.locate d with
  | error fault => simp [bind, Except.bind]
  | ok place =>
    simp only [bind, Except.bind]
    split
    · rename_i there
      simp [there, pure, Except.pure, eq_comm]
    · rename_i there
      simp [there]
    · rename_i there
      simp [there]

/-- A directory to which no file was added lists what it did, less the file that was removed. -/
theorem Changes.listDirectory (changes : before.Changes kind place after) {d : Path} {paths : List Path}
    (listed : before.listDirectory d = .ok paths)
    (notAdded : kind = .add → before.locate d ≠ .ok place.dropLast) :
    ∃ keep : Path → Bool, after.listDirectory d = .ok (paths.filter keep)
      ∧ ∀ path ∈ paths, keep path = false →
        kind = .unlink ∧ ∀ final, before.locate path = .ok final → final = place := by
  obtain ⟨directory, found, there, rfl⟩ := listDirectory_eq_ok_iff.mp listed
  have elsewhere : directory ≠ place := by
    rintro rfl
    exact Turns.not_directory (there ▸ changes.turns)
  have notAdded : kind = .add → place.dropLast ≠ directory := by
    rintro add rfl
    exact notAdded add found
  have proper : ∀ name ∈ before.fileNames directory, Path.IsName name :=
    fun name among => isName_of_isFile (mem_fileNames.mp among)
  refine ⟨fun path => !decide (kind = .unlink ∧ ∃ name ∈ before.fileNames directory,
    directory ++ [name] = place ∧ path = d.join ⟨name⟩), ?_, ?_⟩
  · refine listDirectory_eq_ok_iff.mpr
      ⟨directory, changes.locate found elsewhere, changes.get?_directory there, ?_⟩
    rw [changes.fileNames notAdded, List.filter_map]
    refine congrArg (List.map _) (List.filter_congr fun name among => congrArg not ?_)
    refine decide_eq_decide.mpr (and_congr_right fun _ => ?_)
    constructor
    · rintro ⟨name', among', removed, same⟩
      rwa [join_inj (proper name among) (proper name' among') same]
    · exact fun removed => ⟨name, among, removed, rfl⟩
  · intro path _ dropped
    rw [Bool.not_eq_false', decide_eq_true_eq] at dropped
    obtain ⟨unlink, name, among, removed, rfl⟩ := dropped
    exact ⟨unlink, fun final located => (locate_join (proper name among) found located).trans removed⟩

end CompanionStyles.FileTree
