import CompanionStyles.Proofs.FileTree.Changes
import CompanionStyles.Proofs.Path.Join

/-!
What a listing depends on. The order in which a tree has its entries makes no difference, and what is added to a
directory or removed from it makes none for the names that are of interest, as long as no files of such names come
or go: the files of those names are listed and read as before.
-/

namespace CompanionStyles.FileTree

section Order

variable {s t : FileTree}

theorem get?_eq_of_perm (same : s.entries.Perm t.entries) (place : Place) : s.get? place = t.get? place := by
  by_cases top : place = []
  · rw [top, get?, get?, if_pos rfl, if_pos rfl]
  · exact Option.ext fun entry => by rw [get?_eq_some_iff top, get?_eq_some_iff top, same.mem_iff]

theorem follow_congr (same : ∀ place, s.get? place = t.get? place) (start : Place) (pieces : List Bytes) :
    s.follow start pieces = t.follow start pieces := by
  induction pieces generalizing start with
  | nil => rfl
  | cons piece pieces ih => simp only [follow, same, ih]

theorem locate_congr (home : s.home = t.home) (same : ∀ place, s.get? place = t.get? place) (p : Path) :
    s.locate p = t.locate p := by
  simp only [locate, start_congr home, follow_congr same]

theorem readText_congr (home : s.home = t.home) (same : ∀ place, s.get? place = t.get? place) (p : Path) :
    s.readText p = t.readText p := by
  simp only [readText, locate_congr home same, same]

/-- Among names that are of interest, directories with the same files list the same. -/
theorem filter_fileNames_congr {directory : Place} {keep : Bytes → Bool}
    (same : ∀ name, keep name = true → (s.IsFile (directory ++ [name]) ↔ t.IsFile (directory ++ [name]))) :
    (s.fileNames directory).filter keep = (t.fileNames directory).filter keep := by
  refine eq_of_increasing ((s.fileNames_increasing directory).filter keep)
    ((t.fileNames_increasing directory).filter keep) fun name => ?_
  simp only [List.mem_filter, mem_fileNames]
  exact and_congr_left (same name)

theorem fileNames_congr (same : ∀ place, s.get? place = t.get? place) (directory : Place) :
    s.fileNames directory = t.fileNames directory := by
  have kept := @filter_fileNames_congr s t directory (fun _ => true) fun name _ => by rw [IsFile, IsFile, same]
  rwa [List.filter_eq_self.mpr fun _ _ => rfl, List.filter_eq_self.mpr fun _ _ => rfl] at kept

theorem listDirectory_congr (home : s.home = t.home) (same : ∀ place, s.get? place = t.get? place) (d : Path) :
    s.listDirectory d = t.listDirectory d := by
  simp only [listDirectory, locate_congr home same, same, fileNames_congr same]

end Order

theorem fileName_join {d : Path} {name : Bytes} (proper : Path.IsName name) :
    (d.join ⟨name⟩).fileName = some name :=
  (Path.parent_of_components (Path.components_join d proper)).1

/-- Trees differ in a directory only at and below names that are not of interest, and names that are of interest but
have no file in either tree, such as those of subdirectories. -/
structure SameBut (wanted : Bytes → Prop) (directory : Place) (before after : FileTree) : Prop where
  home : after.home = before.home
  places : ∀ other, after.get? other = before.get? other ∨ ∃ name, directory ++ [name] <+: other
    ∧ (wanted name → ¬before.IsFile (directory ++ [name]) ∧ ¬after.IsFile (directory ++ [name]))

section SameBut

variable {wanted : Bytes → Prop} {directory : Place} {before after : FileTree}

/-- A name in a directory is the only one at or below which its own place is. -/
theorem eq_of_prefix_concat {name name' : Bytes} (inside : directory ++ [name'] <+: directory ++ [name]) :
    name' = name := by
  have same := inside.eq_of_length (by simp)
  exact (List.cons.inj (List.append_cancel_left same)).1

theorem SameBut.get?_eq_of_prefix (same : before.SameBut wanted directory after) {other : Place}
    (above : other <+: directory) : after.get? other = before.get? other := by
  refine (same.places other).resolve_right ?_
  rintro ⟨name, inside, _⟩
  have short := (inside.trans above).length_le
  rw [List.length_append, List.length_singleton] at short
  omega

theorem SameBut.get?_eq_of_isFile (same : before.SameBut wanted directory after) {name : Bytes} (of : wanted name)
    (file : before.IsFile (directory ++ [name])) :
    after.get? (directory ++ [name]) = before.get? (directory ++ [name]) := by
  refine (same.places (directory ++ [name])).resolve_right ?_
  rintro ⟨name', inside, neither⟩
  obtain rfl := eq_of_prefix_concat inside
  exact (neither of).1 file

theorem SameBut.isFile_iff (same : before.SameBut wanted directory after) {name : Bytes} (of : wanted name) :
    after.IsFile (directory ++ [name]) ↔ before.IsFile (directory ++ [name]) := by
  rcases same.places (directory ++ [name]) with unchanged | ⟨name', inside, neither⟩
  · rw [IsFile, IsFile, unchanged]
  · obtain rfl := eq_of_prefix_concat inside
    exact iff_of_false (neither of).2 (neither of).1

theorem SameBut.trans {mid : FileTree} (first : before.SameBut wanted directory mid)
    (second : mid.SameBut wanted directory after) : before.SameBut wanted directory after := by
  refine ⟨second.home.trans first.home, fun other => ?_⟩
  rcases second.places other with unchanged | ⟨name, inside, neither⟩
  · rcases first.places other with unchanged' | ⟨name, inside, neither⟩
    · exact .inl (unchanged.trans unchanged')
    · exact .inr ⟨name, inside, fun of => ⟨(neither of).1, fun file => (neither of).2 ((second.isFile_iff of).mp file)⟩⟩
  · exact .inr ⟨name, inside, fun of => ⟨fun file => (neither of).1 ((first.isFile_iff of).mpr file), (neither of).2⟩⟩

theorem get?_remove {t : FileTree} {p : Path} {other : Place} (inside : other ≠ []) :
    (t.remove p).get? other = if t.placeOf p <+: other then none else t.get? other := by
  have entries : (t.remove p).entries = t.entries.filter fun e => !(t.placeOf p).isPrefixOf e.1 := rfl
  refine Option.ext fun found => ?_
  rw [get?_eq_some_iff inside, entries, List.mem_filter, Bool.not_eq_true', Bool.eq_false_iff, ne_eq,
    List.isPrefixOf_iff_prefix]
  split
  · rename_i below
    exact iff_of_false (fun kept => kept.2 below) nofun
  · rename_i apart
    rw [get?_eq_some_iff inside]
    exact and_iff_left apart

/-- Something is removed from a directory, but no file that is of interest. -/
theorem sameBut_remove {t : FileTree} {p : Path} (name : Bytes) (place : t.placeOf p = directory ++ [name])
    (noFile : wanted name → ¬t.IsFile (directory ++ [name])) : t.SameBut wanted directory (t.remove p) := by
  refine ⟨rfl, fun other => ?_⟩
  by_cases below : directory ++ [name] <+: other
  · refine .inr ⟨name, below, fun of => ⟨noFile of, ?_⟩⟩
    rintro ⟨content, there⟩
    rw [get?_remove (by simp), place, if_pos (List.prefix_refl _)] at there
    exact absurd there (by simp)
  · by_cases top : other = []
    · rw [top, get?, get?, if_pos rfl, if_pos rfl]
      exact .inl rfl
    · rw [get?_remove top, place, if_neg below]
      exact .inl rfl

/-- An entry is put into a directory, but none under a name that is of interest, unless directories come to stand
for directories or nothing there. -/
theorem sameBut_put {t : FileTree} {place : Place} {named : ∀ name ∈ place, Path.IsName name} {entry : FileEntry}
    {name : Bytes} (here : place = directory ++ [name])
    (noFile : wanted name → ¬t.IsFile (directory ++ [name]) ∧ entry = .directory) :
    t.SameBut wanted directory (t.put place named entry) := by
  subst here
  refine ⟨rfl, fun other => ?_⟩
  by_cases same : other = directory ++ [name]
  · refine .inr ⟨name, same ▸ List.prefix_refl _, fun of => ⟨(noFile of).1, ?_⟩⟩
    rintro ⟨content, there⟩
    rw [get?_put (by simp), if_pos rfl, (noFile of).2] at there
    exact absurd there (by simp)
  · by_cases top : other = []
    · rw [top, get?, get?, if_pos rfl, if_pos rfl]
      exact .inl rfl
    · rw [get?_put top, if_neg same]
      exact .inl rfl

/-- Nothing is made on the way to a place in a directory that is there. -/
theorem makeParents_eq {t : FileTree} {place : Place} {named : ∀ name ∈ place, Path.IsName name}
    (there : ∀ n < place.length, (t.get? (place.take n)).isSome) : t.makeParents place named = t := by
  unfold makeParents
  have steps : ∀ ns : List Nat, (∀ n ∈ ns, n < place.length) → ns.foldl (fun t n =>
      t.makeDirectory (place.take n) fun name inside => named name (List.mem_of_mem_take inside)) t = t := by
    intro ns
    induction ns with
    | nil => exact fun _ => rfl
    | cons n ns ih =>
      intro below
      obtain ⟨here, later⟩ := List.forall_mem_cons.mp below
      rw [List.foldl_cons, makeDirectory, if_pos (there n here)]
      exact ih later
  exact steps _ fun n => List.mem_range.mp

/-- A file that is not of interest is written into a directory that is there. -/
theorem sameBut_writeFile {t : FileTree} {p : Path} {content : Bytes} (name : Bytes)
    (there : ∀ n < (t.placeOf p).length, (t.get? ((t.placeOf p).take n)).isSome)
    (place : t.placeOf p = directory ++ [name]) (unwanted : ¬wanted name) :
    t.SameBut wanted directory (t.writeFile p content) := by
  rw [writeFile, makeParents_eq there]
  exact sameBut_put place fun of => absurd of unwanted

/-- A directory is made in another, with whatever name. -/
theorem sameBut_addDirectory {t : FileTree} {p : Path} (name : Bytes)
    (there : ∀ n < (t.placeOf p).length, (t.get? ((t.placeOf p).take n)).isSome)
    (place : t.placeOf p = directory ++ [name])
    (noFile : wanted name → ¬t.IsFile (directory ++ [name])) : t.SameBut wanted directory (t.addDirectory p) := by
  rw [addDirectory, makeParents_eq there, makeDirectory]
  split
  · exact ⟨rfl, fun other => .inl rfl⟩
  · exact sameBut_put place fun of => ⟨noFile of, rfl⟩

/-- Pieces that never go up pass only what lies above the place that they lead to. -/
theorem prefix_of_follow {t : FileTree} {start final : Place} {pieces : List Bytes}
    (straight : [Path.dot, Path.dot] ∉ pieces) (found : t.follow start pieces = .ok final) : start <+: final := by
  induction pieces generalizing start with
  | nil =>
    obtain rfl := Except.ok.inj found
    exact List.prefix_rfl
  | cons piece pieces ih =>
    obtain ⟨_, next, leads, found⟩ := follow_cons_eq_ok_iff.mp found
    have below := ih (List.not_mem_of_not_mem_cons straight) found
    cases leads with
    | stay => exact below
    | up => exact absurd List.mem_cons_self straight
    | down => exact (List.prefix_append start [piece]).trans below

theorem SameBut.follow (same : before.SameBut wanted directory after) {start : Place} {pieces : List Bytes}
    (straight : [Path.dot, Path.dot] ∉ pieces) (found : before.follow start pieces = .ok directory) :
    after.follow start pieces = .ok directory := by
  induction pieces generalizing start with
  | nil => exact found
  | cons piece pieces ih =>
    have above := prefix_of_follow straight found
    obtain ⟨there, next, leads, found⟩ := follow_cons_eq_ok_iff.mp found
    have straight' := List.not_mem_of_not_mem_cons straight
    refine follow_cons_eq_ok_iff.mpr ⟨(same.get?_eq_of_prefix above).trans there, next, ?_, ih straight' found⟩
    cases leads with
    | stay marked => exact .stay marked
    | up => exact .up
    | down notMarked notDots short present =>
      refine .down notMarked notDots short ?_
      rwa [same.get?_eq_of_prefix (prefix_of_follow straight' found)]

/-- A directory is found in both trees if its path never goes up. -/
theorem SameBut.locate (same : before.SameBut wanted directory after) {d : Path}
    (straight : [Path.dot, Path.dot] ∉ Path.pieces d.bytes) (found : before.locate d = .ok directory) :
    after.locate d = .ok directory := by
  obtain ⟨text, nonempty, short, walked⟩ := locate_eq_ok_iff.mp found
  refine locate_eq_ok_iff.mpr ⟨text, nonempty, short, ?_⟩
  rw [start_congr same.home]
  exact same.follow straight walked

/-- A file of a directory reads the same in trees that have the same there. -/
theorem readText_join {d : Path} {name : Bytes} (proper : Path.IsName name) (home : after.home = before.home)
    (found : before.locate d = .ok directory) (found' : after.locate d = .ok directory)
    (top : after.get? directory = before.get? directory)
    (same : after.get? (directory ++ [name]) = before.get? (directory ++ [name])) :
    after.readText (d.join ⟨name⟩) = before.readText (d.join ⟨name⟩) := by
  have located : after.locate (d.join ⟨name⟩) = before.locate (d.join ⟨name⟩) := by
    have nonempty := nonempty_of_locate found
    have relative := Path.isAbsolute_eq_false proper.whole
    obtain ⟨front, pieced, first⟩ := exists_follow_join nonempty relative
    have first' := first found'
    rw [start_congr home] at first'
    simp only [FileTree.locate, start_congr home, start_join before nonempty relative, pieced,
      Path.pieces_of_not_mem proper.whole, follow_append (first found), follow_append first', FileTree.follow, top, same]
  unfold readText
  rw [located]
  cases led : before.locate (d.join ⟨name⟩) with
  | error fault => rfl
  | ok place =>
    obtain rfl := locate_join proper found led
    simp only [bind, Except.bind, same]

/-- The files of the names that are of interest are listed and read as before. -/
theorem SameBut.listDirectory {keep : Path → Bool} {d : Path}
    (same : before.SameBut (fun name => keep (d.join ⟨name⟩) = true) directory after)
    (found : before.locate d = .ok directory) (there : before.get? directory = some .directory)
    (found' : after.locate d = .ok directory) :
    ∃ paths paths', before.listDirectory d = .ok paths ∧ after.listDirectory d = .ok paths'
      ∧ paths'.filter keep = paths.filter keep
      ∧ ∀ path ∈ paths, keep path = true → after.readText path = before.readText path := by
  have top := same.get?_eq_of_prefix (List.prefix_refl directory)
  refine ⟨_, _, listDirectory_eq_ok_iff.mpr ⟨directory, found, there, rfl⟩,
    listDirectory_eq_ok_iff.mpr ⟨directory, found', top.trans there, rfl⟩, ?_, ?_⟩
  · rw [List.filter_map, List.filter_map]
    exact congrArg _ (filter_fileNames_congr fun name of => same.isFile_iff of)
  · intro path listed of
    obtain ⟨name, among, rfl⟩ := List.mem_map.mp listed
    have file := mem_fileNames.mp among
    exact readText_join (isName_of_isFile file) same.home found found' top (same.get?_eq_of_isFile of file)

end SameBut

end CompanionStyles.FileTree
