import CompanionStyles.FileTree.Basic
import CompanionStyles.Proofs.Path.Join

/-!
What a tree says about its places: each has at most one entry, a directory lists exactly the files in it,
each once and in increasing order, and the path of a listed file leads to that file.
-/

namespace CompanionStyles.FileTree

def IsFile (t : FileTree) (place : Place) : Prop :=
  ∃ content, t.get? place = some (.file content)

theorem get?_eq_some_iff {t : FileTree} {place : Place} {entry : FileEntry} (inside : place ≠ []) :
    t.get? place = some entry ↔ (place, entry) ∈ t.entries := by
  rw [get?, if_neg inside, List.lookup_eq_some_iff]
  constructor
  · rintro ⟨front, back, split, _⟩
    rw [split]
    exact List.mem_append_right front List.mem_cons_self
  · intro among
    obtain ⟨front, back, split⟩ := List.append_of_mem among
    refine ⟨front, back, split, ?_⟩
    intro other earlier
    have unique := t.unique
    rw [split, List.map_append, List.map_cons, List.nodup_append] at unique
    have apart := unique.2.2 other.1 (List.mem_map_of_mem earlier) place List.mem_cons_self
    exact bne_iff_ne.mpr apart.symm

theorem isName_of_isFile {t : FileTree} {directory : Place} {name : Bytes}
    (file : t.IsFile (directory ++ [name])) : Path.IsName name := by
  obtain ⟨content, found⟩ := file
  have among := (get?_eq_some_iff (by simp)).mp found
  exact t.named _ among name (List.mem_append_right directory List.mem_cons_self)

theorem childName?_eq_some_iff {directory : Place} {e : Place × FileEntry} {name : Bytes} :
    childName? directory e = some name ↔ ∃ content, e = (directory ++ [name], .file content) := by
  obtain ⟨place, entry⟩ := e
  cases entry with
  | directory => simp [childName?]
  | file content =>
    rw [childName?]
    constructor
    · intro named
      split at named
      · rename_i last isLast
        obtain ⟨front, rfl⟩ := List.getLast?_eq_some_iff.mp isLast
        rw [List.dropLast_concat] at named
        split at named
        · rename_i same
          obtain rfl := Option.some.inj named
          exact ⟨content, by rw [same]⟩
        · exact absurd named (by simp)
      · exact absurd named (by simp)
    · rintro ⟨content', same⟩
      obtain ⟨rfl, _⟩ := Prod.mk.inj same
      rw [List.getLast?_concat, List.dropLast_concat]
      exact if_pos rfl

/-- A directory lists exactly the files in it. -/
theorem mem_fileNames {t : FileTree} {directory : Place} {name : Bytes} :
    name ∈ t.fileNames directory ↔ t.IsFile (directory ++ [name]) := by
  rw [fileNames, List.mem_mergeSort, List.mem_filterMap]
  constructor
  · rintro ⟨e, among, named⟩
    obtain ⟨content, rfl⟩ := childName?_eq_some_iff.mp named
    exact ⟨content, (get?_eq_some_iff (by simp)).mpr among⟩
  · rintro ⟨content, found⟩
    exact ⟨_, (get?_eq_some_iff (by simp)).mp found, childName?_eq_some_iff.mpr ⟨content, rfl⟩⟩

theorem fileNames_nodup (t : FileTree) (directory : Place) : (t.fileNames directory).Nodup := by
  refine (List.mergeSort_perm _ _).nodup_iff.mpr ?_
  refine List.pairwise_filterMap.mpr ((List.pairwise_map.mp t.unique).imp ?_)
  rintro e f apart name named name' named' rfl
  obtain ⟨content, rfl⟩ := childName?_eq_some_iff.mp named
  obtain ⟨content', rfl⟩ := childName?_eq_some_iff.mp named'
  exact apart rfl

theorem fileNames_sorted (t : FileTree) (directory : Place) :
    (t.fileNames directory).Pairwise (· ≤ ·) := by
  have sorted := @List.pairwise_mergeSort _ (fun a b : Bytes => decide (a ≤ b))
    (fun a b c first second => decide_eq_true
      (List.le_trans (of_decide_eq_true first) (of_decide_eq_true second)))
    (fun a b => by simpa using List.le_total a b) (t.entries.filterMap (childName? directory))
  exact sorted.imp of_decide_eq_true

theorem fileNames_eq_of_perm {t : FileTree} {directory : Place} {names : List Bytes}
    (sorted : names.Pairwise (· ≤ ·)) (same : (t.entries.filterMap (childName? directory)).Perm names) :
    t.fileNames directory = names :=
  List.Perm.eq_of_pairwise (fun _ _ _ _ => List.le_antisymm) (t.fileNames_sorted directory) sorted
    ((List.mergeSort_perm _ _).trans same)

theorem fileNames_increasing (t : FileTree) (directory : Place) : (t.fileNames directory).Pairwise (· < ·) := by
  refine ((t.fileNames_sorted directory).and (t.fileNames_nodup directory)).imp ?_
  rintro a b ⟨before, other⟩
  exact (List.le_iff_lt_or_eq.mp before).resolve_right other

/-- Names in strictly increasing order are determined by which they are. -/
theorem eq_of_increasing {names names' : List Bytes} (increasing : names.Pairwise (· < ·))
    (increasing' : names'.Pairwise (· < ·)) (same : ∀ name, name ∈ names ↔ name ∈ names') : names = names' := by
  have nodup : ∀ {names : List Bytes}, names.Pairwise (· < ·) → names.Nodup := by
    intro names increasing
    refine increasing.imp ?_
    rintro a _ before rfl
    exact List.lt_irrefl a before
  exact List.Perm.eq_of_pairwise (fun a b _ _ before after => absurd after (List.lt_asymm before)) increasing increasing'
    ((List.perm_ext_iff_of_nodup (nodup increasing) (nodup increasing')).mpr same)

theorem fileNames_eq_filter {s t : FileTree} {directory : Place} {keep : Bytes → Bool}
    (same : ∀ name, s.IsFile (directory ++ [name]) ↔ t.IsFile (directory ++ [name]) ∧ keep name = true) :
    s.fileNames directory = (t.fileNames directory).filter keep := by
  refine eq_of_increasing (s.fileNames_increasing directory) ((t.fileNames_increasing directory).filter keep)
    fun name => ?_
  rw [List.mem_filter, mem_fileNames, mem_fileNames, same]

/-- One piece of a path leads from a directory to another place. -/
inductive Leads (t : FileTree) (start : Place) : Bytes → Place → Prop
  | stay {piece : Bytes} : piece = [] ∨ piece = [Path.dot] → Leads t start piece start
  | up : Leads t start [Path.dot, Path.dot] start.dropLast
  | down {name : Bytes} : ¬(name = [] ∨ name = [Path.dot]) → name ≠ [Path.dot, Path.dot] →
      name.length ≤ nameLimit → t.get? (start ++ [name]) ≠ none → Leads t start name (start ++ [name])

theorem follow_cons_eq_ok_iff {t : FileTree} {start final : Place} {piece : Bytes} {rest : List Bytes} :
    t.follow start (piece :: rest) = .ok final ↔
      t.get? start = some .directory ∧
        ∃ next, t.Leads start piece next ∧ t.follow next rest = .ok final := by
  rw [follow]
  cases t.get? start with
  | none => simp
  | some entry =>
    cases entry with
    | file content => simp
    | directory =>
      by_cases stay : piece = [] ∨ piece = [Path.dot]
      · simp only [if_pos stay, true_and]
        refine ⟨fun found => ⟨start, .stay stay, found⟩, ?_⟩
        rintro ⟨next, leads, found⟩
        cases leads with
        | stay => exact found
        | up => simp at stay
        | down there => exact absurd stay there
      · by_cases up : piece = [Path.dot, Path.dot]
        · simp only [if_neg stay, if_pos up, true_and]
          refine ⟨fun found => ⟨start.dropLast, up ▸ .up, found⟩, ?_⟩
          rintro ⟨next, leads, found⟩
          cases leads with
          | stay there => exact absurd there stay
          | up => exact found
          | down _ there => exact absurd up there
        · simp only [if_neg stay, if_neg up, true_and]
          constructor
          · intro found
            split at found
            · exact absurd found (by simp)
            · rename_i short
              split at found
              · exact absurd found (by simp)
              · rename_i there
                rw [Option.isNone_iff_eq_none] at there
                exact ⟨start ++ [piece], .down stay up (Nat.le_of_not_lt short) there, found⟩
          · rintro ⟨next, leads, found⟩
            cases leads with
            | stay there => exact absurd there stay
            | up => exact absurd rfl up
            | down _ _ short there =>
              rw [if_neg (Nat.not_lt_of_le short), if_neg (by rwa [Option.isNone_iff_eq_none])]
              exact found

theorem follow_append_eq_ok {t : FileTree} {start final : Place} {front back : List Bytes}
    (found : t.follow start (front ++ back) = .ok final) :
    ∃ middle, t.follow start front = .ok middle ∧ t.follow middle back = .ok final := by
  induction front generalizing start with
  | nil => exact ⟨start, rfl, found⟩
  | cons piece front ih =>
    obtain ⟨there, next, leads, found⟩ := follow_cons_eq_ok_iff.mp found
    obtain ⟨middle, first, second⟩ := ih found
    exact ⟨middle, follow_cons_eq_ok_iff.mpr ⟨there, next, leads, first⟩, second⟩

/-- Pieces are followed from where those in front of them lead. -/
theorem follow_append {t : FileTree} {start middle : Place} {front : List Bytes}
    (first : t.follow start front = .ok middle) (back : List Bytes) :
    t.follow start (front ++ back) = t.follow middle back := by
  induction front generalizing start with
  | nil =>
    obtain rfl := Except.ok.inj first
    rfl
  | cons piece front ih =>
    obtain ⟨there, next, leads, first⟩ := follow_cons_eq_ok_iff.mp first
    rw [← ih first]
    cases leads with
    | stay marked => rw [List.cons_append, follow, there]; exact if_pos marked
    | up => rw [List.cons_append, follow, there]; rfl
    | down notMarked notDots short present =>
      rw [List.cons_append, follow, there]
      dsimp only
      rw [if_neg notMarked, if_neg notDots, if_neg (Nat.not_lt_of_le short),
        if_neg (by rwa [Option.isNone_iff_eq_none])]

theorem locate_eq_ok_iff {t : FileTree} {p : Path} {place : Place} :
    t.locate p = .ok place ↔
      0 ∉ p.bytes ∧ p.bytes ≠ [] ∧ p.bytes.length ≤ pathLimit
        ∧ t.follow (t.start p) (Path.pieces p.bytes) = .ok place := by
  unfold locate
  by_cases nul : 0 ∈ p.bytes
  · simp [nul]
  · by_cases empty : p.bytes = []
    · simp [empty]
    · by_cases long : pathLimit < p.bytes.length
      · simp [nul, empty, long, Nat.not_le_of_lt long]
      · simp [nul, empty, long, Nat.le_of_not_lt long]

theorem join_inj {d : Path} {name name' : Bytes} (proper : Path.IsName name)
    (proper' : Path.IsName name') (same : d.join ⟨name⟩ = d.join ⟨name'⟩) : name = name' := by
  have stands := Path.components_join d proper
  rw [same, Path.components_join d proper'] at stands
  have last : Path.Component.name name' = .name name := List.singleton_inj.mp (List.append_inj_right' stands rfl)
  exact (Path.Component.name.inj last).symm

theorem pieces_join {d p : Path} (nonempty : d.bytes ≠ []) (relative : p.isAbsolute = false) :
    ∃ front, Path.pieces (d.join p).bytes = front ++ Path.pieces p.bytes
      ∧ (Path.pieces d.bytes = front ∨ Path.pieces d.bytes = front ++ [[]]) := by
  rcases Path.join_cases d relative with ⟨empty, _⟩ | ⟨front, joined, ended⟩
  · exact absurd empty nonempty
  · refine ⟨Path.pieces front, ?_, ?_⟩
    · rw [joined, Path.pieces_append]
    · rcases ended with ended | ⟨ended, _⟩
      · rw [ended]
        exact .inr (Path.pieces_append front [])
      · exact .inl (congrArg Path.pieces ended)

theorem start_congr {s t : FileTree} (home : s.home = t.home) (p : Path) : s.start p = t.start p := by
  rw [start, start, home]

/-- A path in a directory is followed from where the path of the directory is. -/
theorem start_join (t : FileTree) {d p : Path} (nonempty : d.bytes ≠ []) (relative : p.isAbsolute = false) :
    t.start (d.join p) = t.start d := by
  rw [start, start, Path.isAbsolute_join nonempty relative]

/-- A path in a directory goes to the directory first. -/
theorem exists_follow_join {d p : Path} (nonempty : d.bytes ≠ []) (relative : p.isAbsolute = false) :
    ∃ front, Path.pieces (d.join p).bytes = front ++ Path.pieces p.bytes
      ∧ ∀ {t : FileTree} {directory : Place},
        t.locate d = .ok directory → t.follow (t.start d) front = .ok directory := by
  obtain ⟨front, pieced, same⟩ := pieces_join nonempty relative
  refine ⟨front, pieced, fun {t directory} listed => ?_⟩
  obtain ⟨_, _, _, walked⟩ := locate_eq_ok_iff.mp listed
  rcases same with same | same
  · rwa [← same]
  · rw [same] at walked
    obtain ⟨middle, reached, stays⟩ := follow_append_eq_ok walked
    obtain ⟨_, next, leads, ended⟩ := follow_cons_eq_ok_iff.mp stays
    obtain rfl : next = directory := Except.ok.inj ended
    cases leads with
    | stay => exact reached
    | down named => exact absurd (Or.inl rfl) named

theorem nonempty_of_locate {t : FileTree} {d : Path} {directory : Place} (listed : t.locate d = .ok directory) :
    d.bytes ≠ [] := fun empty =>
  (locate_eq_ok_iff.mp listed).2.1 empty

/-- Behind the path of the working directory, a path leads where it leads by itself. -/
theorem locate_join_home {t : FileTree} {d p : Path} (found : t.locate d = .ok t.home)
    (relative : p.isAbsolute = false) (named : p.bytes ≠ []) (short : (d.join p).bytes.length ≤ pathLimit) :
    t.locate (d.join p) = t.locate p := by
  have nonempty := nonempty_of_locate found
  obtain ⟨text, _, _, _⟩ := locate_eq_ok_iff.mp found
  obtain ⟨front, pieced, first⟩ := exists_follow_join nonempty relative
  have walked : t.follow (t.start (d.join p)) (Path.pieces (d.join p).bytes)
      = t.follow (t.start p) (Path.pieces p.bytes) := by
    rw [start_join t nonempty relative, pieced, follow_append (first found), start, relative]
    rfl
  have bytes : ∃ before, (d.join p).bytes = before ++ p.bytes ∧ 0 ∉ before := by
    rcases Path.join_cases d relative with ⟨empty, _⟩ | ⟨before, joined, ended | ⟨ended, _⟩⟩
    · exact absurd empty nonempty
    · exact ⟨d.bytes, by rw [joined, ended, List.append_assoc]; rfl, text⟩
    · refine ⟨before ++ [Path.separator], by rw [joined, List.append_assoc]; rfl, ?_⟩
      rw [List.mem_append, ← ended]
      exact not_or.mpr ⟨text, by decide⟩
  obtain ⟨before, bytes, clean⟩ := bytes
  have nul : 0 ∈ (d.join p).bytes ↔ 0 ∈ p.bytes := by rw [bytes, List.mem_append, or_iff_right clean]
  have named' : (d.join p).bytes ≠ [] := by rw [bytes]; exact List.append_ne_nil_of_right_ne_nil before named
  have short' : p.bytes.length ≤ pathLimit :=
    Nat.le_trans (by rw [bytes, List.length_append]; exact Nat.le_add_left _ _) short
  simp only [locate, walked, nul, named, named', Nat.not_lt_of_le short, Nat.not_lt_of_le short', if_false]

example : let t := (empty.addDirectory (.ofText "/lib".toList)).enterDirectory (.ofText "/app/src".toList)
    t.locate (.ofText "../../lib".toList) = t.locate (.ofText "/app/src/../../lib".toList)
      ∧ t.locate (.ofText "/lib".toList) = .ok [Utf8.encode "lib".toList] := by
  decide +kernel

/-- The path of a listed file leads into the directory that it is listed in. -/
theorem locate_join {t : FileTree} {d : Path} {directory place : Place} {name : Bytes}
    (proper : Path.IsName name) (listed : t.locate d = .ok directory)
    (found : t.locate (d.join ⟨name⟩) = .ok place) : place = directory ++ [name] := by
  have nonempty := nonempty_of_locate listed
  have relative := Path.isAbsolute_eq_false proper.whole
  obtain ⟨front, pieced, first⟩ := exists_follow_join nonempty relative
  obtain ⟨_, _, _, found⟩ := locate_eq_ok_iff.mp found
  rw [start_join t nonempty relative, pieced, Path.pieces_of_not_mem proper.whole, follow_append (first listed)] at found
  obtain ⟨_, next, leads, ended⟩ := follow_cons_eq_ok_iff.mp found
  obtain rfl : next = place := Except.ok.inj ended
  cases leads with
  | stay marked => exact absurd marked (by simp [proper.nonempty, proper.notDot])
  | up => exact absurd rfl proper.notDots
  | down => rfl

end CompanionStyles.FileTree
