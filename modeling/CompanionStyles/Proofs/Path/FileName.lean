import Mathlib.Data.List.TakeWhile
import CompanionStyles.Path.Basic

/-!
The file name of a path is its last component, if that is a name. So paths that denote the same have the same file
name, however they are spelled. A name is split at its last dot, unless that stands in front: its stem is what stands
in front of the dot, its extension what stands behind it.
-/

namespace CompanionStyles.Path

/-- What names nothing at the end of a path is left out with it: the components stay the same. -/
theorem filterMap_pieces_trimBackwards (body : Bytes) :
    (pieces (trimBackwards body).reverse).filterMap Component.ofPiece? =
      (pieces body.reverse).filterMap Component.ofPiece? := by
  fun_induction trimBackwards body with
  | case1 => rfl
  | case2 rest ih =>
    rw [ih, List.reverse_cons, pieces_append rest.reverse [], List.filterMap_append]
    exact (List.append_nil _).symm
  | case3 => rfl
  | case4 rest _ ih =>
    have ends : (dot :: separator :: rest).reverse = rest.reverse ++ separator :: [dot] := by simp
    rw [ih, ends, pieces_append, List.filterMap_append]
    exact (List.append_nil _).symm
  | case5 c rest other => rfl
  | case6 b rest notSeparator notDot => rfl

theorem exists_ofPiece?_reverse {piece : Bytes} (nonempty : piece ≠ []) (notDot : piece ≠ [dot]) :
    ∃ c, Component.ofPiece? piece.reverse = some c := by
  rw [Component.ofPiece?, if_neg (by simpa using ⟨nonempty, notDot⟩)]
  split <;> exact ⟨_, rfl⟩

/-- A path without such an end is empty or ends with a piece that names something. -/
theorem trimBackwards_eq_nil_or (body : Bytes) : trimBackwards body = [] ∨
    ∃ c, Component.ofPiece? ((trimBackwards body).takeWhile (· ≠ separator)).reverse = some c := by
  fun_induction trimBackwards body with
  | case1 => exact .inl rfl
  | case2 rest ih => exact ih
  | case3 => exact .inl rfl
  | case4 rest _ ih => exact ih
  | case5 c rest other notSeparator =>
    exact .inr (exists_ofPiece?_reverse (by simp [notSeparator]) (by simp [notSeparator, other]))
  | case6 b rest notSeparator notDot =>
    exact .inr (exists_ofPiece?_reverse (by simp [notSeparator]) (by simp [notSeparator, notDot]))

/-- The last piece of a path stands behind its last separator. -/
theorem exists_pieces_reverse (body : Bytes) :
    ∃ others, pieces body.reverse = others ++ [(body.takeWhile (· ≠ separator)).reverse] := by
  have kept : ∀ {last : Bytes} (rest : Bytes), separator ∉ last →
      (last ++ rest).takeWhile (· ≠ separator) = last ++ rest.takeWhile (· ≠ separator) := fun rest whole =>
    List.takeWhile_append_of_pos fun b inside => decide_eq_true fun same => whole (same ▸ inside)
  by_cases separated : separator ∈ body
  · obtain ⟨last, front, rfl, whole⟩ := List.eq_append_cons_of_mem separated
    have ends : (last ++ separator :: front).reverse = front.reverse ++ separator :: last.reverse := by simp
    have named : pieces last.reverse = [last.reverse] := pieces_of_not_mem (by simpa using whole)
    rw [kept _ whole, List.takeWhile_cons_of_neg (by simp), List.append_nil, ends, pieces_append, named]
    exact ⟨_, rfl⟩
  · have taken := kept [] separated
    rw [List.append_nil, List.takeWhile_nil, List.append_nil] at taken
    rw [taken, pieces_of_not_mem (by simpa using separated)]
    exact ⟨[], rfl⟩

/-- The last component behind the start of a path is what its last piece names. -/
theorem getLast?_filterMap_pieces (body : Bytes) :
    ((pieces body.reverse).filterMap Component.ofPiece?).getLast? =
      Component.ofPiece? ((trimBackwards body).takeWhile (· ≠ separator)).reverse := by
  rw [← filterMap_pieces_trimBackwards]
  rcases trimBackwards_eq_nil_or body with empty | ⟨c, named⟩
  · rw [empty]
    rfl
  · obtain ⟨others, split⟩ := exists_pieces_reverse (trimBackwards body)
    rw [split, List.filterMap_append, List.filterMap_cons_some named, named]
    exact List.getLast?_concat

theorem eq_of_ofPiece?_eq_name {piece name : Bytes} (named : Component.ofPiece? piece = some (.name name)) :
    piece = name := by
  rw [Component.ofPiece?] at named
  split at named
  · cases named
  · split at named
    · cases named
    · exact Component.name.inj (Option.some.inj named)

/-- Without the mark at its start, the pieces of a path name the same. -/
theorem filterMap_pieces_drop (bytes : Bytes) :
    (pieces (bytes.drop (startLength bytes))).filterMap Component.ofPiece? =
      (pieces bytes).filterMap Component.ofPiece? := by
  cases bytes with
  | nil => rfl
  | cons b rest =>
    by_cases isRoot : b = separator
    · subst isRoot
      rfl
    · by_cases isDot : b = dot
      · subst isDot
        cases rest with
        | nil => rfl
        | cons c rest =>
          by_cases between : c = separator
          · subst between
            rfl
          · simp [startLength, isRoot, between]
      · simp [startLength, isRoot, isDot]

theorem start_cases (p : Path) : p.start = [] ∨ p.start = [.root] ∨ p.start = [.current] := by
  unfold start
  repeat' split
  all_goals simp

theorem name_not_mem_start (p : Path) (name : Bytes) : .name name ∉ p.start := by
  rcases p.start_cases with empty | root | current
  · simp [empty]
  · simp [root]
  · simp [current]

theorem name_eq_some_iff {piece name : Bytes} {c : Component} (named : Component.ofPiece? piece = some c) :
    (if piece = [] ∨ piece = [dot, dot] then none else some piece) = some name ↔ c = .name name := by
  rw [Component.ofPiece?] at named
  split at named
  · cases named
  · rename_i nameless
    rw [not_or] at nameless
    split at named
    · rename_i above
      obtain rfl := Option.some.inj named
      rw [if_pos (.inr above)]
      exact ⟨nofun, nofun⟩
    · rename_i notAbove
      obtain rfl := Option.some.inj named
      rw [if_neg fun either => either.elim nameless.1 notAbove, Option.some.injEq, Component.name.injEq]

/-- The file name of a path is its last component. -/
theorem fileName_eq_some_iff {p : Path} {name : Bytes} :
    p.fileName = some name ↔ p.components.getLast? = some (.name name) := by
  have body := getLast?_filterMap_pieces (p.bytes.drop (startLength p.bytes)).reverse
  have trimmed := trimBackwards_eq_nil_or (p.bytes.drop (startLength p.bytes)).reverse
  have starts : p.start.getLast? ≠ some (.name name) := fun last =>
    p.name_not_mem_start name (List.mem_of_getLast? last)
  rw [List.reverse_reverse] at body
  rw [components, List.getLast?_append, body, fileName, bodyBackwards]
  rcases trimmed with empty | ⟨c, named⟩
  · rw [empty]
    simpa [Component.ofPiece?] using starts
  · rw [named, Option.some_or, Option.some.injEq]
    exact name_eq_some_iff named

/-- Paths that denote the same have the same file name. -/
theorem Equivalent.fileName_eq {p q : Path} (same : p.Equivalent q) : p.fileName = q.fileName :=
  Option.ext fun name => by rw [fileName_eq_some_iff, fileName_eq_some_iff, same]

theorem IsName.startLength_eq {name : Bytes} (isName : IsName name) : startLength name = 0 := by
  cases name with
  | nil => rfl
  | cons b rest =>
    have other : b ≠ separator := fun same => isName.whole (same ▸ List.mem_cons_self)
    unfold startLength
    dsimp only
    rw [if_neg other]
    split
    · rename_i isDot
      cases rest with
      | nil => exact absurd (by rw [isDot]) isName.notDot
      | cons c rest =>
        have next : c ≠ separator := fun same => isName.whole (same ▸ List.mem_cons_of_mem b List.mem_cons_self)
        exact if_neg next
    · rfl

theorem IsName.ofPiece?_eq {name : Bytes} (isName : IsName name) :
    Component.ofPiece? name = some (.name name) := by
  rw [Component.ofPiece?, if_neg fun either => either.elim isName.nonempty isName.notDot, if_neg isName.notDots]

/-- A name is a path of its own. -/
theorem IsName.components_eq {name : Bytes} (isName : IsName name) : (Path.mk name).components = [.name name] := by
  obtain ⟨b, rest, rfl⟩ := List.exists_cons_of_ne_nil isName.nonempty
  have start : (Path.mk (b :: rest)).start = [] := by
    rw [Path.start]
    exact if_pos isName.startLength_eq
  rw [components, start, isName.startLength_eq, List.drop_zero, pieces_of_not_mem isName.whole,
    List.filterMap_cons_some isName.ofPiece?_eq]
  rfl

theorem IsName.fileName {name : Bytes} (isName : IsName name) : (Path.mk name).fileName = some name := by
  rw [fileName_eq_some_iff, isName.components_eq]
  rfl

/-- The file name of a path is a name. -/
theorem isName_of_fileName {p : Path} {name : Bytes} (named : p.fileName = some name) : IsName name :=
  isName_of_mem_components (List.mem_of_getLast? (fileName_eq_some_iff.mp named))

theorem exists_lastDot {name : Bytes} (dotted : dot ∈ name) :
    ∃ front back, name = front ++ dot :: back ∧ dot ∉ back := by
  obtain ⟨back, front, split, whole⟩ := List.eq_append_cons_of_mem (List.mem_reverse.mpr dotted)
  refine ⟨front.reverse, back.reverse, ?_, by simpa using whole⟩
  have forwards := congrArg List.reverse split
  simpa using forwards

theorem splitName_of_not_mem {name : Bytes} (whole : dot ∉ name) : splitName name = (name, none) := by
  have kept : ∀ b ∈ name.reverse, decide (b ≠ dot) = true := fun b inside =>
    decide_eq_true fun isDot => whole (isDot ▸ List.mem_reverse.mp inside)
  rw [splitName, List.dropWhile_eq_nil_iff.mpr kept]
  rfl

/-- A name is split at its last dot, unless that stands in front. -/
theorem splitName_append {front back : Bytes} (whole : dot ∉ back) : splitName (front ++ dot :: back) =
    if front = [] then (dot :: back, none) else (front, some back) := by
  have kept : ∀ b ∈ back.reverse, decide (b ≠ dot) = true := fun b inside =>
    decide_eq_true fun isDot => whole (isDot ▸ List.mem_reverse.mp inside)
  have backwards : (front ++ dot :: back).reverse = back.reverse ++ dot :: front.reverse := by simp
  rw [splitName, backwards, List.takeWhile_append_of_pos kept, List.dropWhile_append_of_pos kept,
    List.takeWhile_cons_of_neg (by simp), List.dropWhile_cons_of_neg (by simp), List.append_nil, List.reverse_reverse,
    List.reverse_cons, List.reverse_reverse, List.dropLast_concat]
  cases front with
  | nil => rfl
  | cons b front => rfl

/-- A name has an extension exactly if it has a last dot that does not stand in front. -/
theorem splitName_eq_some_iff {name stem extension : Bytes} : splitName name = (stem, some extension) ↔
    name = stem ++ dot :: extension ∧ stem ≠ [] ∧ dot ∉ extension := by
  constructor
  · intro split
    by_cases dotted : dot ∈ name
    · obtain ⟨front, back, rfl, whole⟩ := exists_lastDot dotted
      rw [splitName_append whole] at split
      split at split
      · cases split
      · rename_i nonempty
        obtain ⟨rfl, rfl⟩ : front = stem ∧ back = extension := by simpa using split
        exact ⟨rfl, nonempty, whole⟩
    · rw [splitName_of_not_mem dotted] at split
      cases split
  · rintro ⟨rfl, nonempty, whole⟩
    rw [splitName_append whole, if_neg nonempty]

/-- Without an extension, the stem of a name is the whole of it. -/
theorem eq_of_splitName_eq_none {name stem : Bytes} (split : splitName name = (stem, none)) : stem = name := by
  by_cases dotted : dot ∈ name
  · obtain ⟨front, back, rfl, whole⟩ := exists_lastDot dotted
    rw [splitName_append whole] at split
    split at split
    · rename_i empty
      rw [empty]
      exact (congrArg Prod.fst split).symm
    · cases split
  · rw [splitName_of_not_mem dotted] at split
    exact (congrArg Prod.fst split).symm

/-- The stem of a name is the whole of it, or stands in front of a dot. -/
theorem splitName_cases (name : Bytes) :
    (splitName name).1 = name ∨ ∃ after, name = (splitName name).1 ++ dot :: after := by
  cases split : splitName name with
  | mk stem extension =>
    cases extension with
    | none => exact .inl (eq_of_splitName_eq_none split)
    | some extension => exact .inr ⟨extension, (splitName_eq_some_iff.mp split).1⟩

end CompanionStyles.Path
