import Mathlib.Data.List.TakeWhile
import CompanionStyles.Proofs.Path.FileName

/-!
The parent of a path has all its components but the last one. So paths that denote the same have parents that
denote the same, however they are spelled; and a name that is joined to a directory is one component more.
-/

namespace CompanionStyles.Path

/-- What stands behind a separator does not change how a path starts. -/
theorem startLength_append {front : Bytes} (nonempty : front ≠ []) (back : Bytes) :
    startLength (front ++ separator :: back) = startLength front := by
  cases front with
  | nil => exact absurd rfl nonempty
  | cons b rest =>
    cases rest with
    | nil => simp [startLength]
    | cons c rest => rfl

theorem start_append {front : Bytes} (nonempty : front ≠ []) (back : Bytes) :
    (Path.mk (front ++ separator :: back)).start = (Path.mk front).start := by
  have same := startLength_append nonempty back
  cases front with
  | nil => exact absurd rfl nonempty
  | cons b rest =>
    rw [List.cons_append] at same ⊢
    simp only [start, same]

theorem startLength_le (bytes : Bytes) : startLength bytes ≤ bytes.length := by
  unfold startLength
  repeat' split
  all_goals simp

/-- Behind a separator, a path goes on with what its pieces name. -/
theorem components_append {front : Bytes} (nonempty : front ≠ []) (back : Bytes) :
    (Path.mk (front ++ separator :: back)).components =
      (Path.mk front).components ++ (pieces back).filterMap Component.ofPiece? := by
  have short := startLength_le front
  rw [components, components, start_append nonempty, startLength_append nonempty,
    List.drop_append_of_le_length short, pieces_append, List.filterMap_append, List.append_assoc]

/-- The start of a path is a path of its own. -/
theorem components_take_start (p : Path) : (Path.mk (p.bytes.take (startLength p.bytes))).components = p.start := by
  obtain ⟨bytes⟩ := p
  cases bytes with
  | nil => rfl
  | cons b rest =>
    by_cases isRoot : b = separator
    · subst isRoot
      rfl
    · by_cases isDot : b = dot
      · subst isDot
        cases rest with
        | nil => rfl
        | cons c rest =>
          by_cases whole : c = separator
          · subst whole
            rfl
          · simp [startLength, start, isRoot, whole]
            rfl
      · simp [startLength, start, isRoot, isDot]
        rfl

/-- A path that is cut in front of a separator behind its start keeps the start. -/
theorem components_take_append {p : Path} {front rest : Bytes}
    (cut : p.bytes.drop (startLength p.bytes) = front ++ separator :: rest) :
    (Path.mk (p.bytes.take (startLength p.bytes) ++ front)).components =
      p.start ++ (pieces front).filterMap Component.ofPiece? := by
  have whole := List.take_append_drop (startLength p.bytes) p.bytes
  rw [cut, ← List.append_assoc] at whole
  have nonempty : p.bytes.take (startLength p.bytes) ++ front ≠ [] := by
    intro empty
    rw [empty, List.nil_append] at whole
    rw [← whole] at empty
    simp [startLength] at empty
  have starts : (Path.mk (p.bytes.take (startLength p.bytes) ++ front)).start = p.start := by
    rw [← start_append nonempty rest, whole]
  have length : startLength (p.bytes.take (startLength p.bytes) ++ front) = startLength p.bytes := by
    rw [← startLength_append nonempty rest, whole]
  have taken : (p.bytes.take (startLength p.bytes)).length = startLength p.bytes := by
    rw [List.length_take, Nat.min_eq_left (startLength_le p.bytes)]
  rw [components, starts, length, List.drop_left' taken]

/-- What is left of a path without what names nothing at its end is empty, or ends at a separator. -/
theorem trimBackwards_cases (body : Bytes) : trimBackwards body = [] ∨
    ∃ dropped, separator :: body = dropped ++ separator :: trimBackwards body := by
  fun_induction trimBackwards body with
  | case1 => exact .inl rfl
  | case2 rest ih =>
    rcases ih with empty | ⟨dropped, split⟩
    · exact .inl empty
    · exact .inr ⟨separator :: dropped, by rw [List.cons_append, ← split]⟩
  | case3 => exact .inl rfl
  | case4 rest _ ih =>
    rcases ih with empty | ⟨dropped, split⟩
    · exact .inl empty
    · exact .inr ⟨separator :: dot :: dropped, by rw [List.cons_append, List.cons_append, ← split]⟩
  | case5 c rest other => exact .inr ⟨[], rfl⟩
  | case6 b rest notSeparator notDot => exact .inr ⟨[], rfl⟩

/-- A path with nothing behind its start has no components but its start. -/
theorem components_of_bodyBackwards_eq_nil {p : Path} (empty : p.bodyBackwards = []) : p.components = p.start := by
  have none := filterMap_pieces_trimBackwards (p.bytes.drop (startLength p.bytes)).reverse
  rw [← bodyBackwards, empty, List.reverse_reverse] at none
  rw [components, ← none]
  exact List.append_nil p.start

theorem components_eq (p : Path) :
    p.components = p.start ++ (pieces p.bodyBackwards.reverse).filterMap Component.ofPiece? := by
  have named := filterMap_pieces_trimBackwards (p.bytes.drop (startLength p.bytes)).reverse
  rw [List.reverse_reverse] at named
  rw [components, ← named, bodyBackwards]

theorem ofPiece?_ne_root (piece : Bytes) : Component.ofPiece? piece ≠ some .root := by
  rw [Component.ofPiece?]
  repeat' split
  all_goals simp

/-- What stands in front of the last separator of a path keeps the components that it names. -/
theorem components_before {p : Path} {name front : Bytes} (split : p.bodyBackwards = name ++ separator :: front) :
    (Path.mk (p.bytes.take (startLength p.bytes) ++ (trimBackwards front).reverse)).components =
      p.start ++ (pieces front.reverse).filterMap Component.ofPiece? := by
  rw [← filterMap_pieces_trimBackwards front]
  rcases trimBackwards_cases front with empty | ⟨dropped, inner⟩
  · rw [empty, List.reverse_nil, List.append_nil, components_take_start]
    exact (List.append_nil p.start).symm
  · have outer := trimBackwards_cases (p.bytes.drop (startLength p.bytes)).reverse
    rw [← bodyBackwards, split, inner] at outer
    rcases outer with empty | ⟨dropped', outer⟩
    · exact absurd empty (by simp)
    · -- the separator in front of the body is not the one that the front ends at
      have cut : ∃ behind, (p.bytes.drop (startLength p.bytes)).reverse =
          behind ++ separator :: trimBackwards front := by
        cases dropped' with
        | nil => exact ⟨name ++ dropped, by rw [(List.cons.inj outer).2, List.append_assoc]⟩
        | cons _ dropped' =>
          refine ⟨dropped' ++ separator :: (name ++ dropped), ?_⟩
          rw [(List.cons.inj outer).2]
          simp
      obtain ⟨behind, cut⟩ := cut
      have forwards := congrArg List.reverse cut
      rw [List.reverse_reverse, List.reverse_append, List.reverse_cons, List.append_assoc] at forwards
      exact components_take_append forwards

/-- A path with something behind its start has a parent, with all its components but the last one. -/
theorem exists_parent {p : Path} (solid : p.bodyBackwards ≠ []) :
    ∃ d c, p.parent = some d ∧ p.components = d.components ++ [c] ∧ c ≠ .root := by
  have parent : p.parent = some ⟨p.bytes.take (startLength p.bytes)
      ++ (trimBackwards ((p.bodyBackwards.dropWhile (· ≠ separator)).drop 1)).reverse⟩ := by
    unfold Path.parent
    split
    · rename_i empty
      exact absurd empty solid
    · rfl
  obtain ⟨c, last⟩ := (trimBackwards_eq_nil_or (p.bytes.drop (startLength p.bytes)).reverse).resolve_left solid
  rw [← bodyBackwards] at last
  have notRoot : c ≠ .root := fun isRoot => ofPiece?_ne_root _ (isRoot ▸ last)
  refine ⟨_, c, parent, ?_, notRoot⟩
  rw [components_eq]
  by_cases separated : separator ∈ p.bodyBackwards
  · obtain ⟨name, front, split, whole⟩ := List.eq_append_cons_of_mem separated
    have kept : ∀ b ∈ name, decide (b ≠ separator) = true := fun b inside =>
      decide_eq_true fun same => whole (same ▸ inside)
    have left : (p.bodyBackwards.dropWhile (· ≠ separator)).drop 1 = front := by
      rw [split, List.dropWhile_append_of_pos kept, List.dropWhile_cons_of_neg (by simp)]
      rfl
    have clean : separator ∉ name.reverse := by simpa using whole
    rw [split, List.takeWhile_append_of_pos kept, List.takeWhile_cons_of_neg (by simp), List.append_nil] at last
    rw [left, components_before split, split, List.reverse_append, List.reverse_cons, List.append_assoc,
      List.singleton_append, pieces_append, List.filterMap_append, pieces_of_not_mem clean,
      List.filterMap_cons_some last, List.filterMap_nil, List.append_assoc]
  · have kept : ∀ b ∈ p.bodyBackwards, decide (b ≠ separator) = true := fun b inside =>
      decide_eq_true fun same => separated (same ▸ inside)
    have left : p.bodyBackwards.dropWhile (· ≠ separator) = [] := List.dropWhile_eq_nil_iff.mpr kept
    have clean : separator ∉ p.bodyBackwards.reverse := by simpa using separated
    rw [List.takeWhile_eq_self_iff.mpr kept] at last
    rw [left, pieces_of_not_mem clean, List.filterMap_cons_some last, List.filterMap_nil]
    have start := components_take_start p
    rw [← start]
    simp [trimBackwards]

theorem parent_of_bodyBackwards_eq_nil {p : Path} (empty : p.bodyBackwards = []) :
    p.parent = if p.start = [.current] then some ⟨[]⟩ else none := by
  rw [Path.parent, empty]

/-- A path has no parent if it is empty or a root. -/
theorem parent_eq_none_iff {p : Path} : p.parent = none ↔ p.components = [] ∨ p.components = [.root] := by
  by_cases solid : p.bodyBackwards = []
  · rw [parent_of_bodyBackwards_eq_nil solid, components_of_bodyBackwards_eq_nil solid]
    rcases start_cases p with none | root | current
    · simp [none]
    · simp [root]
    · simp [current]
  · obtain ⟨d, c, parent, components, notRoot⟩ := exists_parent solid
    rw [parent, components]
    refine iff_of_false nofun ?_
    rintro (empty | root)
    · exact absurd empty (by simp)
    · have last := congrArg List.getLast? root
      rw [List.getLast?_concat] at last
      exact notRoot (Option.some.inj last)

/-- The parent of a path has all its components but the last one. -/
theorem components_of_parent {p d : Path} (parent : p.parent = some d) : ∃ c, p.components = d.components ++ [c] := by
  by_cases solid : p.bodyBackwards = []
  · rw [parent_of_bodyBackwards_eq_nil solid] at parent
    split at parent
    · rename_i current
      obtain rfl := Option.some.inj parent
      exact ⟨.current, by rw [components_of_bodyBackwards_eq_nil solid, current]; rfl⟩
    · cases parent
  · obtain ⟨d', c, parent', components, _⟩ := exists_parent solid
    obtain rfl := Option.some.inj (parent.symm.trans parent')
    exact ⟨c, components⟩

theorem Equivalent.parent_eq_none {p q : Path} (same : p.Equivalent q) (orphan : p.parent = none) :
    q.parent = none := by
  rw [parent_eq_none_iff] at orphan ⊢
  rwa [← same]

/-- Paths that denote the same have parents that denote the same, or none. -/
theorem Equivalent.parent {p q d : Path} (same : p.Equivalent q) (parent : p.parent = some d) :
    ∃ d', q.parent = some d' ∧ d.Equivalent d' := by
  obtain ⟨c, components⟩ := components_of_parent parent
  cases parent' : q.parent with
  | none =>
    rw [same.symm.parent_eq_none parent'] at parent
    cases parent
  | some d' =>
    obtain ⟨c', components'⟩ := components_of_parent parent'
    have whole : d.components ++ [c] = d'.components ++ [c'] := by rw [← components, ← components', same]
    exact ⟨d', rfl, List.append_inj_left' whole rfl⟩

/-- A path with a file name stands in its parent under that name. -/
theorem exists_parent_of_fileName {p : Path} {name : Bytes} (named : p.fileName = some name) :
    ∃ d, p.parent = some d ∧ p.components = d.components ++ [.name name] := by
  have last := fileName_eq_some_iff.mp named
  cases parent : p.parent with
  | none =>
    rcases parent_eq_none_iff.mp parent with empty | root
    · rw [empty] at last
      cases last
    · rw [root] at last
      cases last
  | some d =>
    obtain ⟨c, components⟩ := components_of_parent parent
    rw [components, List.getLast?_concat] at last
    obtain rfl := Option.some.inj last
    exact ⟨d, rfl, components⟩

/-- A path that stands in a directory has the directory for its parent, however it is spelled. -/
theorem parent_of_components {p d : Path} {name : Bytes} (stands : p.components = d.components ++ [.name name]) :
    p.fileName = some name ∧ ∃ d', p.parent = some d' ∧ d'.Equivalent d := by
  have named : p.fileName = some name := by
    rw [fileName_eq_some_iff, stands, List.getLast?_concat]
  obtain ⟨d', parent, stands'⟩ := exists_parent_of_fileName named
  exact ⟨named, d', parent, List.append_cancel_right (stands'.symm.trans stands)⟩

/-- The parent of a path stands at the start of it. -/
theorem prefix_of_parent {p d : Path} (parent : p.parent = some d) : d.bytes <+: p.bytes := by
  have trimmed : ∀ body, trimBackwards body <:+ body := by
    intro body
    rcases trimBackwards_cases body with empty | ⟨dropped, split⟩
    · exact empty ▸ List.nil_suffix
    · cases dropped with
      | nil => exact (List.cons.inj split).2 ▸ List.suffix_refl _
      | cons b dropped =>
        have behind := (List.cons.inj split).2.symm
        exact ⟨dropped ++ [separator], by rwa [List.append_assoc]⟩
  unfold Path.parent at parent
  split at parent
  · split at parent
    · obtain rfl := Option.some.inj parent
      exact List.nil_prefix
    · cases parent
  · obtain rfl := Option.some.inj parent
    have before := (trimmed _).trans ((List.drop_suffix 1 _).trans ((List.dropWhile_suffix (· ≠ separator)).trans
      (trimmed (p.bytes.drop (startLength p.bytes)).reverse)))
    have forwards := List.reverse_prefix.mpr before
    rw [List.reverse_reverse] at forwards
    have whole := (List.prefix_append_right_inj (p.bytes.take (startLength p.bytes))).mpr forwards
    rwa [List.take_append_drop] at whole

end CompanionStyles.Path
