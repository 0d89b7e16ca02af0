import CompanionStyles.Proofs.Path.Parent

/-!
Joining a name to a directory. What is joined without a separator in it is one step more from where the directory
leads, if it names anything; and a name is one component more.
-/

namespace CompanionStyles.Path

theorem isAbsolute_eq_false {piece : Bytes} (whole : separator ∉ piece) : (Path.mk piece).isAbsolute = false := by
  cases piece with
  | nil => rfl
  | cons b rest => exact decide_eq_false fun first => List.ne_of_not_mem_cons whole (Option.some.inj first).symm

/-- A relative path is joined to a directory behind a separator, or to one that has no bytes. -/
theorem join_cases (d : Path) {p : Path} (relative : p.isAbsolute = false) :
    d.bytes = [] ∧ d.join p = p ∨
      ∃ front, d.join p = ⟨front ++ separator :: p.bytes⟩ ∧ (d.bytes = front ++ [separator] ∨
        d.bytes = front ∧ front ≠ []) := by
  rw [join, relative, if_neg Bool.false_ne_true]
  split
  · rename_i ended
    rcases ended with empty | ended
    · exact .inl ⟨empty, by rw [empty]; rfl⟩
    · obtain ⟨front, split⟩ := List.getLast?_eq_some_iff.mp ended
      exact .inr ⟨front, by rw [split, List.append_assoc]; rfl, .inl split⟩
  · rename_i open'
    exact .inr ⟨d.bytes, rfl, .inr ⟨rfl, fun empty => open' (.inl empty)⟩⟩

/-- What is joined to a directory starts where the directory does. -/
theorem isAbsolute_join {d p : Path} (nonempty : d.bytes ≠ []) (relative : p.isAbsolute = false) :
    (d.join p).isAbsolute = d.isAbsolute := by
  rcases join_cases d relative with ⟨empty, _⟩ | ⟨front, joined, ended | ⟨open', some'⟩⟩
  · exact absurd empty nonempty
  · rw [joined, isAbsolute, isAbsolute, ended]
    cases front <;> rfl
  · rw [joined, isAbsolute, isAbsolute, open']
    obtain ⟨b, rest, rfl⟩ := List.exists_cons_of_ne_nil some'
    rfl

theorem join_eq_nil_iff {d : Path} {piece : Bytes} (whole : separator ∉ piece) :
    (d.join ⟨piece⟩).bytes = [] ↔ d = ⟨[]⟩ ∧ piece = [] := by
  obtain ⟨bytes⟩ := d
  rcases join_cases ⟨bytes⟩ (isAbsolute_eq_false whole) with ⟨rfl, joined⟩ | ⟨front, joined, rfl | ⟨rfl, nonempty⟩⟩
  · simp [joined]
  · simp [joined]
  · exact iff_of_false (by simp [joined]) fun nothing => nonempty (congrArg Path.bytes nothing.1)

/-- A directory stands at the start of what is joined to it. -/
theorem prefix_join (d : Path) {piece : Bytes} (whole : separator ∉ piece) : d.bytes <+: (d.join ⟨piece⟩).bytes := by
  rcases join_cases d (isAbsolute_eq_false whole) with ⟨empty, _⟩ | ⟨front, joined, ended | ⟨open', _⟩⟩
  · exact empty ▸ List.nil_prefix
  · exact ⟨piece, by rw [joined, ended, List.append_assoc]; rfl⟩
  · exact ⟨separator :: piece, by rw [joined, open']⟩

theorem components_root (back : Bytes) :
    (Path.mk (separator :: back)).components = .root :: (pieces back).filterMap Component.ofPiece? :=
  rfl

/-- A name that is joined to a directory is one component more. -/
theorem components_join (d : Path) {name : Bytes} (isName : IsName name) :
    (d.join ⟨name⟩).components = d.components ++ [.name name] := by
  have named : (pieces name).filterMap Component.ofPiece? = [.name name] := by
    rw [pieces_of_not_mem isName.whole, List.filterMap_cons_some isName.ofPiece?_eq]
    rfl
  obtain ⟨bytes⟩ := d
  rcases join_cases ⟨bytes⟩ (isAbsolute_eq_false isName.whole) with
    ⟨rfl, joined⟩ | ⟨front, joined, rfl | ⟨rfl, nonempty⟩⟩
  · rw [joined, isName.components_eq]
    rfl
  · rw [joined]
    cases front with
    | nil => rw [List.nil_append, components_root, named]; rfl
    | cons b front =>
      rw [components_append (List.cons_ne_nil b front), components_append (List.cons_ne_nil b front), named]
      simp [pieces, Component.ofPiece?]
  · rw [joined, components_append nonempty, named]

/-- Where a path leads from where it starts: a `.` at the start leads nowhere. -/
def steps (p : Path) : List Component :=
  p.components.filter (· ≠ .current)

theorem Equivalent.steps_eq {p q : Path} (same : p.Equivalent q) : p.steps = q.steps :=
  congrArg (List.filter _) same

/-- The name of a file is the last step to it. -/
theorem steps_of_components {p d : Path} {name : Bytes} (stands : p.components = d.components ++ [.name name]) :
    p.steps = d.steps ++ [.name name] := by
  rw [steps, stands, List.filter_append]
  rfl

theorem ofPiece?_ne_current (piece : Bytes) : Component.ofPiece? piece ≠ some .current := by
  rw [Component.ofPiece?]
  repeat' split
  all_goals simp

/-- What no piece names is not among what pieces name. -/
theorem filter_filterMap_ofPiece? {c : Component} (never : ∀ piece, Component.ofPiece? piece ≠ some c)
    (found : List Bytes) :
    (found.filterMap Component.ofPiece?).filter (· ≠ c) = found.filterMap Component.ofPiece? := by
  refine List.filter_eq_self.mpr fun c' inside => decide_eq_true ?_
  rintro rfl
  obtain ⟨piece, _, named⟩ := List.mem_filterMap.mp inside
  exact never piece named

theorem filter_start (p : Path) : p.start.filter (· ≠ .current) = if p.isAbsolute then [.root] else [] := by
  obtain ⟨bytes⟩ := p
  cases bytes with
  | nil => rfl
  | cons b rest =>
    by_cases isRoot : b = separator
    · subst isRoot
      rfl
    · simp [start, isAbsolute, isRoot]

/-- The steps of a path are what its pieces name, behind the root if it starts there. -/
theorem steps_eq (p : Path) : p.steps =
    (if p.isAbsolute then [.root] else []) ++ (pieces p.bytes).filterMap Component.ofPiece? := by
  rw [steps, components, filterMap_pieces_drop, List.filter_append, filter_start,
    filter_filterMap_ofPiece? ofPiece?_ne_current]

/-- Behind the root, the steps of a path are what its pieces name. -/
theorem filter_steps (p : Path) :
    p.steps.filter (· ≠ .root) = (pieces p.bytes).filterMap Component.ofPiece? := by
  rw [steps_eq, List.filter_append, filter_filterMap_ofPiece? ofPiece?_ne_root]
  split <;> rfl

/-- A path has more steps than another exactly if both start at the root or neither does, and its pieces name more. -/
theorem steps_eq_append_iff {p q : Path} {found : List Bytes} :
    p.steps = q.steps ++ found.filterMap Component.ofPiece? ↔ p.isAbsolute = q.isAbsolute
      ∧ (pieces p.bytes).filterMap Component.ofPiece? =
        (pieces q.bytes ++ found).filterMap Component.ofPiece? := by
  rw [List.filterMap_append]
  constructor
  · intro more
    have named := congrArg (List.filter (· ≠ .root)) more
    rw [List.filter_append, filter_steps, filter_steps, filter_filterMap_ofPiece? ofPiece?_ne_root] at named
    rw [steps_eq, steps_eq, named, List.append_assoc, List.append_cancel_right_eq] at more
    refine ⟨?_, named⟩
    cases first : p.isAbsolute <;> cases second : q.isAbsolute <;> simp [first, second] at more ⊢
  · rintro ⟨starts, named⟩
    rw [steps_eq, steps_eq, starts, named, List.append_assoc]

theorem steps_eq_iff {p q : Path} : p.steps = q.steps ↔ p.isAbsolute = q.isAbsolute
    ∧ (pieces p.bytes).filterMap Component.ofPiece? = (pieces q.bytes).filterMap Component.ofPiece? := by
  have more := @steps_eq_append_iff p q []
  rwa [List.filterMap_nil, List.append_nil, List.append_nil] at more

theorem filterMap_ofPiece?_singleton (piece : Bytes) :
    [piece].filterMap Component.ofPiece? = (Component.ofPiece? piece).toList := by
  cases named : Component.ofPiece? piece <;> simp [named]

/-- Bytes without a separator that are joined to a directory are a step more if they name one. -/
theorem steps_join (d : Path) {piece : Bytes} (whole : separator ∉ piece) :
    (d.join ⟨piece⟩).steps = d.steps ++ (Component.ofPiece? piece).toList := by
  obtain ⟨bytes⟩ := d
  have relative := isAbsolute_eq_false whole
  rcases join_cases ⟨bytes⟩ relative with ⟨rfl, joined⟩ | ⟨front, joined, ended⟩
  · rw [joined, steps_eq, relative, pieces_of_not_mem whole, filterMap_ofPiece?_singleton]
    rfl
  · have nonempty : (Path.mk bytes).bytes ≠ [] := by
      rcases ended with rfl | ⟨rfl, nonempty⟩
      · simp
      · exact nonempty
    rw [steps_eq, steps_eq, isAbsolute_join nonempty relative, joined, List.append_assoc, pieces_append,
      pieces_of_not_mem whole, List.filterMap_append, filterMap_ofPiece?_singleton]
    rcases ended with rfl | ⟨rfl, _⟩
    · simp [pieces, pieces_append, Component.ofPiece?]
    · rfl

end CompanionStyles.Path
