import CompanionStyles.Proofs.Patch.Splicing

/-!
Places of a patched text and of its original. Both go on together behind copied text, each line of which has a
mapping; the mappings of a patch stand in the order of the text.
-/

namespace CompanionStyles

namespace Cursor

instance : LT Cursor :=
  ⟨fun a b => a.line < b.line ∨ a.line = b.line ∧ a.column < b.column⟩

instance : LE Cursor :=
  ⟨fun a b => a.line < b.line ∨ a.line = b.line ∧ a.column ≤ b.column⟩

variable {a b c : Cursor}

theorem lt_iff : a < b ↔ a.line < b.line ∨ a.line = b.line ∧ a.column < b.column :=
  Iff.rfl

theorem le_iff : a ≤ b ↔ a.line < b.line ∨ a.line = b.line ∧ a.column ≤ b.column :=
  Iff.rfl

theorem le_refl (a : Cursor) : a ≤ a :=
  Or.inr ⟨rfl, Nat.le_refl _⟩

theorem le_of_lt (before : a < b) : a ≤ b := by
  rw [lt_iff] at before
  rw [le_iff]
  omega

theorem le_trans (first : a ≤ b) (second : b ≤ c) : a ≤ c := by
  rw [le_iff] at first second ⊢
  omega

theorem lt_of_lt_of_le (first : a < b) (second : b ≤ c) : a < c := by
  rw [lt_iff] at first ⊢
  rw [le_iff] at second
  omega

theorem line_le (before : a ≤ b) : a.line ≤ b.line := by
  rw [le_iff] at before
  omega

theorem lt_step (place : Cursor) (c : Char) : place < place.step c := by
  rw [lt_iff]
  unfold step Text.unitsOf
  split
  · exact Or.inl (Nat.lt_succ_self _)
  · refine Or.inr ⟨rfl, ?_⟩
    split <;> simp only <;> omega

theorem advance_append (place : Cursor) (first second : List Char) :
    place.advance (first ++ second) = (place.advance first).advance second :=
  List.foldl_append

theorem le_advance (place : Cursor) (text : List Char) : place ≤ place.advance text := by
  induction text generalizing place with
  | nil => exact le_refl place
  | cons c text ih => exact le_trans (le_of_lt (lt_step place c)) (ih (place.step c))

theorem lt_advance (place : Cursor) (c : Char) (text : List Char) : place < place.advance (c :: text) :=
  lt_of_lt_of_le (lt_step place c) (le_advance (place.step c) text)

theorem step_within (place : Cursor) (c : Char) :
    (place.step c).line + (place.step c).column ≤ place.line + place.column + Utf8.width c := by
  have positive := Utf8.width_pos c
  have units : Text.unitsOf c ≤ Utf8.width c := by
    unfold Text.unitsOf Utf8.width
    dsimp only
    repeat' split
    all_goals omega
  unfold step
  split <;> dsimp only <;> omega

/-- A place is no more lines and columns behind another than the text between them has bytes. -/
theorem advance_within (place : Cursor) (text : List Char) :
    (place.advance text).line + (place.advance text).column ≤ place.line + place.column + Utf8.size text := by
  induction text generalizing place with
  | nil => exact Nat.le_add_right _ _
  | cons c text ih =>
    have here := step_within place c
    have later := ih (place.step c)
    rw [Utf8.size_cons]
    change ((place.step c).advance text).line + ((place.step c).advance text).column ≤ _
    omega

/-- The columns of a text that stands on one line. -/
def columns : List Char → Nat
  | [] => 0
  | c :: text => Text.unitsOf c + columns text

/-- Behind text without a line break a place is as many columns further as the text has. -/
theorem advance_of_unbroken (place : Cursor) {text : List Char} (unbroken : '\n' ∉ text) :
    place.advance text = ⟨place.line, place.column + columns text⟩ := by
  induction text generalizing place with
  | nil => rfl
  | cons c text ih =>
    rw [List.mem_cons, not_or] at unbroken
    have further : place.step c = ⟨place.line, place.column + Text.unitsOf c⟩ := if_neg (Ne.symm unbroken.1)
    rw [columns, ← Nat.add_assoc]
    change (place.step c).advance text = _
    rw [ih (place.step c) unbroken.2, further]

end Cursor

theorem flatten_linesOf (text : List Char) : (linesOf text).flatten = text := by
  induction text with
  | nil => rfl
  | cons c text ih =>
    rw [linesOf]
    split
    · rw [List.flatten_cons, ih, List.singleton_append]
    · split <;> rename_i lines <;> rw [lines] at ih <;> simp [← ih]

/-- A character of a text stands on one of its lines, behind a part of that line. -/
theorem linesOf_split (passed : List Char) (c : Char) (rest : List Char) :
    ∃ lines line behind more, linesOf (passed ++ c :: rest) = lines ++ (line ++ c :: behind) :: more
      ∧ passed = lines.flatten ++ line ∧ '\n' ∉ line := by
  induction passed with
  | nil =>
    rw [List.nil_append, linesOf]
    split
    · exact ⟨[], [], [], linesOf rest, rfl, rfl, List.not_mem_nil⟩
    · split
      · exact ⟨[], [], [], [], rfl, rfl, List.not_mem_nil⟩
      · rename_i line more _
        exact ⟨[], [], line, more, rfl, rfl, List.not_mem_nil⟩
  | cons p passed ih =>
    obtain ⟨lines, line, behind, more, split, rfl, unbroken⟩ := ih
    rw [List.cons_append, linesOf, split]
    by_cases isBreak : p = '\n'
    · exact ⟨[p] :: lines, line, behind, more, by rw [if_pos isBreak]; rfl, rfl, unbroken⟩
    · rw [if_neg isBreak]
      cases lines with
      | nil => exact ⟨[], p :: line, behind, more, rfl, rfl, by simp [unbroken, Ne.symm isBreak]⟩
      | cons first lines => exact ⟨(p :: first) :: lines, line, behind, more, rfl, rfl, unbroken⟩

theorem mapLines_append (generated source : Cursor) (first second : List (List Char)) :
    mapLines generated source (first ++ second) = mapLines generated source first
      ++ mapLines (generated.advance first.flatten) (source.advance first.flatten) second := by
  induction first generalizing generated source with
  | nil => rfl
  | cons line first ih =>
    rw [List.cons_append, mapLines, mapLines, ih, List.flatten_cons, Cursor.advance_append, Cursor.advance_append,
      List.cons_append]

theorem bounds_of_mem_mapLines {generated source : Cursor} {lines : List (List Char)} {m : Mapping}
    (member : m ∈ mapLines generated source lines) :
    generated ≤ m.generated ∧ m.generated ≤ generated.advance lines.flatten := by
  induction lines generalizing generated source with
  | nil => exact absurd member List.not_mem_nil
  | cons line lines ih =>
    rcases List.mem_cons.mp member with rfl | later
    · exact ⟨Cursor.le_refl generated, Cursor.le_advance generated _⟩
    · obtain ⟨above, below⟩ := ih later
      rw [List.flatten_cons, Cursor.advance_append]
      exact ⟨Cursor.le_trans (Cursor.le_advance generated line) above, below⟩

theorem pairwise_mapLines (generated source : Cursor) (lines : List (List Char)) :
    (mapLines generated source lines).Pairwise fun a b => a.generated ≤ b.generated := by
  induction lines generalizing generated source with
  | nil => exact List.Pairwise.nil
  | cons line lines ih =>
    refine List.Pairwise.cons (fun m later => ?_) (ih _ _)
    exact Cursor.le_trans (Cursor.le_advance generated line) (bounds_of_mem_mapLines later).1

/-- The mappings of stretches one behind the other: those of the first, and those of the second from the places
behind the first on. -/
theorem mapStretches_append (generated source : Cursor) (first second : List Stretch) :
    mapStretches generated source (first ++ second) = mapStretches generated source first
      ++ mapStretches (generated.advance (first.flatMap Stretch.text)) (source.advance (first.flatMap Stretch.old))
        second := by
  induction first generalizing generated source with
  | nil => rfl
  | cons stretch first ih =>
    rw [List.flatMap_cons, List.flatMap_cons, Cursor.advance_append, Cursor.advance_append]
    cases stretch with
    | copied text => rw [List.cons_append, mapStretches, mapStretches, ih, List.append_assoc]; rfl
    | replaced old new => rw [List.cons_append, mapStretches, mapStretches, ih, List.cons_append]; rfl

theorem le_of_mem_mapStretches {generated source : Cursor} {stretches : List Stretch} {m : Mapping}
    (member : m ∈ mapStretches generated source stretches) : generated ≤ m.generated := by
  induction stretches generalizing generated source with
  | nil => exact absurd member List.not_mem_nil
  | cons stretch stretches ih =>
    cases stretch with
    | copied text =>
      rcases List.mem_append.mp member with here | later
      · exact (bounds_of_mem_mapLines here).1
      · exact Cursor.le_trans (Cursor.le_advance generated text) (ih later)
    | replaced old new =>
      rcases List.mem_cons.mp member with rfl | later
      · exact Cursor.le_refl generated
      · exact Cursor.le_trans (Cursor.le_advance generated new) (ih later)

theorem pairwise_mapStretches (generated source : Cursor) (stretches : List Stretch) :
    (mapStretches generated source stretches).Pairwise fun a b => a.generated ≤ b.generated := by
  induction stretches generalizing generated source with
  | nil => exact List.Pairwise.nil
  | cons stretch stretches ih =>
    cases stretch with
    | copied text =>
      refine List.pairwise_append.mpr ⟨pairwise_mapLines _ _ _, ih _ _, fun a here b later => ?_⟩
      have below := (bounds_of_mem_mapLines here).2
      rw [flatten_linesOf] at below
      exact Cursor.le_trans below (le_of_mem_mapStretches later)
    | replaced old new =>
      refine List.Pairwise.cons (fun m later => ?_) (ih _ _)
      exact Cursor.le_trans (Cursor.le_advance generated new) (le_of_mem_mapStretches later)

/-- The mappings of a copied stretch, cut at one of its characters: the last of those before it is for the start
of its line, as far as the line is copied, and all others are behind the character. -/
theorem mapStretches_copied_split (generated source : Cursor) (passed : List Char) (c : Char) (rest : List Char)
    (stretches : List Stretch) :
    ∃ before line first later, passed = before ++ line ∧ '\n' ∉ line
      ∧ mapStretches generated source (.copied (passed ++ c :: rest) :: stretches) =
        first ++ ⟨generated.advance before, source.advance before⟩ :: later
      ∧ ∀ m ∈ later, generated.advance passed < m.generated := by
  obtain ⟨lines, line, behind, more, split, rfl, unbroken⟩ := linesOf_split passed c rest
  rw [mapStretches, split, mapLines_append, mapLines, List.append_assoc, List.cons_append]
  refine ⟨lines.flatten, line, mapLines generated source lines, _, rfl, unbroken, rfl, fun m member => ?_⟩
  rcases List.mem_append.mp member with here | later
  · have above := (bounds_of_mem_mapLines here).1
    rw [← Cursor.advance_append, ← List.append_assoc, Cursor.advance_append] at above
    exact Cursor.lt_of_lt_of_le (Cursor.lt_advance _ c behind) above
  · have above := le_of_mem_mapStretches later
    rw [Cursor.advance_append] at above
    exact Cursor.lt_of_lt_of_le (Cursor.lt_advance _ c rest) above

end CompanionStyles
