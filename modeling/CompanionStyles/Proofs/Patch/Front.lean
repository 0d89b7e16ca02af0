import CompanionStyles.Proofs.Text.Utf8

/-!
The front of a patched text: what stands in front of the original, and what no edit reaches.
-/

namespace CompanionStyles

/-- The parts of a cut make up the text, the first up to the place of the cut. -/
theorem Utf8.splitAt?_eq_some {text before after : List Char} {n : Nat}
    (cut : splitAt? text n = some (before, after)) : text = before ++ after ∧ size before = n := by
  induction text generalizing n before with
  | nil =>
    cases n with
    | zero =>
      simp only [splitAt?, Option.some.injEq, Prod.mk.injEq] at cut
      simp [← cut.1, ← cut.2]
    | succ n => exact absurd cut (by simp [splitAt?])
  | cons c text ih =>
    cases n with
    | zero =>
      simp only [splitAt?, Option.some.injEq, Prod.mk.injEq] at cut
      simp [← cut.1, ← cut.2]
    | succ n =>
      rw [splitAt?] at cut
      by_cases fits : width c ≤ n + 1
      · rw [if_pos fits, Option.map_eq_some_iff] at cut
        obtain ⟨⟨before', after'⟩, inner, same⟩ := cut
        obtain ⟨rfl, rfl⟩ := Prod.mk.inj same
        obtain ⟨rfl, length⟩ := ih inner
        refine ⟨rfl, ?_⟩
        rw [size_cons]
        omega
      · rw [if_neg fits] at cut
        exact absurd cut (by simp)

theorem Utf8.prefix_of_splitAt? {front rest before after : List Char} {n : Nat}
    (cut : splitAt? (front ++ rest) n = some (before, after)) (behind : size front ≤ n) :
    front <+: before := by
  obtain ⟨whole, length⟩ := splitAt?_eq_some cut
  rcases List.append_eq_append_iff.mp whole with ⟨more, rfl, _⟩ | ⟨more, rfl, _⟩
  · exact List.prefix_append front more
  · rw [size_append, length] at behind
    have empty : more = [] := by
      by_cases solid : more = []
      · exact solid
      · have positive := size_pos solid
        omega
    simp [empty]

/-- A pass copies what stands before all edits. -/
theorem Pass.prefix_through {size position : Nat} {front rest : List Char} {edits : List Edit}
    (behind : ∀ e ∈ edits, position + Utf8.size front ≤ e.start)
    (whole : (through size position (front ++ rest) edits).split = false) :
    front <+: (through size position (front ++ rest) edits).stretches.flatMap Stretch.text := by
  induction edits with
  | nil => simp [through, Stretch.text]
  | cons e edits ih =>
    have later := behind e List.mem_cons_self
    rw [through] at whole ⊢
    by_cases out : e.start < position ∨ size < e.stop ∨ e.stop < e.start
    · rw [if_pos out] at whole ⊢
      exact ih (fun other member => behind other (List.mem_cons_of_mem e member)) whole
    · rw [if_neg out] at whole ⊢
      cases cut : Utf8.splitAt? (front ++ rest) (e.start - position) with
      | none =>
        rw [cut] at whole
        exact absurd whole (by simp)
      | some parts =>
        obtain ⟨unchanged, behindCut⟩ := parts
        have kept := Utf8.prefix_of_splitAt? cut (by omega)
        simp only [cut] at whole ⊢
        cases inner : Utf8.splitAt? behindCut (e.stop - e.start) with
        | none =>
          rw [inner] at whole
          exact absurd whole (by simp)
        | some parts' =>
          simp only [push, List.flatMap_cons, Stretch.text]
          exact kept.trans (List.prefix_append _ _)

namespace Patch

theorem overwrite_front (p : Patch) (e : Edit) : (p.overwrite e).front = p.front := by
  unfold overwrite
  split <;> rfl

theorem overwrite_original (p : Patch) (e : Edit) : (p.overwrite e).original = p.original := by
  unfold overwrite
  split <;> rfl

/-- An edit is added unless it restates what is there. -/
theorem mem_overwrite_iff {p : Patch} {e other : Edit} :
    other ∈ (p.overwrite e).edits ↔
      other ∈ p.edits ∨ other = e ∧ slice? p.original e.start e.stop ≠ some e.text := by
  unfold overwrite
  split
  · rename_i restates
    exact (or_iff_left fun new => new.2 restates).symm
  · rename_i changes
    rw [List.mem_append, List.mem_singleton]
    exact or_congr_right (and_iff_left changes).symm

theorem foldl_overwrite_front (p : Patch) (edits : List Edit) :
    (edits.foldl overwrite p).front = p.front := by
  induction edits generalizing p with
  | nil => rfl
  | cons e edits ih => rw [List.foldl_cons, ih, overwrite_front]

theorem foldl_overwrite_original (p : Patch) (edits : List Edit) :
    (edits.foldl overwrite p).original = p.original := by
  induction edits generalizing p with
  | nil => rfl
  | cons e edits ih => rw [List.foldl_cons, ih, overwrite_original]

theorem mem_foldl_overwrite_iff {p : Patch} {edits : List Edit} {e : Edit} :
    e ∈ (edits.foldl overwrite p).edits ↔
      e ∈ p.edits ∨ e ∈ edits ∧ slice? p.original e.start e.stop ≠ some e.text := by
  induction edits generalizing p with
  | nil => simp
  | cons first edits ih =>
    rw [List.foldl_cons, ih, overwrite_original, mem_overwrite_iff, or_assoc, List.mem_cons, or_and_right]
    refine or_congr_right (or_congr_left ?_)
    constructor
    · rintro ⟨rfl, changes⟩
      exact ⟨rfl, changes⟩
    · rintro ⟨rfl, changes⟩
      exact ⟨rfl, changes⟩

/-- A patched text starts with what was put in front. -/
theorem front_prefix {p : Patch} {name : String} {output : PatchOutput}
    (done : p.finish? name = some output) : p.front <+: output.code.toList := by
  obtain ⟨text, patched, rfl⟩ := Option.map_eq_some_iff.mp done
  unfold text? at patched
  split at patched
  · exact absurd patched (by simp)
  · obtain rfl := Option.some.inj patched
    simp

/-- With nothing put in front, a patched text starts like the original up to the first edit. -/
theorem original_prefix {p : Patch} {name : String} {output : PatchOutput} {front rest : List Char}
    (done : p.finish? name = some output) (empty : p.front = []) (original : p.original = front ++ rest)
    (behind : ∀ e ∈ p.edits, Utf8.size front ≤ e.start) : front <+: output.code.toList := by
  obtain ⟨text, patched, rfl⟩ := Option.map_eq_some_iff.mp done
  unfold text? at patched
  split at patched
  · exact absurd patched (by simp)
  · rename_i whole
    obtain rfl := Option.some.inj patched
    have sorted : ∀ e ∈ p.sorted, 0 + Utf8.size front ≤ e.start := by
      intro e member
      have bound := behind e (List.mem_mergeSort.mp member)
      omega
    have kept : front <+: p.pass.stretches.flatMap Stretch.text := by
      unfold pass at whole ⊢
      rw [original] at whole ⊢
      exact Pass.prefix_through sorted (by simpa using whole)
    simpa [empty] using kept

end Patch

end CompanionStyles
