import CompanionStyles.Proofs.Patch.Front

/-!
Edits that restate what is there. They are left out, so a patch of nothing else gives the original; a patch
that gives the original has no edit whose new text can be told from the old one.
-/

namespace CompanionStyles

theorem slice?_eq_some {text part : List Char} {start stop : Nat}
    (found : slice? text start stop = some part) :
    ∃ before after, text = before ++ (part ++ after) ∧ Utf8.size before = start
      ∧ Utf8.size part = stop - start := by
  unfold slice? at found
  split at found
  · split at found
    · rename_i before rest cut
      obtain ⟨⟨part', after⟩, inner, rfl⟩ := Option.map_eq_some_iff.mp found
      obtain ⟨rfl, place⟩ := Utf8.splitAt?_eq_some cut
      obtain ⟨rfl, length⟩ := Utf8.splitAt?_eq_some inner
      exact ⟨before, after, rfl, place, length⟩
    · exact absurd found (by simp)
  · exact absurd found (by simp)

theorem Utf8.eq_nil_of_size {text : List Char} (empty : size text = 0) : text = [] := by
  cases text with
  | nil => rfl
  | cons c text =>
    have positive := size_pos (List.cons_ne_nil c text)
    omega

/-- Two fronts of one text that have the same size are one. -/
theorem Utf8.append_inj {a b rest rest' : List Char} (same : a ++ rest = b ++ rest')
    (sizes : size a = size b) : a = b ∧ rest = rest' := by
  rcases List.append_eq_append_iff.mp same with ⟨more, rfl, rfl⟩ | ⟨more, rfl, rfl⟩
  · rw [size_append] at sizes
    have empty : more = [] := eq_nil_of_size (by omega)
    simp [empty]
  · rw [size_append] at sizes
    have empty : more = [] := eq_nil_of_size (by omega)
    simp [empty]

namespace Patch

theorem foldl_overwrite_of_restating {p : Patch} {edits : List Edit}
    (restates : ∀ e ∈ edits, slice? p.original e.start e.stop = some e.text) :
    edits.foldl overwrite p = p := by
  induction edits with
  | nil => rfl
  | cons e edits ih =>
    have here : p.overwrite e = p := if_pos (restates e List.mem_cons_self)
    rw [List.foldl_cons, here]
    exact ih fun other member => restates other (List.mem_cons_of_mem e member)

theorem mem_sorted {p : Patch} {e : Edit} : e ∈ p.sorted ↔ e ∈ p.edits :=
  List.mem_mergeSort

theorem text?_of (original : List Char) : (Patch.of original).text? = some original := by
  have pass : (Patch.of original).pass = ⟨[.copied original], [], false⟩ := by
    simp [Patch.pass, sorted, Patch.of, Pass.through]
  unfold text?
  rw [pass]
  simp [Patch.of, Stretch.text]

/-- The first edit that is applied: what stands before it is copied, and its text stands in place of the old
one. -/
theorem text?_first {p : Patch} {text : List Char} {e : Edit} {edits : List Edit}
    (done : p.text? = some text) (sorted : p.sorted = e :: edits)
    (fits : e.start ≤ e.stop ∧ e.stop ≤ Utf8.size p.original) :
    ∃ before old rest more, p.original = before ++ (old ++ rest) ∧ Utf8.size before = e.start
      ∧ Utf8.size old = e.stop - e.start ∧ text = p.front ++ (before ++ (e.text ++ more)) := by
  unfold text? at done
  split at done
  · exact absurd done (by simp)
  · rename_i whole
    obtain rfl := Option.some.inj done
    have applied : ¬(e.start < 0 ∨ Utf8.size p.original < e.stop ∨ e.stop < e.start) := by omega
    unfold pass at whole ⊢
    rw [sorted, Pass.through, if_neg applied] at whole ⊢
    cases cut : Utf8.splitAt? p.original (e.start - 0) with
    | none =>
      rw [cut] at whole
      exact absurd whole (by simp)
    | some parts =>
      obtain ⟨before, behind⟩ := parts
      simp only [cut] at whole ⊢
      cases inner : Utf8.splitAt? behind (e.stop - e.start) with
      | none =>
        rw [inner] at whole
        exact absurd whole (by simp)
      | some parts' =>
        obtain ⟨old, rest⟩ := parts'
        obtain ⟨original, place⟩ := Utf8.splitAt?_eq_some cut
        obtain ⟨rfl, length⟩ := Utf8.splitAt?_eq_some inner
        exact ⟨before, old, rest,
          (Pass.through (Utf8.size p.original) e.stop rest edits).stretches.flatMap Stretch.text,
          original, place, length, rfl⟩

end Patch

end CompanionStyles
