import CompanionStyles.Proofs.Patch.Apart
import CompanionStyles.Proofs.Text.Encoding

/-!
Stretches however a text is cut into them. They stand for edits, one for each stretch that is replaced, in order;
and the edits that were applied determine the patched text.
-/

namespace CompanionStyles

/-- The bytes in front of all edits are kept. -/
theorem Edit.spliced_of_behind {bytes : Bytes} {position next : Nat} {edits : List Edit} (order : position ≤ next)
    (behind : ∀ e ∈ edits, next ≤ e.start) :
    spliced bytes position edits = (bytes.drop position).take (next - position) ++ spliced bytes next edits := by
  have rest : bytes.drop next = (bytes.drop position).drop (next - position) := by
    rw [List.drop_drop, Nat.add_sub_of_le order]
  cases edits with
  | nil => rw [spliced, spliced, rest, List.take_append_drop]
  | cons e edits =>
    have start := behind e List.mem_cons_self
    have length : e.start - position = (next - position) + (e.start - next) := by omega
    rw [spliced, spliced, rest, length, List.take_add]
    simp only [List.append_assoc]

namespace Stretch

/-- The edits of stretches, the first of which starts at `position`. -/
def edits : Nat → List Stretch → List Edit
  | _, [] => []
  | position, .copied text :: stretches => edits (position + Utf8.size text) stretches
  | position, .replaced old new :: stretches =>
    ⟨position, position + Utf8.size old, new⟩ :: edits (position + Utf8.size old) stretches

theorem edits_append (position : Nat) (first second : List Stretch) :
    edits position (first ++ second) =
      edits position first ++ edits (position + Utf8.size (first.flatMap old)) second := by
  induction first generalizing position with
  | nil => simp [edits]
  | cons stretch first ih =>
    cases stretch with
    | copied text => simp [edits, ih, old, Utf8.size_append, Nat.add_assoc]
    | replaced text new => simp [edits, ih, old, Utf8.size_append, Nat.add_assoc]

theorem le_start_of_mem_edits {position : Nat} {stretches : List Stretch} {e : Edit}
    (member : e ∈ edits position stretches) : position ≤ e.start := by
  induction stretches generalizing position with
  | nil => exact absurd member List.not_mem_nil
  | cons stretch stretches ih =>
    cases stretch with
    | copied text => exact Nat.le_trans (Nat.le_add_right _ _) (ih member)
    | replaced text new =>
      rcases List.mem_cons.mp member with rfl | later
      · exact Nat.le_refl _
      · exact Nat.le_trans (Nat.le_add_right _ _) (ih later)

/-- Edits of stretches stand one before the other, if none of them replaces nothing. -/
theorem edits_before {position : Nat} {stretches : List Stretch}
    (solid : ∀ e ∈ edits position stretches, e.start < e.stop) :
    (edits position stretches).Pairwise Edit.Before := by
  induction stretches generalizing position with
  | nil => exact .nil
  | cons stretch stretches ih =>
    cases stretch with
    | copied text => exact ih solid
    | replaced text new =>
      have width : position < position + Utf8.size text := solid _ List.mem_cons_self
      refine List.pairwise_cons.mpr ⟨fun e member => ?_, ih fun e later => solid e (List.mem_cons_of_mem _ later)⟩
      have behind := le_start_of_mem_edits member
      exact ⟨Nat.lt_of_lt_of_le width behind, behind⟩

/-- The text of stretches behind a text is what their edits make of both. -/
theorem encode_flatMap_text (passed : List Char) (stretches : List Stretch) :
    Utf8.encode (stretches.flatMap text) =
      Edit.spliced (Utf8.encode (passed ++ stretches.flatMap old)) (Utf8.size passed)
        (edits (Utf8.size passed) stretches) := by
  induction stretches generalizing passed with
  | nil => simp [edits, Edit.spliced, Utf8.encode, ← Utf8.length_encode]
  | cons stretch stretches ih =>
    cases stretch with
    | copied part =>
      have rest := ih (passed ++ part)
      rw [Utf8.size_append, List.append_assoc] at rest
      simp only [List.flatMap_cons, text, old, edits]
      rw [Edit.spliced_of_behind (Nat.le_add_right _ (Utf8.size part)) fun _ => le_start_of_mem_edits, ← rest,
        Nat.add_sub_cancel_left, Utf8.encode_append, Utf8.encode_append, Utf8.encode_append, ← Utf8.length_encode,
        ← Utf8.length_encode, List.drop_left, List.take_left]
    | replaced part new =>
      have rest := ih (passed ++ part)
      rw [Utf8.size_append, List.append_assoc] at rest
      simp only [List.flatMap_cons, text, old, edits, Edit.spliced]
      rw [← rest, Nat.sub_self, List.take_zero, List.nil_append, Utf8.encode_append]

/-- Stretches of one text with the same edits have the same text, whether what is copied is cut or not. -/
theorem Follow.flatMap_text {order : List Edit} {stretches cut : List Stretch} (follow : Follow 0 order stretches)
    (same : stretches.flatMap old = cut.flatMap old) (edits : order = edits 0 cut) :
    stretches.flatMap text = cut.flatMap text := by
  refine Utf8.encode_inj ?_
  have here := Follow.encode_text [] follow
  have there := encode_flatMap_text [] cut
  rw [here, there, same, edits]
  rfl

end Stretch

end CompanionStyles
