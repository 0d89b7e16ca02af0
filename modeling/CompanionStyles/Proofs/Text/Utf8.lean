import CompanionStyles.Patch.Basic

/-!
Cutting texts at byte offsets between characters. The only offsets of a text at which it cannot be cut are
those inside its characters.
-/

namespace CompanionStyles

namespace Utf8

/-- A byte offset lies inside a character of a text. -/
def Splits (text : List Char) (n : Nat) : Prop :=
  ∃ before c after, text = before ++ c :: after ∧ size before < n ∧ n < size before + width c

theorem not_splits_zero (text : List Char) : ¬Splits text 0 := by
  rintro ⟨before, c, after, _, lower, _⟩
  exact Nat.not_lt_zero _ lower

/-- An offset behind a front lies in a character of what follows it. -/
theorem splits_append {front rest : List Char} {n : Nat} (behind : size front ≤ n) :
    Splits (front ++ rest) n ↔ Splits rest (n - size front) := by
  constructor
  · rintro ⟨before, c, after, whole, lower, upper⟩
    rcases List.append_eq_append_iff.mp whole with ⟨more, rfl, rfl⟩ | ⟨more, rfl, rest_eq⟩
    · rw [size_append] at lower upper
      exact ⟨more, c, after, rfl, by omega, by omega⟩
    · cases more with
      | nil =>
        rw [List.append_nil] at behind ⊢
        exact ⟨[], c, after, rest_eq.symm, by rw [size_nil]; omega, by rw [size_nil]; omega⟩
      | cons d more =>
        obtain ⟨rfl, _⟩ := List.cons.inj rest_eq
        rw [size_append, size_cons] at behind
        omega
  · rintro ⟨before, c, after, rfl, lower, upper⟩
    refine ⟨front ++ before, c, after, (List.append_assoc ..).symm, ?_, ?_⟩
    · rw [size_append]
      omega
    · rw [size_append]
      omega

theorem not_splits_size (front rest : List Char) : ¬Splits (front ++ rest) (size front) := by
  rw [splits_append (Nat.le_refl _), Nat.sub_self]
  exact not_splits_zero rest

/-- A text cannot be cut inside a character, nor past its end. -/
theorem splitAt?_eq_none_iff {text : List Char} {n : Nat} :
    splitAt? text n = none ↔ Splits text n ∨ size text < n := by
  induction text generalizing n with
  | nil =>
    cases n with
    | zero => simp [splitAt?, not_splits_zero]
    | succ n => simp [splitAt?]
  | cons c text ih =>
    cases n with
    | zero => simp [splitAt?, not_splits_zero]
    | succ n =>
      rw [splitAt?, size_cons]
      by_cases fits : width c ≤ n + 1
      · have behind : size [c] = width c := by rw [size_cons, size_nil, Nat.add_zero]
        have inside : Splits ([c] ++ text) (n + 1) ↔ Splits text (n + 1 - size [c]) :=
          splits_append (behind ▸ fits)
        rw [behind, List.singleton_append] at inside
        rw [if_pos fits, Option.map_eq_none_iff, ih, inside]
        exact or_congr_right (by omega)
      · rw [if_neg fits]
        refine iff_of_true rfl (Or.inl ⟨[], c, text, rfl, Nat.succ_pos n, ?_⟩)
        rw [size_nil]
        omega

theorem length_encodeChar (c : Char) : (encodeChar c).length = width c := by
  unfold encodeChar width
  dsimp only
  repeat' split
  all_goals rfl

theorem length_encode (text : List Char) : (encode text).length = size text := by
  induction text with
  | nil => rfl
  | cons c text ih =>
    rw [encode, List.flatMap_cons, List.length_append, length_encodeChar, size_cons]
    exact congrArg _ ih

theorem encode_append (front rest : List Char) : encode (front ++ rest) = encode front ++ encode rest :=
  List.flatMap_append

end Utf8

theorem Utf8.splitAt?_append (front rest : List Char) :
    splitAt? (front ++ rest) (size front) = some (front, rest) := by
  induction front with
  | nil => cases rest <;> simp [splitAt?]
  | cons c front ih =>
    have positive := width_pos c
    obtain ⟨n, length⟩ : ∃ n, size (c :: front) = n + 1 := ⟨size (c :: front) - 1, by rw [size_cons]; omega⟩
    have bound : width c ≤ n + 1 := by rw [← length, size_cons]; omega
    have left : n + 1 - width c = size front := by rw [← length, size_cons]; omega
    rw [List.cons_append, length, splitAt?, if_pos bound, left, ih, Option.map_some]

theorem slice?_append (before part after : List Char) :
    slice? (before ++ (part ++ after)) (Utf8.size before) (Utf8.size before + Utf8.size part) =
      some part := by
  have order : Utf8.size before ≤ Utf8.size before + Utf8.size part := by omega
  rw [slice?, if_pos order, Utf8.splitAt?_append]
  simp only [Nat.add_sub_cancel_left, Utf8.splitAt?_append, Option.map_some]

end CompanionStyles
