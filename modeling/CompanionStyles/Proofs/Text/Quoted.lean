import CompanionStyles.Text.Quoted

/-!
Literals are read as the text that they were written for, unless a zero stands in front of an octal digit,
with which its escape writes another character.
-/

namespace CompanionStyles.Text

def isOctal (c : Char) : Bool :=
  '0' ≤ c && c ≤ '7'

/-- No octal digit stands right behind a zero. -/
def Quotable (text : List Char) : Prop :=
  ∀ before d after, text = before ++ '\x00' :: d :: after → isOctal d = false

/-- What is said of the characters right behind zeros is said of the first one, if a zero stands in front of it, and
of those in the rest. -/
theorem behind_zero_cons_iff {test : Char → Bool} {c : Char} {text : List Char} :
    (∀ before d after, c :: text = before ++ '\x00' :: d :: after → test d = false) ↔
      (c = '\x00' → ∀ d ∈ text.head?, test d = false)
        ∧ ∀ before d after, text = before ++ '\x00' :: d :: after → test d = false := by
  constructor
  · intro apart
    refine ⟨fun zero d starts => ?_, fun before d after split => apart (c :: before) d after (by rw [split]; rfl)⟩
    obtain ⟨after, rfl⟩ := List.head?_eq_some_iff.mp starts
    exact apart [] d after (by rw [zero]; rfl)
  · rintro ⟨here, later⟩ before d after split
    cases before with
    | nil =>
      obtain ⟨zero, rfl⟩ := List.cons.inj split
      exact here zero d rfl
    | cons b before => exact later before d after (List.cons.inj split).2

theorem behind_zero_of_not_mem {test : Char → Bool} {text : List Char} (outside : '\x00' ∉ text) :
    ∀ before d after, text = before ++ '\x00' :: d :: after → test d = false := by
  rintro before d after rfl
  simp at outside

theorem Quotable.tail {c : Char} {text : List Char} (quotable : Quotable (c :: text)) : Quotable text :=
  (behind_zero_cons_iff.mp quotable).2

theorem ofCodePoint_char (c : Char) (n : Nat) (value : n = c.toNat) : Unit16.ofCodePoint n = .char c := by
  have valid := c.valid
  unfold Unit16.ofCodePoint
  rw [if_neg, value, Char.ofNat_toNat]
  rintro ⟨low, high⟩
  rw [value] at low high
  rcases valid with below | ⟨above, _⟩
  · exact absurd below (Nat.not_lt.mpr low)
  · exact absurd above (by exact Nat.not_lt.mpr (Nat.le_of_lt_succ high))

/-- What is written for a character that is no zero is read as the character. -/
theorem units16_quotedChar {c : Char} (solid : c ≠ '\x00') (fuel : Nat) (rest : List Char) :
    units16 (fuel + 1) (quotedChar c ++ rest) = .char c :: units16 fuel rest := by
  have line : digitsValue 16 "2028".toList = '\u2028'.toNat := by decide
  have paragraph : digitsValue 16 "2029".toList = '\u2029'.toNat := by decide
  have lineUnit := ofCodePoint_char '\u2028' _ line
  have paragraphUnit := ofCodePoint_char '\u2029' _ paragraph
  unfold quotedChar
  repeat' split
  all_goals simp_all [units16, unicodeDigits]

/-- The escape of a zero takes no more than its own digit if no octal digit follows. -/
theorem units16_zero {rest : List Char} (apart : ∀ d ∈ rest.head?, isOctal d = false) (fuel : Nat) :
    units16 (fuel + 1) (quotedChar '\x00' ++ rest) = .char '\x00' :: units16 fuel rest := by
  have digits : octalDigits ('0' :: rest) = ['0'] := by
    unfold octalDigits
    cases rest with
    | nil => rfl
    | cons d rest =>
      have other : (decide ('0' ≤ d) && decide (d ≤ '7')) = false := apart d rfl
      simp [other]
  have zero : Unit16.ofCodePoint (digitsValue 8 ['0']) = .char '\x00' := ofCodePoint_char _ _ (by decide)
  have spelled : quotedChar '\x00' ++ rest = '\\' :: '0' :: rest := rfl
  rw [spelled]
  simp [units16, digits, zero]

theorem head?_quotedChar (c : Char) (rest : List Char) :
    (quotedChar c ++ rest).head? = some c ∨ (quotedChar c ++ rest).head? = some '\\' := by
  unfold quotedChar
  repeat' split
  all_goals simp

/-- No octal digit starts what is written for a text behind a zero. -/
theorem Quotable.head?_eq_false {text : List Char} (quotable : Quotable ('\x00' :: text)) :
    ∀ d ∈ (text.flatMap quotedChar).head?, isOctal d = false := by
  intro d starts
  cases text with
  | nil => exact absurd starts (by simp)
  | cons c text =>
    rw [List.flatMap_cons] at starts
    rcases head?_quotedChar c (text.flatMap quotedChar) with plain | escaped
    · rw [plain] at starts
      obtain rfl := Option.some.inj starts
      exact quotable [] c text rfl
    · rw [escaped] at starts
      obtain rfl := Option.some.inj starts
      decide

theorem length_quotedChar_pos (c : Char) : 0 < (quotedChar c).length := by
  unfold quotedChar
  repeat' split
  all_goals simp

/-- Read between its quotes, a literal has one unit for each character of the text, by induction on the
text. -/
theorem units16_flatMap_quotedChar {text : List Char} (quotable : Quotable text) {fuel : Nat}
    (enough : (text.flatMap quotedChar).length ≤ fuel) :
    units16 fuel (text.flatMap quotedChar) = text.map .char := by
  induction text generalizing fuel with
  | nil =>
    cases fuel with
    | zero => rfl
    | succ fuel => rfl
  | cons c text ih =>
    have positive := length_quotedChar_pos c
    rw [List.flatMap_cons, List.length_append] at enough
    obtain ⟨fuel, rfl⟩ : ∃ n, fuel = n + 1 := ⟨fuel - 1, by omega⟩
    have fits : (text.flatMap quotedChar).length ≤ fuel := by omega
    have later := ih quotable.tail fits
    rw [List.flatMap_cons, List.map_cons, ← later]
    by_cases zero : c = '\x00'
    · rw [zero] at quotable ⊢
      exact units16_zero quotable.head?_eq_false fuel
    · exact units16_quotedChar zero fuel _

theorem joinSurrogates_chars (text : List Char) :
    joinSurrogates (text.map Unit16.char) = text.map Unit16.char := by
  induction text with
  | nil => rfl
  | cons c text ih => rw [List.map_cons, joinSurrogates, ih]; simp

theorem textOfUnits_chars (text : List Char) : textOfUnits (text.map Unit16.char) = text := by
  simp [textOfUnits, List.flatMap_map]

/-- A literal is read as the text that it was written for. -/
theorem unquote_quote {text : List Char} (quotable : Quotable text) : unquote (quote text) = text := by
  have inner : ((quote text).drop 1).dropLast = text.flatMap quotedChar := by
    simp [quote]
  have enough : (text.flatMap quotedChar).length ≤ (quote text).length := by
    simp only [quote, List.length_append, List.length_cons, List.length_nil]
    omega
  unfold unquote literalUnits
  rw [inner, units16_flatMap_quotedChar quotable enough, joinSurrogates_chars, textOfUnits_chars]

end CompanionStyles.Text
