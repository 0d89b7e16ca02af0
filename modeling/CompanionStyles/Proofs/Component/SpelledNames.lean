import CompanionStyles.Component.Leaf
import CompanionStyles.Proofs.Text.Quoted
import CompanionStyles.Text.Words
import Mathlib.Data.List.TakeWhile

/-!
Names as they are spelled. A name holds no blanks, whether its characters stand there or are escaped.
-/

namespace CompanionStyles.Component.Leaf

def blankCodes : List Nat :=
  [0x09, 0x0A, 0x0B, 0x0C, 0x0D, 0x20, 0x85, 0xA0, 0x1680, 0x2000, 0x2001, 0x2002, 0x2003, 0x2004, 0x2005,
    0x2006, 0x2007, 0x2008, 0x2009, 0x200A, 0x2028, 0x2029, 0x202F, 0x205F, 0x3000]

theorem toNat_mem_blankCodes {c : Char} (blank : Text.isBlank c = true) : c.toNat ∈ blankCodes := by
  simp only [Text.isBlank, Bool.or_eq_true, Bool.and_eq_true, decide_eq_true_eq, beq_iff_eq] at blank
  simp only [blankCodes, List.mem_cons, List.not_mem_nil, or_false]
  omega

/-- Codes that stand in no name: those of blanks, zero, quotes, the semicolon and the backslash. -/
def outsideCodes : List Nat :=
  blankCodes ++ [0x00, 0x22, 0x27, 0x3B, 0x5C]

/-- Whether a character may start a name, or go on with it. -/
def fitsName (first : Bool) (c : Char) : Bool :=
  if first then isNameStart c else isNamePart c

-- One check for all of the codes, since the tables of name characters are long.
theorem outsideCodes_all :
    outsideCodes.all (fun n => !fitsName true (Char.ofNat n) && !fitsName false (Char.ofNat n)) = true := by
  decide +kernel

theorem not_fitsName {code : Nat} (outside : code ∈ outsideCodes) (first : Bool) :
    fitsName first (Char.ofNat code) = false := by
  have none := List.all_eq_true.mp outsideCodes_all code outside
  rw [Bool.and_eq_true, Bool.not_eq_true', Bool.not_eq_true'] at none
  cases first with
  | false => exact none.2
  | true => exact none.1

theorem not_fitsName_zero (first : Bool) : fitsName first (Char.ofNat 0) = false :=
  not_fitsName (by decide) first

theorem not_fitsName_backslash (first : Bool) : fitsName first '\\' = false :=
  not_fitsName (by decide) first

theorem not_fitsName_quote {quote : Char} (quoted : quote = '"' ∨ quote = '\'') (first : Bool) :
    fitsName first quote = false := by
  rcases quoted with rfl | rfl
  · exact not_fitsName (by decide) first
  · exact not_fitsName (by decide) first

theorem isBlank_of_fitsName {first : Bool} {c : Char} (fits : fitsName first c = true) :
    Text.isBlank c = false := by
  cases blank : Text.isBlank c with
  | false => rfl
  | true =>
    have none := not_fitsName (List.mem_append_left _ (toNat_mem_blankCodes blank)) first
    rw [Char.ofNat_toNat, fits] at none
    exact absurd none (by simp)

/-- A code point that may stand in a name is no half of a surrogate pair. -/
theorem ofCodePoint_of_fitsName {first : Bool} {code : Nat}
    (fits : fitsName first (Char.ofNat code) = true) :
    Text.Unit16.ofCodePoint code = .char (Char.ofNat code) := by
  unfold Text.Unit16.ofCodePoint
  split
  · rename_i half
    have none : Char.ofNat code = Char.ofNat 0 := by
      have invalid : ¬code.isValidChar := by
        unfold Nat.isValidChar
        omega
      rw [Char.ofNat, dif_neg invalid]
      rfl
    rw [none, not_fitsName_zero] at fits
    exact absurd fits (by simp)
  · rfl

/-- What stands in front of a character is what a scan up to the character gives. -/
theorem takeWhile_ne {quote : Char} {body : List Char} (outside : quote ∉ body) (rest : List Char) :
    (body ++ quote :: rest).takeWhile (· ≠ quote) = body := by
  have passes : ∀ c ∈ body, decide (c ≠ quote) = true :=
    fun c member => decide_eq_true fun same => outside (same ▸ member)
  rw [List.takeWhile_append_of_pos passes]
  simp

theorem unicodeDigits_braced {digits : List Char} (outside : '\x7d' ∉ digits) (rest : List Char) :
    Text.unicodeDigits ('\x7b' :: (digits ++ '\x7d' :: rest)) = (digits, rest) := by
  have braces : ∀ text, Text.unicodeDigits ('\x7b' :: text) =
      (text.takeWhile (· ≠ '\x7d'), text.drop ((text.takeWhile (· ≠ '\x7d')).length + 1)) :=
    fun _ => rfl
  rw [braces, takeWhile_ne outside, List.drop_length_add_append]
  rfl

/-- The digits that a brace closes are digits in front of that brace. -/
theorem exists_closing_brace {rest : List Char}
    (closed : (rest.drop (rest.takeWhile isHexDigit).length).head? = some '\x7d') :
    ∃ tail, rest = rest.takeWhile isHexDigit ++ '\x7d' :: tail ∧ '\x7d' ∉ rest.takeWhile isHexDigit := by
  have front : rest.take (rest.takeWhile isHexDigit).length = rest.takeWhile isHexDigit :=
    (List.prefix_iff_eq_take.mp (List.takeWhile_prefix isHexDigit)).symm
  obtain ⟨tail, behind⟩ := List.head?_eq_some_iff.mp closed
  refine ⟨tail, ?_, ?_⟩
  · calc rest = rest.take (rest.takeWhile isHexDigit).length ++ rest.drop (rest.takeWhile isHexDigit).length :=
        (List.take_append_drop _ rest).symm
      _ = rest.takeWhile isHexDigit ++ '\x7d' :: tail := by rw [front, behind]
  · intro member
    have isHex := List.mem_takeWhile_imp member
    exact absurd isHex (by decide)

/-- What an escape of a name writes is read back, with what follows it. -/
theorem unicodeDigits_of_unicodeEscape? {rest : List Char} {code length : Nat}
    (escape : unicodeEscape? rest = some (code, length)) (more : Nat) :
    ∃ digits, Text.unicodeDigits (rest.take (length + more)) = (digits, (rest.drop length).take more)
      ∧ Text.digitsValue 16 digits = code := by
  unfold unicodeEscape? at escape
  split at escape
  · rename_i rest
    dsimp only at escape
    split at escape
    · rename_i closed
      obtain ⟨rfl, rfl⟩ := Prod.mk.inj (Option.some.inj escape)
      simp only [Bool.and_eq_true, decide_eq_true_eq] at closed
      obtain ⟨tail, whole, outside⟩ := exists_closing_brace closed.2
      generalize rest.takeWhile isHexDigit = digits at whole outside ⊢
      have front : ('\x7b' :: rest).take (digits.length + 2 + more)
          = '\x7b' :: (digits ++ '\x7d' :: tail.take more) := by
        have count : digits.length + 2 + more = digits.length + (more + 1) + 1 := by omega
        rw [whole, count, List.take_succ_cons, List.take_length_add_append, List.take_succ_cons]
      have back : ('\x7b' :: rest).drop (digits.length + 2) = tail := by
        have count : digits.length + 2 = digits.length + 1 + 1 := rfl
        rw [whole, count, List.drop_succ_cons, List.drop_length_add_append, List.drop_succ_cons, List.drop_zero]
      exact ⟨digits, by rw [front, back, unicodeDigits_braced outside], rfl⟩
    · exact absurd escape (by simp)
  · rename_i a b c d rest _
    split at escape
    · rename_i hex
      obtain ⟨rfl, rfl⟩ := Prod.mk.inj (Option.some.inj escape)
      refine ⟨[a, b, c, d], ?_, rfl⟩
      have plain : a ≠ '\x7b' := by
        rintro rfl
        exact absurd hex (by simp [isHexDigit])
      rw [Nat.add_comm]
      simp [Text.unicodeDigits, plain]
    · exact absurd escape (by simp)
  · exact absurd escape (by simp)

theorem units16_nil (fuel : Nat) : Text.units16 fuel [] = [] := by
  cases fuel with
  | zero => rfl
  | succ fuel => rfl

theorem units16_of_ne_backslash {c : Char} (plain : c ≠ '\\') (fuel : Nat) (rest : List Char) :
    Text.units16 (fuel + 1) (c :: rest) = .char c :: Text.units16 fuel rest := by
  simp [Text.units16, plain]

theorem namePartsLength_escape (first : Bool) (fuel : Nat) (rest : List Char) :
    namePartsLength first (fuel + 1) ('\\' :: 'u' :: rest) =
      match unicodeEscape? rest with
      | some (code, length) =>
        if fitsName first (Char.ofNat code) then length + 2 + namePartsLength false fuel (rest.drop length)
        else 0
      | none => 0 :=
  rfl

theorem namePartsLength_plain {first : Bool} {c : Char} (plain : c ≠ '\\') (fuel : Nat) (rest : List Char) :
    namePartsLength first (fuel + 1) (c :: rest) =
      if fitsName first c then namePartsLength false fuel rest + 1 else 0 := by
  simp [namePartsLength, plain, fitsName]

theorem namePartsLength_backslash {first : Bool} {rest : List Char} (other : rest.head? ≠ some 'u')
    (fuel : Nat) : namePartsLength first (fuel + 1) ('\\' :: rest) = 0 := by
  have none := not_fitsName_backslash first
  unfold fitsName at none
  cases rest with
  | nil => simp [namePartsLength, none]
  | cons d rest =>
    have other : d ≠ 'u' := by simpa using other
    simp [namePartsLength, other, none]

/-- The text writes characters that are no blanks, at least one of them if it is not empty. -/
def Spells (text : List Char) : Prop :=
  ∀ enough, text.length ≤ enough → ∃ chars : List Char, (∀ c ∈ chars, Text.isBlank c = false)
    ∧ (text ≠ [] → chars ≠ []) ∧ Text.units16 enough text = chars.map .char

theorem spells_nil : Spells [] :=
  fun enough _ => ⟨[], by simp, by simp, units16_nil enough⟩

theorem Spells.cons {first : Bool} {c : Char} {text : List Char} (spells : Spells text) (plain : c ≠ '\\')
    (fits : fitsName first c = true) : Spells (c :: text) := by
  intro enough bound
  rw [List.length_cons] at bound
  obtain ⟨enough, rfl⟩ : ∃ n, enough = n + 1 := ⟨enough - 1, by omega⟩
  obtain ⟨chars, solid, _, read⟩ := spells enough (Nat.le_of_succ_le_succ bound)
  refine ⟨c :: chars, ?_, by simp, ?_⟩
  · intro d member
    rcases List.mem_cons.mp member with rfl | member
    · exact isBlank_of_fitsName fits
    · exact solid d member
  · rw [units16_of_ne_backslash plain, read, List.map_cons]

theorem units16_escape (enough : Nat) (rest : List Char) :
    Text.units16 (enough + 1) ('\\' :: 'u' :: rest) =
      .ofCodePoint (Text.digitsValue 16 (Text.unicodeDigits rest).1)
        :: Text.units16 enough (Text.unicodeDigits rest).2 :=
  rfl

theorem Spells.escape {first : Bool} {rest : List Char} {code length more : Nat}
    (spells : Spells ((rest.drop length).take more)) (escape : unicodeEscape? rest = some (code, length))
    (fits : fitsName first (Char.ofNat code) = true) :
    Spells ('\\' :: 'u' :: rest.take (length + more)) := by
  intro enough bound
  simp only [List.length_cons] at bound
  obtain ⟨enough, rfl⟩ : ∃ n, enough = n + 1 := ⟨enough - 1, by omega⟩
  have shorter : ((rest.drop length).take more).length ≤ enough := by
    simp only [List.length_take, List.length_drop] at bound ⊢
    omega
  obtain ⟨digits, behind, value⟩ := unicodeDigits_of_unicodeEscape? escape more
  obtain ⟨chars, solid, _, read⟩ := spells enough shorter
  refine ⟨Char.ofNat code :: chars, ?_, by simp, ?_⟩
  · intro d member
    rcases List.mem_cons.mp member with rfl | member
    · exact isBlank_of_fitsName fits
    · exact solid d member
  · have unit := ofCodePoint_of_fitsName fits
    rw [units16_escape, behind]
    dsimp only
    rw [value, unit, read, List.map_cons]

/-- The parts of a name spell it, by induction on the parts. -/
theorem spells_namePartsLength (first : Bool) (fuel : Nat) (text : List Char) :
    Spells (text.take (namePartsLength first fuel text)) := by
  induction fuel generalizing first text with
  | zero => exact spells_nil
  | succ fuel ih =>
    cases text with
    | nil => rw [List.take_nil]; exact spells_nil
    | cons c rest =>
      by_cases plain : c = '\\'
      · subst plain
        by_cases escaped : rest.head? = some 'u'
        · obtain ⟨rest, rfl⟩ := List.head?_eq_some_iff.mp escaped
          rw [namePartsLength_escape]
          split
          · rename_i code length escape
            split
            · rename_i fits
              have count : length + 2 + namePartsLength false fuel (rest.drop length)
                  = length + namePartsLength false fuel (rest.drop length) + 1 + 1 := by omega
              rw [count, List.take_succ_cons, List.take_succ_cons]
              exact (ih false (rest.drop length)).escape escape fits
            · exact spells_nil
          · exact spells_nil
        · rw [namePartsLength_backslash escaped]
          exact spells_nil
      · rw [namePartsLength_plain plain]
        split
        · rename_i fits
          rw [List.take_succ_cons]
          exact (ih false rest).cons plain fits
        · exact spells_nil

theorem units16_of_not_mem {text : List Char} (plain : '\\' ∉ text) :
    Text.units16 text.length text = text.map .char := by
  induction text with
  | nil => rfl
  | cons c text ih =>
    have here : c ≠ '\\' := fun same => plain (same ▸ List.mem_cons_self)
    have later := ih fun member => plain (List.mem_cons_of_mem c member)
    rw [List.length_cons, units16_of_ne_backslash here, later, List.map_cons]

/-- A name that is spelled is read as its characters. -/
theorem Spells.nameOf {text : List Char} (spells : Spells text) (solid : text ≠ []) :
    Text.nameOf text ≠ [] ∧ ∀ c ∈ Text.nameOf text, Text.isBlank c = false := by
  obtain ⟨chars, whole, nonempty, read⟩ := spells text.length (Nat.le_refl _)
  have same : Text.nameOf text = chars := by
    unfold Text.nameOf
    split
    · rw [read, Text.textOfUnits_chars]
    · rename_i plain
      have same := units16_of_not_mem fun member => plain (List.contains_iff_mem.mpr member)
      rw [← Text.textOfUnits_chars chars, ← read, same, Text.textOfUnits_chars]
  rw [same]
  exact ⟨nonempty solid, whole⟩

end CompanionStyles.Component.Leaf
