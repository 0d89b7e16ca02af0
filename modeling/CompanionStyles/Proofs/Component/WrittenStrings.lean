import CompanionStyles.Component.Rewrite
import CompanionStyles.Proofs.Component.ClassSites
import CompanionStyles.Proofs.Text.Quoted

/-!
Strings that are written into strict code. Whether a literal is well formed and what its value is follows from the
grammar of strings and escapes, by which an escape may depend on the character behind it. Literals are read as the
text that they were written for, unless a decimal digit stands behind a zero: its escape is then not one of strict
code.
-/

namespace CompanionStyles.Component

open Leaf (isDigit isHexDigit isLineBreak)

/-- The UTF-16 units of a code point. -/
def unitsOfCode (n : Nat) : List Nat :=
  if n < 0x10000 then [n] else [0xD800 + (n - 0x10000) / 0x400, 0xDC00 + (n - 0x10000) % 0x400]

def utf16 (text : List Char) : List Nat :=
  text.flatMap fun c => unitsOfCode c.toNat

/-- What a single character behind a backslash stands for, if it has a meaning there. -/
def singleEscape? (c : Char) : Option Nat :=
  if c = '\'' || c = '"' || c = '\\' then some c.toNat
  else if c = 'b' then some 0x08
  else if c = 't' then some 0x09
  else if c = 'n' then some 0x0A
  else if c = 'v' then some 0x0B
  else if c = 'f' then some 0x0C
  else if c = 'r' then some 0x0D
  else none

/-- An escape of strict code, without its backslash: the text that starts with it, its units, and the text behind
it. The end of a line stands for nothing; digits, `x` and `u` do not stand for themselves. -/
inductive StrictEscape : List Char → List Nat → List Char → Prop
  | single {c : Char} {n : Nat} (means : singleEscape? c = some n) (rest : List Char) :
      StrictEscape (c :: rest) [n] rest
  | plain {c : Char} (single : singleEscape? c = none) (line : isLineBreak c = false)
      (other : (isDigit c || c = 'x' || c = 'u') = false) (rest : List Char) :
      StrictEscape (c :: rest) (unitsOfCode c.toNat) rest
  | zero {rest : List Char} (alone : ∀ d ∈ rest.head?, isDigit d = false) : StrictEscape ('0' :: rest) [0] rest
  | byte {a b : Char} (hex : [a, b].all isHexDigit) (rest : List Char) :
      StrictEscape ('x' :: a :: b :: rest) [Text.digitsValue 16 [a, b]] rest
  | unit {a b c d : Char} (hex : [a, b, c, d].all isHexDigit) (rest : List Char) :
      StrictEscape ('u' :: a :: b :: c :: d :: rest) [Text.digitsValue 16 [a, b, c, d]] rest
  | code {braced digits rest : List Char} (closed : braced = digits ++ '\x7d' :: rest) (solid : digits ≠ [])
      (hex : digits.all isHexDigit) (small : Text.digitsValue 16 digits ≤ 0x10FFFF) :
      StrictEscape ('u' :: '\x7b' :: braced) (unitsOfCode (Text.digitsValue 16 digits)) rest
  | line {c : Char} {rest : List Char} (line : isLineBreak c) (alone : c = '\r' → rest.head? ≠ some '\n') :
      StrictEscape (c :: rest) [] rest
  | lines (rest : List Char) : StrictEscape ('\r' :: '\n' :: rest) [] rest

/-- A string behind its opening quote: the text that starts with it, its units, and the text behind it. -/
inductive StrictBody : List Char → List Nat → List Char → Prop
  | close (rest : List Char) : StrictBody ('"' :: rest) [] rest
  | char {c : Char} {text rest : List Char} {units : List Nat} (plain : c ≠ '"' ∧ c ≠ '\\' ∧ c ≠ '\n' ∧ c ≠ '\r')
      (later : StrictBody text units rest) : StrictBody (c :: text) (unitsOfCode c.toNat ++ units) rest
  | escape {text behind rest : List Char} {value units : List Nat} (read : StrictEscape text value behind)
      (later : StrictBody behind units rest) : StrictBody ('\\' :: text) (value ++ units) rest

/-- In front of a text stands a double-quoted string of strict code, with the value `units` and `rest` behind it. -/
def StrictString (text : List Char) (units : List Nat) (rest : List Char) : Prop :=
  ∃ body, text = '"' :: body ∧ StrictBody body units rest

/-- No decimal digit stands right behind a zero. -/
def ZerosApart (text : List Char) : Prop :=
  ∀ before d after, text = before ++ '\x00' :: d :: after → isDigit d = false

theorem zerosApart_of_not_mem {text : List Char} (solid : '\x00' ∉ text) : ZerosApart text :=
  Text.behind_zero_of_not_mem solid

theorem strictBody_char_iff {c : Char} {text rest : List Char} {units : List Nat}
    (plain : c ≠ '"' ∧ c ≠ '\\' ∧ c ≠ '\n' ∧ c ≠ '\r') :
    StrictBody (c :: text) units rest ↔ ∃ later, units = unitsOfCode c.toNat ++ later ∧ StrictBody text later rest := by
  constructor
  · intro body
    cases body with
    | close => exact absurd rfl plain.1
    | char _ later => exact ⟨_, rfl, later⟩
    | escape => exact absurd rfl plain.2.1
  · rintro ⟨later, rfl, body⟩
    exact .char plain body

theorem strictBody_escape_iff {text rest : List Char} {units : List Nat} :
    StrictBody ('\\' :: text) units rest ↔
      ∃ value behind later, StrictEscape text value behind ∧ units = value ++ later ∧ StrictBody behind later rest := by
  constructor
  · intro body
    cases body with
    | char plain => exact absurd rfl plain.2.1
    | escape read later => exact ⟨_, _, _, read, rfl, later⟩
  · rintro ⟨value, behind, later, read, rfl, body⟩
    exact .escape read body

/-- An escape that can be read in one way only is read in that way. -/
theorem strictBody_only_escape_iff {text behind rest : List Char} {value units : List Nat}
    (only : ∀ value' behind', StrictEscape text value' behind' ↔ value' = value ∧ behind' = behind) :
    StrictBody ('\\' :: text) units rest ↔ ∃ later, units = value ++ later ∧ StrictBody behind later rest := by
  rw [strictBody_escape_iff]
  constructor
  · rintro ⟨value', behind', later, read, rfl, body⟩
    obtain ⟨rfl, rfl⟩ := (only value' behind').mp read
    exact ⟨later, rfl, body⟩
  · rintro ⟨later, rfl, body⟩
    exact ⟨value, behind, later, (only value behind).mpr ⟨rfl, rfl⟩, rfl, body⟩

theorem strictEscape_single_iff {c : Char} {n : Nat} (means : singleEscape? c = some n) {text behind : List Char}
    {value : List Nat} : StrictEscape (c :: text) value behind ↔ value = [n] ∧ behind = text := by
  constructor
  · intro read
    cases read with
    | single means' => exact ⟨by rw [Option.some.inj (means'.symm.trans means)], rfl⟩
    | plain single => exact absurd (single.symm.trans means) (by simp)
    | line line =>
      simp only [isLineBreak, Bool.or_eq_true, beq_iff_eq] at line
      rcases line with ((rfl | rfl) | rfl) | rfl <;> exact absurd means (by simp [singleEscape?])
    | zero | byte | unit | code | lines => exact absurd means (by simp [singleEscape?])
  · rintro ⟨rfl, rfl⟩
    exact .single means behind

theorem strictEscape_zero_iff {text behind : List Char} {value : List Nat} :
    StrictEscape ('0' :: text) value behind ↔
      (∀ d ∈ text.head?, isDigit d = false) ∧ value = [0] ∧ behind = text := by
  constructor
  · intro read
    cases read with
    | single means => exact absurd means (by simp [singleEscape?])
    | plain _ _ other => exact absurd other (by decide)
    | zero alone => exact ⟨alone, rfl, rfl⟩
    | line line => exact absurd line (by decide)
  · rintro ⟨alone, rfl, rfl⟩
    exact .zero alone

theorem strictEscape_unit_iff {a b c d : Char} (hex : [a, b, c, d].all isHexDigit) {text behind : List Char}
    {value : List Nat} : StrictEscape ('u' :: a :: b :: c :: d :: text) value behind ↔
      value = [Text.digitsValue 16 [a, b, c, d]] ∧ behind = text := by
  constructor
  · intro read
    cases read with
    | single means => exact absurd means (by simp [singleEscape?])
    | plain _ _ other => exact absurd other (by decide)
    | unit => exact ⟨rfl, rfl⟩
    | code => exact absurd (List.all_eq_true.mp hex '\x7b' List.mem_cons_self) (by decide)
    | line line => exact absurd line (by decide)
  · rintro ⟨rfl, rfl⟩
    exact .unit hex behind

/-- A character that is no zero is written by an escape for its unit, or as it is. -/
theorem quotedChar_cases {c : Char} (solid : c ≠ '\x00') :
    (∃ mark, singleEscape? mark = some c.toNat ∧ unitsOfCode c.toNat = [c.toNat] ∧ Text.quotedChar c = ['\\', mark])
      ∨ (∃ a b d e, [a, b, d, e].all isHexDigit ∧ unitsOfCode c.toNat = [Text.digitsValue 16 [a, b, d, e]]
        ∧ Text.quotedChar c = ['\\', 'u', a, b, d, e])
      ∨ (c ≠ '"' ∧ c ≠ '\\' ∧ c ≠ '\n' ∧ c ≠ '\r') ∧ Text.quotedChar c = [c] := by
  unfold Text.quotedChar
  by_cases quotation : c = '"'
  · exact .inl ⟨'"', by rw [quotation]; decide⟩
  by_cases backslash : c = '\\'
  · exact .inl ⟨'\\', by rw [backslash]; decide⟩
  by_cases line : c = '\n'
  · exact .inl ⟨'n', by rw [line]; decide⟩
  by_cases turn : c = '\r'
  · exact .inl ⟨'r', by rw [turn]; decide⟩
  by_cases tab : c = '\t'
  · exact .inl ⟨'t', by rw [tab]; decide⟩
  by_cases separator : c = '\u2028'
  · exact .inr (.inl ⟨'2', '0', '2', '8', by rw [separator]; decide⟩)
  by_cases paragraph : c = '\u2029'
  · exact .inr (.inl ⟨'2', '0', '2', '9', by rw [paragraph]; decide⟩)
  exact .inr (.inr ⟨⟨quotation, backslash, line, turn⟩, by simp [*]⟩)

/-- What is written for a character that is no zero is read as the character. -/
theorem strictBody_quotedChar_iff {c : Char} (solid : c ≠ '\x00') {text rest : List Char} {units : List Nat} :
    StrictBody (Text.quotedChar c ++ text) units rest ↔
      ∃ later, units = unitsOfCode c.toNat ++ later ∧ StrictBody text later rest := by
  rcases quotedChar_cases solid with ⟨mark, means, one, written⟩ | ⟨a, b, d, e, hex, one, written⟩ | ⟨plain, written⟩
  · rw [written, one]
    exact strictBody_only_escape_iff fun _ _ => strictEscape_single_iff means
  · rw [written, one]
    exact strictBody_only_escape_iff fun _ _ => strictEscape_unit_iff hex
  · rw [written]
    exact strictBody_char_iff plain

/-- The escape of a zero is one of strict code if no decimal digit follows. -/
theorem strictBody_zero_iff {text rest : List Char} {units : List Nat} :
    StrictBody (Text.quotedChar '\x00' ++ text) units rest ↔
      (∀ d ∈ text.head?, isDigit d = false) ∧ ∃ later, units = 0 :: later ∧ StrictBody text later rest := by
  have written : Text.quotedChar '\x00' ++ text = '\\' :: '0' :: text := rfl
  rw [written, strictBody_escape_iff]
  constructor
  · rintro ⟨value, behind, later, read, rfl, body⟩
    obtain ⟨alone, rfl, rfl⟩ := strictEscape_zero_iff.mp read
    exact ⟨alone, later, rfl, body⟩
  · rintro ⟨alone, later, rfl, body⟩
    exact ⟨[0], text, later, .zero alone, rfl, body⟩

theorem utf16_cons (c : Char) (text : List Char) : utf16 (c :: text) = unitsOfCode c.toNat ++ utf16 text :=
  List.flatMap_cons

/-- A digit stands in front of what is written for a text if and only if it starts the text. -/
theorem digit_written_iff (text rest : List Char) :
    (∀ d ∈ (text.flatMap Text.quotedChar ++ '"' :: rest).head?, isDigit d = false)
      ↔ ∀ d ∈ text.head?, isDigit d = false := by
  cases text with
  | nil => simp [isDigit]
  | cons c text =>
    rw [List.flatMap_cons, List.append_assoc, List.head?_cons]
    generalize text.flatMap Text.quotedChar ++ '"' :: rest = later
    unfold Text.quotedChar
    repeat' split
    all_goals simp_all [isDigit]

/-- A string is read back behind its opening quote, by induction on the text that it was written for. -/
theorem strictBody_flatMap_quotedChar_iff {text rest rest' : List Char} {units : List Nat} :
    StrictBody (text.flatMap Text.quotedChar ++ '"' :: rest) units rest' ↔
      ZerosApart text ∧ units = utf16 text ∧ rest' = rest := by
  induction text generalizing units with
  | nil =>
    have apart : ZerosApart [] := zerosApart_of_not_mem List.not_mem_nil
    rw [List.flatMap_nil, List.nil_append]
    constructor
    · intro body
      cases body with
      | close => exact ⟨apart, rfl, rfl⟩
      | char plain => exact absurd rfl plain.1
    · rintro ⟨_, rfl, rfl⟩
      exact .close rest'
  | cons c text ih =>
    rw [List.flatMap_cons, List.append_assoc, ZerosApart, Text.behind_zero_cons_iff, utf16_cons]
    by_cases zero : c = '\x00'
    · rw [zero, strictBody_zero_iff, digit_written_iff]
      constructor
      · rintro ⟨alone, later, rfl, body⟩
        obtain ⟨apart, rfl, rfl⟩ := ih.mp body
        exact ⟨⟨fun _ => alone, apart⟩, rfl, rfl⟩
      · rintro ⟨⟨alone, apart⟩, rfl, rfl⟩
        exact ⟨alone rfl, utf16 text, rfl, ih.mpr ⟨apart, rfl, rfl⟩⟩
    · rw [strictBody_quotedChar_iff zero]
      constructor
      · rintro ⟨later, rfl, body⟩
        obtain ⟨apart, rfl, rfl⟩ := ih.mp body
        exact ⟨⟨fun same => absurd same zero, apart⟩, rfl, rfl⟩
      · rintro ⟨⟨_, apart⟩, rfl, rfl⟩
        exact ⟨utf16 text, rfl, ih.mpr ⟨apart, rfl, rfl⟩⟩

/-- What is written for a text is one string of strict code, whatever stands behind it, and its value is the text,
unless a digit stands behind a zero. Then it is no string at all. -/
theorem strictString_quote_iff {text rest rest' : List Char} {units : List Nat} :
    StrictString (Text.quote text ++ rest) units rest' ↔ ZerosApart text ∧ units = utf16 text ∧ rest' = rest := by
  have written : Text.quote text ++ rest = '"' :: (text.flatMap Text.quotedChar ++ '"' :: rest) := by
    simp [Text.quote]
  rw [← strictBody_flatMap_quotedChar_iff, written]
  constructor
  · rintro ⟨body, same, read⟩
    rw [(List.cons.inj same).2]
    exact read
  · exact fun read => ⟨_, rfl, read⟩

/-- The text that a class site is to be read as: a class list renamed, or what a name is called. -/
def Site.renamed (m : Manifest) (site : Site) : List Char :=
  match site.form with
  | .markup | .string => m.rename site.value
  | .key | .shorthand => m.lookup site.value

/-- What stands behind the string that is written for a site: a shorthand becomes a key with its name as value. -/
def Site.tail (site : Site) : List Char :=
  match site.form with
  | .shorthand => ": ".toList ++ site.value
  | _ => []

theorem Site.eq_quote_of_replacement? {m : Manifest} {site : Site} {text : List Char} (code : site.form ≠ .markup)
    (replaced : site.replacement? m = some text) : text = Text.quote (site.renamed m) ++ site.tail := by
  revert replaced
  unfold replacement? renamed tail
  cases form : site.form with
  | markup => exact absurd form code
  | string =>
    intro replaced
    dsimp only at replaced
    split at replaced
    · exact absurd replaced (by simp)
    · rw [← Option.some.inj replaced, List.append_nil]
  | key =>
    intro replaced
    rw [← Option.some.inj replaced, List.append_nil]
  | shorthand =>
    intro replaced
    exact (Option.some.inj replaced).symm

/-- What is written for a text is one string of strict code, whatever stands behind it, and has the text as its
value; but if a decimal digit stands right behind a zero in the text, it is no string of strict code. So it is for
the string of an import, and for every string that is written for a class site in code. -/
theorem strings_written (value id rest : List Char) (m : Manifest) (site : Site) :
    (∀ units rest', StrictString (Text.quote value ++ rest) units rest' ↔
      ZerosApart value ∧ units = utf16 value ∧ rest' = rest)
    ∧ (∃ literal, importLine id = "import ".toList ++ literal ++ ";\n".toList ∧ ∀ units rest',
      StrictString (literal ++ ";\n".toList ++ rest) units rest' ↔
        ZerosApart id ∧ units = utf16 id ∧ rest' = ";\n".toList ++ rest)
    ∧ (site.form ≠ .markup → ∀ text, site.replacement? m = some text → ∀ units rest',
      StrictString (text ++ rest) units rest' ↔
        ZerosApart (site.renamed m) ∧ units = utf16 (site.renamed m) ∧ rest' = site.tail ++ rest) := by
  refine ⟨fun units rest' => strictString_quote_iff, ⟨Text.quote id, rfl, fun units rest' => ?_⟩,
    fun code text replaced units rest' => ?_⟩
  · rw [List.append_assoc]
    exact strictString_quote_iff
  · rw [Site.eq_quote_of_replacement? code replaced, List.append_assoc]
    exact strictString_quote_iff

/-- A shorthand is read as the string of its key, with the colon and its name behind it. -/
theorem strings_written_shorthand :
    (⟨0, "a".toList, .shorthand⟩ : Site).replacement? (.ofList [("a", "x\ty")]) = some "\"x\\ty\": a".toList
      ∧ StrictString "\"x\\ty\": a".toList (utf16 "x\ty".toList) ": a".toList := by
  have replaced : (⟨0, "a".toList, .shorthand⟩ : Site).replacement? (.ofList [("a", "x\ty")])
      = some "\"x\\ty\": a".toList := by
    decide +kernel
  have renamed : (⟨0, "a".toList, .shorthand⟩ : Site).renamed (.ofList [("a", "x\ty")]) = "x\ty".toList := by
    decide +kernel
  obtain ⟨_, _, code⟩ := strings_written [] [] [] (.ofList [("a", "x\ty")]) ⟨0, "a".toList, .shorthand⟩
  have read := code (by decide) _ replaced (utf16 "x\ty".toList) ": a".toList
  rw [renamed, List.append_nil] at read
  exact ⟨replaced, read.mpr ⟨zerosApart_of_not_mem (by decide), rfl, rfl⟩⟩

/-- A class list with a digit behind a zero is written as what strict code does not take. -/
theorem strings_written_digit :
    ∃ tree site,
      parse? (Dialect.ofId "a.tsx".toList) "f(<p class=\x7b\"b \\x001\"\x7d/>)".toList = some tree
      ∧ tree.ClassSite 0 site ∧ site.form = .string
      ∧ site.replacement? (.ofList [("b", "_b")]) = some "\"_b \\01\"".toList
      ∧ ∀ units rest, ¬ StrictString "\"_b \\01\"".toList units rest := by
  have reads : ((parse? (Dialect.ofId "a.tsx".toList)
      "f(<p class=\x7b\"b \\x001\"\x7d/>)".toList).any fun tree =>
        (tree.classSites 0).any fun site => site.form = .string
          && site.replacement? (.ofList [("b", "_b")]) = some "\"_b \\01\"".toList) = true := by
    decide +kernel
  simp only [Option.any_eq_true, List.any_eq_true, Bool.and_eq_true, decide_eq_true_eq] at reads
  obtain ⟨tree, parsed, site, member, form, replaced⟩ := reads
  refine ⟨tree, site, parsed, (tree.mem_classSites_iff 0 site).mp member, form, replaced, fun units rest read => ?_⟩
  have written : "\"_b \\01\"".toList = Text.quote "_b \x001".toList ++ [] := by decide
  rw [written, strictString_quote_iff] at read
  exact absurd (read.1 "_b ".toList '1' [] (by decide)) (by decide)

end CompanionStyles.Component
