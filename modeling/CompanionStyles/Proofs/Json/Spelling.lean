import Mathlib.Data.List.Forall2
import Mathlib.Tactic.SplitIfs
import CompanionStyles.Options.Format

/-!
The texts that spell a value in JSON. Blanks may stand around every part, a character of a string may be escaped in
several ways, and the members of an object may come in any order. What is written here is one of the texts that spell
what it was written from.
-/

namespace CompanionStyles.Json

def Blanks (text : List Char) : Prop :=
  ∀ c ∈ text, isBlank c = true

theorem blanks_nil : Blanks [] :=
  fun _ member => absurd member List.not_mem_nil

/-- The letters that may stand behind a backslash, each with the character that it stands for. -/
def escapeLetters : List (Char × Char) :=
  [('"', '"'), ('\\', '\\'), ('/', '/'), ('b', '\x08'), ('f', '\x0c'), ('n', '\n'), ('r', '\r'), ('t', '\t')]

/-- Four hexadecimal digits, small or capital, that spell a unit of UTF-16. -/
def SpellsUnit (unit : Nat) (digits : List Char) : Prop :=
  ∃ a b c d, digits.map Text.hexValue? = [some a, some b, some c, some d]
    ∧ unit = a * 0x1000 + b * 0x100 + c * 0x10 + d

/-- The texts that spell a character inside of a string. -/
inductive SpellsChar : Char → List Char → Prop
  | plain {c : Char} (noQuote : c ≠ '"') (noBackslash : c ≠ '\\') (noControl : 0x20 ≤ c.toNat) : SpellsChar c [c]
  | letter {letter c : Char} (stands : (letter, c) ∈ escapeLetters) : SpellsChar c ['\\', letter]
  | unit {c : Char} {digits : List Char} (spelled : SpellsUnit c.toNat digits) : SpellsChar c ('\\' :: 'u' :: digits)
  | pair {c : Char} {high low : Nat} {digits digits' : List Char} (isHigh : 0xD800 ≤ high ∧ high ≤ 0xDBFF)
      (isLow : 0xDC00 ≤ low ∧ low ≤ 0xDFFF) (spelled : SpellsUnit high digits) (spelled' : SpellsUnit low digits')
      (stands : c.toNat = (high - 0xD800) * 0x400 + (low - 0xDC00) + 0x10000) :
      SpellsChar c ('\\' :: 'u' :: (digits ++ '\\' :: 'u' :: digits'))

inductive SpellsChars : List Char → List Char → Prop
  | nil : SpellsChars [] []
  | cons {c : Char} {value spelled rest : List Char} (first : SpellsChar c spelled) (later : SpellsChars value rest) :
      SpellsChars (c :: value) (spelled ++ rest)

def SpellsString (value text : List Char) : Prop :=
  ∃ body, SpellsChars value body ∧ text = '"' :: (body ++ ['"'])

def SpellsBool (value : Bool) (text : List Char) : Prop :=
  text = (toString value).toList

/-- The texts that spell a value that may be missing. -/
inductive SpellsOption {α : Type} (spells : α → List Char → Prop) : Option α → List Char → Prop
  | none : SpellsOption spells none "null".toList
  | some {value : α} {text : List Char} (spelled : spells value text) : SpellsOption spells (some value) text

/-- What stands behind a part of a list or of an object, up to the bracket: the parts that come later, each behind a
comma. -/
inductive SpellsLater {α : Type} (spells : α → List Char → Prop) : List α → List Char → Prop
  | done {blanks : List Char} (blank : Blanks blanks) : SpellsLater spells [] blanks
  | next {value : α} {values : List α} {text tail back front : List Char} (behind : Blanks back) (before : Blanks front)
      (spelled : spells value text) (later : SpellsLater spells values tail) :
      SpellsLater spells (value :: values) (back ++ ',' :: (front ++ (text ++ tail)))

/-- What stands between the brackets of a list or of an object. -/
inductive SpellsParts {α : Type} (spells : α → List Char → Prop) : List α → List Char → Prop
  | none {blanks : List Char} (blank : Blanks blanks) : SpellsParts spells [] blanks
  | first {value : α} {values : List α} {text tail front : List Char} (before : Blanks front)
      (spelled : spells value text) (later : SpellsLater spells values tail) :
      SpellsParts spells (value :: values) (front ++ (text ++ tail))

def SpellsList {α : Type} (spells : α → List Char → Prop) (values : List α) (text : List Char) : Prop :=
  ∃ body, SpellsParts spells values body ∧ text = '[' :: (body ++ [']'])

/-- A member of an object: its name, and the text of its value. -/
abbrev Member :=
  String × List Char

inductive SpellsMember : Member → List Char → Prop
  | colon {name : String} {key value back front : List Char} (named : SpellsString name.toList key)
      (behind : Blanks back) (before : Blanks front) :
      SpellsMember (name, value) (key ++ (back ++ ':' :: (front ++ value)))

/-- The texts of an object with given members, which has none of them twice. -/
def SpellsObject (members : List Member) (text : List Char) : Prop :=
  (members.map Prod.fst).Nodup ∧ ∃ body, SpellsParts SpellsMember members body ∧ text = '\x7b' :: (body ++ ['\x7d'])

/-- The texts of an object whose members are spelled from given values. -/
def SpellsRecord {β : Type} (name : β → String) (spells : β → List Char → Prop) (given : List β) (text : List Char) :
    Prop :=
  ∃ members, List.Forall₂ (fun b (member : Member) => member.1 = name b ∧ spells b member.2) given members
    ∧ SpellsObject members text

/-- A text that spells a value and nothing else. -/
def SpellsDocument {α : Type} (spells : α → List Char → Prop) (value : α) (text : List Char) : Prop :=
  ∃ front body back, Blanks front ∧ Blanks back ∧ spells value body ∧ text = front ++ (body ++ back)

theorem SpellsUnit.length {unit : Nat} {digits : List Char} (spelled : SpellsUnit unit digits) : digits.length = 4 := by
  obtain ⟨a, b, c, d, values, _⟩ := spelled
  rw [← List.length_map Text.hexValue?, values]
  rfl

theorem SpellsChars.length_le {value body : List Char} (spelled : SpellsChars value body) :
    value.length ≤ body.length := by
  induction spelled with
  | nil => exact Nat.le_refl _
  | @cons c value text rest first later ih =>
    have some : 0 < text.length := by cases first <;> simp
    rw [List.length_append, List.length_cons]
    omega

theorem SpellsLater.length_le {α : Type} {spells : α → List Char → Prop} {values : List α} {text : List Char}
    (spelled : SpellsLater spells values text) : values.length ≤ text.length := by
  induction spelled with
  | done => exact Nat.zero_le _
  | next _ _ _ _ ih =>
    simp only [List.length_cons, List.length_append]
    omega

theorem SpellsParts.length_le {α : Type} {spells : α → List Char → Prop} {values : List α} {text : List Char}
    (spelled : SpellsParts spells values text) : values.length ≤ text.length + 1 := by
  cases spelled with
  | none => exact Nat.zero_le _
  | first _ _ later =>
    have shorter := later.length_le
    simp only [List.length_cons, List.length_append]
    omega

/-- A control character is spelled by its four digits. -/
theorem spellsUnit_hexDigits : ∀ n < 0x20, SpellsUnit n (Text.hexDigits 4 n) := by
  have digits : ∀ n < 0x20,
      (Text.hexDigits 4 n).map Text.hexValue? = [some 0, some 0, some (n / 16), some (n % 16)] := by
    decide
  intro n control
  refine ⟨0, 0, n / 16, n % 16, digits n control, ?_⟩
  omega

/-- A character is written as a text that spells it. -/
theorem spellsChar_escapedChar (c : Char) : SpellsChar c (escapedChar c) := by
  unfold escapedChar
  split_ifs with quote backslash _ _ _ _ _ control
  on_goal 9 => exact .plain quote backslash (Nat.le_of_not_lt control)
  on_goal 8 => exact .unit (spellsUnit_hexDigits _ control)
  -- each of the others is one of the letters
  all_goals
    subst_vars
    exact .letter (by decide)

theorem spellsChars_escaped (value : List Char) : SpellsChars value (value.flatMap escapedChar) := by
  induction value with
  | nil => exact .nil
  | cons c value ih =>
    rw [List.flatMap_cons]
    exact .cons (spellsChar_escapedChar c) ih

theorem spellsString_quote (value : List Char) : SpellsString value (quote value) :=
  ⟨value.flatMap escapedChar, spellsChars_escaped value, rfl⟩

theorem spellsBool_writeBool (value : Bool) : SpellsBool value (Settings.writeBool value) := by
  cases value <;> rfl

theorem spellsOption_writeOption {α : Type} {spells : α → List Char → Prop} {write : α → List Char}
    (spelled : ∀ value, spells value (write value)) (value : Option α) :
    SpellsOption spells value (Settings.writeOption write value) := by
  cases value with
  | none => exact .none
  | some value => exact .some (spelled value)

/-- Texts with commas between them: the first one, and each other one behind a comma. -/
theorem commaSeparated_cons (text : List Char) (texts : List (List Char)) :
    Settings.commaSeparated (text :: texts) = text ++ texts.flatMap (',' :: ·) := by
  induction texts generalizing text with
  | nil => exact (List.append_nil text).symm
  | cons next texts ih =>
    rw [Settings.commaSeparated, ih, List.flatMap_cons, List.cons_append]
    exact List.cons_ne_nil next texts

/-- Parts with commas between them, without blanks. -/
theorem spellsParts_commaSeparated {α : Type} {spells : α → List Char → Prop} {write : α → List Char}
    (spelled : ∀ value, spells value (write value)) (values : List α) :
    SpellsParts spells values (Settings.commaSeparated (values.map write)) := by
  cases values with
  | nil => exact .none blanks_nil
  | cons value values =>
    rw [List.map_cons, commaSeparated_cons]
    have later : SpellsLater spells values ((values.map write).flatMap (',' :: ·)) := by
      induction values with
      | nil => exact .done blanks_nil
      | cons next values ih =>
        have parts := SpellsLater.next blanks_nil blanks_nil (spelled next) ih
        exact parts
    have parts := SpellsParts.first blanks_nil (spelled value) later
    exact parts

theorem spellsList_writeList (values : List (List Char)) :
    SpellsList SpellsString values (Settings.writeList values) :=
  ⟨_, spellsParts_commaSeparated spellsString_quote values, rfl⟩

theorem spellsObject_writeObject {members : List Member} (distinct : (members.map Prod.fst).Nodup) :
    SpellsObject members (Settings.writeObject members) := by
  refine ⟨distinct, _, spellsParts_commaSeparated (fun (name, value) => ?_) members, rfl⟩
  have colon : SpellsMember (name, value) _ := .colon (spellsString_quote name.toList) blanks_nil blanks_nil
  exact colon

theorem spellsRecord_writeObject {β : Type} {name : β → String} {spells : β → List Char → Prop} {write : β → List Char}
    {given : List β} (spelled : ∀ b ∈ given, spells b (write b)) (distinct : (given.map name).Nodup) :
    SpellsRecord name spells given (Settings.writeObject (given.map fun b => (name b, write b))) := by
  refine ⟨given.map fun b => (name b, write b), ?_, ?_⟩
  · exact List.forall₂_map_right_iff.mpr (List.forall₂_same.mpr fun b among => ⟨rfl, spelled b among⟩)
  · refine spellsObject_writeObject ?_
    rw [List.map_map]
    exact distinct

end CompanionStyles.Json
