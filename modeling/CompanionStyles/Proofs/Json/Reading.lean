import CompanionStyles.Proofs.Json.Spelling

/-!
Reading JSON. Every text that spells a value is read as that value, with any blanks before it, and what stands behind
it is left. A record is read from an object that has some of its fields, in any order; the others stay as they are.
-/

namespace CompanionStyles.Json

/-- What may stand behind a value: nothing, a blank, a comma or a bracket. -/
def Ends (rest : List Char) : Prop :=
  ∀ c ∈ rest.head?, isBlank c = true ∨ c ∈ [',', ']', '\x7d']

/-- A reader takes a text as a value. -/
structure Reads {α : Type} (read : Reader α) (text : List Char) (value : α) : Prop where
  solid : ∃ c tail, text = c :: tail ∧ isBlank c = false ∧ c ≠ ']'
  read : ∀ front rest, Blanks front → Ends rest → read (front ++ (text ++ rest)) = .ok (value, rest)

/-- What is made of a value is read as well. -/
theorem Reads.map {α β : Type} {read : Reader β} {text : List Char} {value : β} (reads : Reads read text value)
    (set : β → α) : Reads (fun text => (read text).map fun (value, rest) => (set value, rest)) text (set value) where
  solid := reads.solid
  read front rest blank ends := by
    rw [reads.read front rest blank ends]
    rfl

theorem skipBlanks_append {front : List Char} (blank : Blanks front) (text : List Char) :
    skipBlanks (front ++ text) = skipBlanks text :=
  List.dropWhile_append_of_pos blank

theorem skipBlanks_cons {c : Char} (solid : isBlank c = false) (rest : List Char) :
    skipBlanks (c :: rest) = c :: rest :=
  List.dropWhile_cons_of_neg (by simp [solid])

theorem skipBlanks_front {front : List Char} (blank : Blanks front) {c : Char} (solid : isBlank c = false)
    (rest : List Char) : skipBlanks (front ++ c :: rest) = c :: rest := by
  rw [skipBlanks_append blank, skipBlanks_cons solid]

theorem ends_of_blanks {back : List Char} (blank : Blanks back) {c : Char} (mark : c ∈ [',', ']', '\x7d'])
    (rest : List Char) : Ends (back ++ c :: rest) := by
  intro d first
  cases back with
  | nil => exact Or.inr (Option.some.inj first ▸ mark)
  | cons b back => exact Or.inl (Option.some.inj first ▸ blank b List.mem_cons_self)

theorem SpellsLater.ends {α : Type} {spells : α → List Char → Prop} {values : List α} {text : List Char}
    (spelled : SpellsLater spells values text) {bracket : Char} (closes : bracket ∈ [',', ']', '\x7d'])
    (rest : List Char) : Ends (text ++ bracket :: rest) := by
  cases spelled with
  | done blank => exact ends_of_blanks blank closes rest
  | next behind =>
    rw [List.append_assoc]
    exact ends_of_blanks behind (by decide) _

theorem reads_bool {value : Bool} {text : List Char} (spelled : SpellsBool value text) : Reads readBool text value := by
  obtain rfl := spelled
  cases value with
  | false =>
    refine ⟨⟨'f', _, rfl, rfl, by decide⟩, fun front rest blank _ => ?_⟩
    rw [readBool, skipBlanks_append blank]
    rfl
  | true =>
    refine ⟨⟨'t', _, rfl, rfl, by decide⟩, fun front rest blank _ => ?_⟩
    rw [readBool, skipBlanks_append blank]
    rfl

theorem length_le_size (text : List Char) : text.length ≤ Utf8.size text := by
  induction text with
  | nil => exact Nat.le_refl _
  | cons c text ih =>
    have wide := Utf8.width_pos c
    rw [List.length_cons, Utf8.size_cons]
    omega

theorem readUnit_spelled {unit : Nat} {digits : List Char} (spelled : SpellsUnit unit digits) (rest : List Char) :
    readUnit (digits ++ rest) = .ok (unit, rest) := by
  have length := spelled.length
  have enough : ¬Utf8.size (digits ++ rest) < 4 := by
    have long := length_le_size digits
    rw [Utf8.size_append]
    omega
  obtain ⟨a, b, c, d, values, rfl⟩ := spelled
  have value : ([a, b, c, d].foldl (16 * · + ·) 0) = a * 0x1000 + b * 0x100 + c * 0x10 + d := by
    simp only [List.foldl_cons, List.foldl_nil]
    omega
  have read : digits.mapM Text.hexValue? = some [a, b, c, d] := by
    obtain ⟨w, later, rfl, first, values⟩ := List.map_eq_cons_iff.mp values
    obtain ⟨x, later, rfl, second, values⟩ := List.map_eq_cons_iff.mp values
    obtain ⟨y, later, rfl, third, values⟩ := List.map_eq_cons_iff.mp values
    obtain ⟨z, later, rfl, fourth, values⟩ := List.map_eq_cons_iff.mp values
    obtain rfl := List.map_eq_nil_iff.mp values
    simp only [List.mapM_cons, List.mapM_nil, first, second, third, fourth]
    rfl
  rw [readUnit, if_neg enough, List.take_left' length, List.drop_left' length, read]
  exact congrArg (fun n => Except.ok (n, rest)) value

theorem readEscape_letter {letter c : Char} (stands : (letter, c) ∈ escapeLetters) (rest : List Char) :
    readEscape (letter :: rest) = .ok (c, rest) := by
  have known : ∀ entry ∈ escapeLetters, entry.1 ≠ 'u' ∧ escaped? entry.1 = some entry.2 := by decide
  obtain ⟨noUnit, known⟩ := known _ stands
  unfold readEscape
  split
  · rename_i empty
    exact absurd empty (List.cons_ne_nil _ _)
  · rename_i same
    exact absurd (List.cons.inj same).1 noUnit
  · rename_i same
    obtain ⟨rfl, rfl⟩ := List.cons.inj same
    rw [known]

/-- A character up to U+FFFF is read from the one unit that spells it, which is no surrogate. -/
theorem readEscape_unit {c : Char} {digits : List Char} (spelled : SpellsUnit c.toNat digits) (rest : List Char) :
    readEscape ('u' :: (digits ++ rest)) = .ok (c, rest) := by
  have small : c.toNat < 0xD800 ∨ 0xDFFF < c.toNat := c.valid.imp_right And.left
  have noLow : ¬(0xDC00 ≤ c.toNat ∧ c.toNat ≤ 0xDFFF) := by omega
  have noHigh : c.toNat < 0xD800 ∨ 0xDBFF < c.toNat := by omega
  simp only [readEscape, readUnit_spelled spelled, bind, Except.bind, if_neg noLow, if_pos noHigh, Char.ofNat_toNat]

theorem readEscape_pair {c : Char} {high low : Nat} {digits digits' : List Char}
    (isHigh : 0xD800 ≤ high ∧ high ≤ 0xDBFF) (isLow : 0xDC00 ≤ low ∧ low ≤ 0xDFFF)
    (spelled : SpellsUnit high digits) (spelled' : SpellsUnit low digits')
    (stands : c.toNat = (high - 0xD800) * 0x400 + (low - 0xDC00) + 0x10000) (rest : List Char) :
    readEscape ('u' :: (digits ++ '\\' :: 'u' :: (digits' ++ rest))) = .ok (c, rest) := by
  have noLow : ¬(0xDC00 ≤ high ∧ high ≤ 0xDFFF) := by omega
  have notSmall : ¬(high < 0xD800 ∨ 0xDBFF < high) := by omega
  have second : ¬(low < 0xDC00 ∨ 0xDFFF < low) := by omega
  simp only [readEscape, readUnit_spelled spelled, readUnit_spelled spelled', bind, Except.bind, if_neg noLow,
    if_neg notSmall, if_neg second, ← stands, Char.ofNat_toNat]

/-- One step of a string: the text of a character is read as that character. -/
theorem readStringFrom_char {c : Char} {text : List Char} (spelled : SpellsChar c text) {rest value rest' : List Char}
    {fuel : Nat} (later : readStringFrom fuel rest = .ok (value, rest')) :
    readStringFrom (fuel + 1) (text ++ rest) = .ok (c :: value, rest') := by
  have behindBackslash : ∀ {text}, readEscape text = .ok (c, rest) →
      readStringFrom (fuel + 1) ('\\' :: text) = .ok (c :: value, rest') := by
    intro text escape
    rw [readStringFrom, if_neg (by decide), if_pos rfl, escape]
    simp only [bind, Except.bind, later]
    rfl
  cases spelled with
  | plain noQuote noBackslash noControl =>
    rw [List.singleton_append, readStringFrom, if_neg noQuote, if_neg noBackslash, if_neg (Nat.not_lt.mpr noControl),
      later]
    rfl
  | letter stands => exact behindBackslash (readEscape_letter stands rest)
  | unit spelled => exact behindBackslash (readEscape_unit spelled rest)
  | pair isHigh isLow spelled spelled' stands =>
    have escape := readEscape_pair isHigh isLow spelled spelled' stands rest
    rw [List.cons_append, List.cons_append, List.append_assoc, List.cons_append, List.cons_append]
    exact behindBackslash escape

theorem readStringFrom_spelled {value body : List Char} (spelled : SpellsChars value body) (rest : List Char)
    {fuel : Nat} (enough : value.length < fuel) :
    readStringFrom fuel (body ++ '"' :: rest) = .ok (value, rest) := by
  induction spelled generalizing fuel with
  | nil =>
    cases fuel with
    | zero => exact absurd enough (Nat.not_lt_zero _)
    | succ fuel => rfl
  | cons first later ih =>
    cases fuel with
    | zero => exact absurd enough (Nat.not_lt_zero _)
    | succ fuel =>
      rw [List.append_assoc]
      exact readStringFrom_char first (ih (Nat.lt_of_succ_lt_succ enough))

/-- A string is read behind its opening quote. -/
theorem readQuoted_spelled {value text : List Char} (spelled : SpellsString value text) :
    ∃ tail, text = '"' :: tail ∧ ∀ rest, readQuoted (tail ++ rest) = .ok (value, rest) := by
  obtain ⟨body, spelled, rfl⟩ := spelled
  refine ⟨_, rfl, fun rest => ?_⟩
  have shorter := spelled.length_le
  rw [List.append_assoc]
  exact readStringFrom_spelled spelled rest (by rw [List.length_append]; omega)

theorem reads_string {value text : List Char} (spelled : SpellsString value text) : Reads readString text value := by
  obtain ⟨tail, rfl, read⟩ := readQuoted_spelled spelled
  refine ⟨⟨'"', tail, rfl, rfl, by decide⟩, fun front rest blank _ => ?_⟩
  rw [readString, List.cons_append, skipBlanks_front blank rfl]
  exact read rest

/-- A value that may be missing is read as null, or by the reader of the value, whose texts do not start as null. -/
theorem reads_option {α : Type} {spells : α → List Char → Prop} {read : Reader α} {value : Option α} {text : List Char}
    (reads : ∀ value text, spells value text → Reads read text value ∧ text.head? ≠ some 'n')
    (spelled : SpellsOption spells value text) : Reads (readOption read) text value := by
  cases spelled with
  | none =>
    refine ⟨⟨'n', _, rfl, rfl, by decide⟩, fun front rest blank _ => ?_⟩
    rw [readOption, skipBlanks_append blank]
    rfl
  | @some value text spelled =>
    obtain ⟨reads, noNull⟩ := reads value text spelled
    obtain ⟨c, tail, rfl, solid, noBracket⟩ := reads.solid
    have noNull : c ≠ 'n' := fun same => noNull (congrArg some same)
    refine ⟨⟨c, tail, rfl, solid, noBracket⟩, fun front rest blank ends => ?_⟩
    have value := reads.read [] rest blanks_nil ends
    rw [List.nil_append, List.cons_append] at value
    rw [readOption, List.cons_append, skipBlanks_front blank solid]
    split
    · rename_i same
      exact absurd (List.cons.inj same).1 noNull
    · rw [value]
      rfl

theorem nextElement_first {front : List Char} (blank : Blanks front) {c : Char} (solid : isBlank c = false)
    (noBracket : c ≠ ']') (rest : List Char) : nextElement true (front ++ c :: rest) = .ok (true, c :: rest) := by
  rw [nextElement, skipBlanks_front blank solid]
  split
  · rename_i empty
    exact absurd empty (List.cons_ne_nil _ _)
  · rename_i same
    exact absurd (List.cons.inj same).1 noBracket
  · rename_i same
    rw [if_pos rfl, ← same]

theorem nextElement_later {back front : List Char} (behind : Blanks back) (before : Blanks front) {c : Char}
    (solid : isBlank c = false) (noBracket : c ≠ ']') (rest : List Char) :
    nextElement false (back ++ ',' :: (front ++ c :: rest)) = .ok (true, c :: rest) := by
  rw [nextElement, skipBlanks_front behind (by decide)]
  split
  · rename_i empty
    exact absurd empty (List.cons_ne_nil _ _)
  · rename_i same
    exact absurd (List.cons.inj same).1 (by decide)
  · rename_i same
    obtain ⟨rfl, rfl⟩ := List.cons.inj same
    rw [if_neg (by decide), if_pos rfl, skipBlanks_front before solid]
    split
    · rename_i empty
      exact absurd empty (List.cons_ne_nil _ _)
    · rename_i same
      exact absurd (List.cons.inj same).1 noBracket
    · rfl

theorem nextElement_bracket (first : Bool) {blanks : List Char} (blank : Blanks blanks) (rest : List Char) :
    nextElement first (blanks ++ ']' :: rest) = .ok (false, ']' :: rest) := by
  rw [nextElement, skipBlanks_front blank (by decide)]
  rfl

section

variable {α : Type} {spells : α → List Char → Prop} {read : Reader α}

/-- One step of a list: behind the element that comes next, the other ones are read. -/
theorem readElements_of_next {value : α} {values : List α} {text value' tail rest : List Char} {first : Bool}
    {fuel : Nat} (next : nextElement first text = .ok (true, value' ++ tail)) (reads : Reads read value' value)
    (ends : Ends tail) (later : readElements read fuel false tail = .ok (values, rest)) :
    readElements read (fuel + 1) first text = .ok (value :: values, rest) := by
  have value := reads.read [] tail blanks_nil ends
  rw [List.nil_append] at value
  rw [readElements, next]
  simp only [bind, Except.bind, if_true, value, later]
  rfl

theorem readElements_bracket {first : Bool} {blanks : List Char} (blank : Blanks blanks) (rest : List Char)
    (fuel : Nat) :
    readElements read (fuel + 1) first (blanks ++ ']' :: rest) = .ok ([], ']' :: rest) := by
  rw [readElements, nextElement_bracket first blank]
  rfl

/-- The elements of a list behind one of them are read up to the bracket. -/
theorem readElements_later (reads : ∀ value text, spells value text → Reads read text value) {values : List α}
    {text : List Char} (spelled : SpellsLater spells values text) (rest : List Char) {fuel : Nat}
    (enough : values.length < fuel) :
    readElements read fuel false (text ++ ']' :: rest) = .ok (values, ']' :: rest) := by
  induction spelled generalizing fuel with
  | done blank =>
    cases fuel with
    | zero => exact absurd enough (Nat.not_lt_zero _)
    | succ fuel => exact readElements_bracket blank rest fuel
  | @next value values text tail back front behind before spelled later ih =>
    cases fuel with
    | zero => exact absurd enough (Nat.not_lt_zero _)
    | succ fuel =>
      have value := reads _ _ spelled
      obtain ⟨c, text, rfl, solid, noBracket⟩ := value.solid
      refine readElements_of_next ?_ value (later.ends (by decide) rest) (ih (Nat.lt_of_succ_lt_succ enough))
      have next := nextElement_later behind before solid noBracket (text ++ (tail ++ ']' :: rest))
      simpa only [List.append_assoc, List.cons_append] using next

theorem readElements_parts (reads : ∀ value text, spells value text → Reads read text value) {values : List α}
    {text : List Char} (spelled : SpellsParts spells values text) (rest : List Char) {fuel : Nat}
    (enough : values.length < fuel) :
    readElements read fuel true (text ++ ']' :: rest) = .ok (values, ']' :: rest) := by
  cases fuel with
  | zero => exact absurd enough (Nat.not_lt_zero _)
  | succ fuel =>
    cases spelled with
    | none blank => exact readElements_bracket blank rest fuel
    | @first value values text tail front before spelled later =>
      have value := reads _ _ spelled
      obtain ⟨c, text, rfl, solid, noBracket⟩ := value.solid
      refine readElements_of_next ?_ value (later.ends (by decide) rest)
        (readElements_later reads later rest (Nat.lt_of_succ_lt_succ enough))
      have next := nextElement_first before solid noBracket (text ++ (tail ++ ']' :: rest))
      simpa only [List.append_assoc, List.cons_append] using next

theorem reads_list (reads : ∀ value text, spells value text → Reads read text value) {values : List α}
    {text : List Char} (spelled : SpellsList spells values text) : Reads (readList read) text values := by
  obtain ⟨body, spelled, rfl⟩ := spelled
  refine ⟨⟨'[', _, rfl, rfl, by decide⟩, fun front rest blank _ => ?_⟩
  have enough : values.length < (body ++ ']' :: rest).length + 1 := by
    have shorter := spelled.length_le
    rw [List.length_append, List.length_cons]
    omega
  rw [readList, List.cons_append, skipBlanks_front blank (by decide), List.append_assoc, List.singleton_append]
  simp only [readElements_parts reads spelled rest enough, bind, Except.bind]
  rfl

end

theorem nextKey_first {front : List Char} (blank : Blanks front) {name key : List Char} (named : SpellsString name key)
    (rest : List Char) : nextKey true (front ++ (key ++ rest)) = .ok (some name, rest) := by
  obtain ⟨tail, rfl, read⟩ := readQuoted_spelled named
  rw [nextKey, List.cons_append, skipBlanks_front blank (by decide)]
  change (readQuoted (tail ++ rest) >>= fun found => Except.ok (some found.1, found.2)) = _
  rw [read]
  rfl

theorem nextKey_later {back front : List Char} (behind : Blanks back) (before : Blanks front) {name key : List Char}
    (named : SpellsString name key) (rest : List Char) :
    nextKey false (back ++ ',' :: (front ++ (key ++ rest))) = .ok (some name, rest) := by
  obtain ⟨tail, rfl, read⟩ := readQuoted_spelled named
  rw [nextKey, skipBlanks_front behind (by decide)]
  split
  · rename_i empty
    exact absurd empty (List.cons_ne_nil _ _)
  · rename_i same
    exact absurd (List.cons.inj same).1 (by decide)
  · rename_i same
    obtain ⟨rfl, rfl⟩ := List.cons.inj same
    rw [if_neg (by decide), if_pos rfl, List.cons_append, skipBlanks_front before (by decide)]
    change (readQuoted (tail ++ rest) >>= fun found => Except.ok (some found.1, found.2)) = _
    rw [read]
    rfl

theorem nextKey_bracket (first : Bool) {blanks : List Char} (blank : Blanks blanks) (rest : List Char) :
    nextKey first (blanks ++ '\x7d' :: rest) = .ok (none, '\x7d' :: rest) := by
  rw [nextKey, skipBlanks_front blank (by decide)]
  rfl

/-- Members are read into a record one after the other: each is of a field that is not given yet, and its value is
read into that field. -/
inductive Gives {α : Type} (fields : List (RecordField α)) : List String → α → List Member → α → Prop
  | done {seen : List String} {record : α} : Gives fields seen record [] record
  | member {seen : List String} {record result : α} (field : RecordField α) {text : List Char} (next : α)
      {members : List Member} (known : (fields.find? fun f => f.name.toList = field.name.toList) = some field)
      (new : field.name ∉ seen) (read : Reads (field.read record) text next)
      (later : Gives fields (field.name :: seen) next members result) :
      Gives fields seen record ((field.name, text) :: members) result

section

variable {α : Type} {fields : List (RecordField α)} {field : RecordField α} {seen : List String}
  {record next result : α}

/-- One step of an object: behind the name that comes next, the value is read, and then the other members. -/
theorem readMembers_of_key (known : (fields.find? fun f => f.name.toList = field.name.toList) = some field)
    (new : field.name ∉ seen) {text back front value tail : List Char} {first : Bool} {fuel : Nat}
    (named : nextKey first text = .ok (some field.name.toList, back ++ ':' :: (front ++ (value ++ tail))))
    (behind : Blanks back) (before : Blanks front) (reads : Reads (field.read record) value next) (ends : Ends tail) :
    readMembers fields (fuel + 1) first seen record text
      = readMembers fields fuel false (field.name :: seen) next tail := by
  have colon : skipColon (back ++ ':' :: (front ++ (value ++ tail))) = .ok (front ++ (value ++ tail)) := by
    rw [skipColon, skipBlanks_front behind (by decide)]
    rfl
  rw [readMembers, named]
  simp only [bind, Except.bind, known, if_neg new, colon, reads.read front tail before ends]

theorem readMembers_bracket {first : Bool} {blanks : List Char} (blank : Blanks blanks) (rest : List Char)
    (fuel : Nat) :
    readMembers fields (fuel + 1) first seen record (blanks ++ '\x7d' :: rest) = .ok (record, '\x7d' :: rest) := by
  rw [readMembers, nextKey_bracket first blank]
  rfl

/-- The members of an object behind one of them are read up to the bracket. -/
theorem Gives.readMembers_later {members : List Member} (gives : Gives fields seen record members result)
    {text : List Char} (spelled : SpellsLater SpellsMember members text) (rest : List Char) {fuel : Nat}
    (enough : members.length < fuel) :
    readMembers fields fuel false seen record (text ++ '\x7d' :: rest) = .ok (result, '\x7d' :: rest) := by
  induction gives generalizing fuel text with
  | done =>
    cases fuel with
    | zero => exact absurd enough (Nat.not_lt_zero _)
    | succ fuel =>
      cases spelled with
      | done blank => exact readMembers_bracket blank rest fuel
  | member field next known new read _ ih =>
    cases fuel with
    | zero => exact absurd enough (Nat.not_lt_zero _)
    | succ fuel =>
      cases spelled with
      | @next _ _ text tail back front behind before member later =>
        cases member with
        | colon named behind' before' =>
          refine (readMembers_of_key known new ?_ behind' before' read (later.ends (by decide) rest)).trans
            (ih later (Nat.lt_of_succ_lt_succ enough))
          simpa only [List.append_assoc, List.cons_append] using nextKey_later behind before named _

theorem Gives.readMembers {members : List Member} (gives : Gives fields seen record members result) {text : List Char}
    (spelled : SpellsParts SpellsMember members text) (rest : List Char) {fuel : Nat} (enough : members.length < fuel) :
    Json.readMembers fields fuel true seen record (text ++ '\x7d' :: rest) = .ok (result, '\x7d' :: rest) := by
  cases fuel with
  | zero => exact absurd enough (Nat.not_lt_zero _)
  | succ fuel =>
    cases gives with
    | done =>
      cases spelled with
      | none blank => exact readMembers_bracket blank rest fuel
    | member field next known new read given =>
      cases spelled with
      | @first _ _ text tail front before member later =>
        cases member with
        | colon named behind' before' =>
          refine (readMembers_of_key known new ?_ behind' before' read (later.ends (by decide) rest)).trans
            (given.readMembers_later later rest (Nat.lt_of_succ_lt_succ enough))
          simpa only [List.append_assoc, List.cons_append] using nextKey_first before named _

/-- A record is read from every object of members that give it. -/
theorem Gives.reads {members : List Member} (gives : Gives fields [] record members result) (expected : String)
    {text : List Char} (spelled : SpellsObject members text) :
    Reads (readRecord expected fields record) text result := by
  obtain ⟨_, body, spelled, rfl⟩ := spelled
  refine ⟨⟨'\x7b', _, rfl, rfl, by decide⟩, fun front rest blank _ => ?_⟩
  have enough : members.length < (body ++ '\x7d' :: rest).length + 1 := by
    have shorter := spelled.length_le
    rw [List.length_append, List.length_cons]
    omega
  rw [readRecord, List.cons_append, skipBlanks_front blank (by decide), List.append_assoc, List.singleton_append]
  simp only [gives.readMembers spelled rest enough, bind, Except.bind]
  rfl

end

section

variable {α β : Type} {fields : List (RecordField α)} {name : β → String} {spells : β → List Char → Prop}
  {set : β → α → α}

/-- Members that spell given values give them one after the other to a record, if each is read into its field. -/
theorem gives_of_given
    (fits : ∀ b text, spells b text → ∃ field, (fields.find? fun f => f.name.toList = field.name.toList) = some field
      ∧ field.name = name b ∧ ∀ record, Reads (field.read record) text (set b record))
    {given : List β} {members : List Member}
    (spelled : List.Forall₂ (fun b (member : Member) => member.1 = name b ∧ spells b member.2) given members)
    {seen : List String} (distinct : (members.map Prod.fst).Nodup) (new : ∀ member ∈ members, member.1 ∉ seen)
    (record : α) : Gives fields seen record members (given.foldl (fun record b => set b record) record) := by
  induction spelled generalizing seen record with
  | nil => exact .done
  | @cons b member given members first _ ih =>
    obtain ⟨memberName, text⟩ := member
    obtain ⟨rfl, spelled⟩ := first
    obtain ⟨field, known, named, reads⟩ := fits b text spelled
    obtain ⟨others, distinct⟩ := List.nodup_cons.mp distinct
    have new' := new _ List.mem_cons_self
    dsimp only at new' others
    rw [← named] at new' others ⊢
    refine .member field (set b record) known new' (reads record) (ih distinct (fun other among seen' => ?_) _)
    rcases List.mem_cons.mp seen' with same | seen'
    · exact others (same ▸ List.mem_map_of_mem among)
    · exact new other (List.mem_cons_of_mem _ among) seen'

/-- A record is read from every object that spells given values, with these set. -/
theorem reads_record
    (fits : ∀ b text, spells b text → ∃ field, (fields.find? fun f => f.name.toList = field.name.toList) = some field
      ∧ field.name = name b ∧ ∀ record, Reads (field.read record) text (set b record))
    (expected : String) (record : α) {given : List β} {text : List Char}
    (spelled : SpellsRecord name spells given text) :
    Reads (readRecord expected fields record) text (given.foldl (fun record b => set b record) record) := by
  obtain ⟨members, members', object⟩ := spelled
  exact (gives_of_given fits members' object.1 (fun _ _ => List.not_mem_nil) record).reads expected object

end

/-- A text that spells one value and nothing else is read as that value. -/
theorem parse_document {α β : Type} {read : Reader α} {spells : β → List Char → Prop} {given : β} {value : α}
    (reads : ∀ body, spells given body → Reads read body value) {text : List Char}
    (spelled : SpellsDocument spells given text) : parse read text = .ok value := by
  obtain ⟨front, body, back, before, behind, spelled, rfl⟩ := spelled
  have ends : Ends back := fun c first => Or.inl (behind c (List.mem_of_mem_head? first))
  have nothing : skipBlanks back = [] := by
    rw [← List.append_nil back, skipBlanks_append behind]
    rfl
  rw [parse, (reads body spelled).read front back before ends]
  simp only [bind, Except.bind, nothing]
  rfl

end CompanionStyles.Json
