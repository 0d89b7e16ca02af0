import CompanionStyles.Patch.SourceMap

/-!
Decoding the mappings of a source map: lines with semicolons between them, of segments with commas between
them, of numbers in digits of base 64. Mappings whose lines do not go down are decoded as they were encoded.
-/

namespace CompanionStyles.SourceMap

/-- A decoded segment: a place of the generated text, and the place of which of the sources it comes from. -/
structure Link where
  generated : Cursor
  source : Nat
  origin : Cursor
  deriving DecidableEq, Repr

/-- A number without sign as the number that it stands for: its lowest bit is the sign. -/
def signed (n : Nat) : Int :=
  if n % 2 = 1 then -(n / 2 : Nat) else (n / 2 : Nat)

def digitValue? (c : Char) : Option Nat :=
  Base64.standardDigits.findIdx? (· == c)

/-- The numbers of a segment. Digits from 32 on are followed by a digit of the same number that counts 32 times
as much; `value` is what the digits of the number so far make, and `weight` what the next one counts. -/
def numbersFrom (value weight : Nat) : List Char → Option (List Int)
  | [] => if weight = 1 then some [] else none
  | c :: rest => do
    let digit ← digitValue? c
    if digit < 32 then return signed (value + weight * digit) :: (← numbersFrom 0 1 rest)
    else numbersFrom (value + weight * (digit - 32)) (weight * 32) rest

def numbers (segment : List Char) : Option (List Int) :=
  numbersFrom 0 1 segment

/-- A segment of four numbers, each the difference from the link before it. -/
def link? (last : Link) (segment : List Char) : Option Link :=
  match numbers segment with
  | some [column, source, line, originColumn] => do
    return ⟨⟨last.generated.line, ← (last.generated.column + column).toNat?⟩, ← (last.source + source).toNat?,
      ⟨← (last.origin.line + line).toNat?, ← (last.origin.column + originColumn).toNat?⟩⟩
  | _ => none

/-- The links of the segments of one line; empty ones do not count. -/
def links? (last : Link) : List (List Char) → Option (List Link)
  | [] => some []
  | [] :: segments => links? last segments
  | segment :: segments => do
    let link ← link? last segment
    return link :: (← links? link segments)

/-- The links of lines. Columns of generated text start at zero on each line, all else goes on. -/
def linksOfLines? (last : Link) : List (List Char) → Option (List Link)
  | [] => some []
  | line :: lines => do
    let found ← links? last (line.splitOn ',')
    let last := found.getLastD last
    return found ++ (← linksOfLines? { last with generated := ⟨last.generated.line + 1, 0⟩ } lines)

def decode? (text : List Char) : Option (List Link) :=
  linksOfLines? ⟨.start, 0, .start⟩ (text.splitOn ';')

/-- The link that a mapping is written as. -/
def linkOf (m : Mapping) : Link :=
  ⟨m.generated, 0, m.source⟩

theorem digitValue?_digit {n : Nat} (small : n < 64) :
    digitValue? (Base64.digit Base64.standardDigits n) = some n := by
  revert n
  decide +kernel

theorem digit_mem (n : Nat) : Base64.digit Base64.standardDigits n ∈ Base64.standardDigits := by
  have small : n % 64 < Base64.standardDigits.length := Nat.mod_lt n (by decide)
  rw [Base64.digit, List.getD_eq_getElem?_getD, List.getElem?_eq_getElem small]
  exact List.getElem_mem small

/-- The digits of a number are read back as the number. -/
theorem numbersFrom_groups {fuel n : Nat} (enough : n < fuel) (value weight : Nat) (rest : List Char) :
    numbersFrom value weight ((groups fuel n).map (Base64.digit Base64.standardDigits) ++ rest) =
      (numbersFrom 0 1 rest).map (signed (value + weight * n) :: ·) := by
  induction fuel generalizing n value weight with
  | zero => exact absurd enough (Nat.not_lt_zero n)
  | succ fuel ih =>
    rw [groups]
    by_cases small : n < 32
    · rw [if_pos small, List.map_singleton, List.singleton_append, numbersFrom, digitValue?_digit (by omega)]
      simp only [Option.bind_eq_bind, Option.bind_some, if_pos small]
      cases numbersFrom 0 1 rest <;> rfl
    · have low : n % 32 < 32 := Nat.mod_lt n (by decide)
      rw [if_neg small, List.map_cons, List.cons_append, numbersFrom, digitValue?_digit (by omega)]
      simp only [Option.bind_eq_bind, Option.bind_some, if_neg (show ¬n % 32 + 32 < 32 by omega)]
      have whole : value + weight * (n % 32) + weight * 32 * (n / 32) = value + weight * n := by
        rw [Nat.add_assoc, Nat.mul_assoc, ← Nat.mul_add, Nat.mod_add_div]
      rw [Nat.add_sub_cancel, ih (by omega), whole]

theorem numbersFrom_encodeNumber (n : Int) (rest : List Char) :
    numbersFrom 0 1 (encodeNumber n ++ rest) = (numbersFrom 0 1 rest).map (n :: ·) := by
  rw [encodeNumber, numbersFrom_groups (Nat.lt_succ_self _), Nat.zero_add, Nat.one_mul]
  have back : signed (if n < 0 then 2 * n.natAbs + 1 else 2 * n.natAbs) = n := by
    unfold signed
    split <;> split <;> omega
  rw [back]

theorem numbers_encodeMapping (column : Nat) (source : Cursor) (m : Mapping) :
    numbers (encodeMapping column source m) = some [(m.generated.column : Int) - column, 0,
      (m.source.line : Int) - source.line, (m.source.column : Int) - source.column] := by
  have last := numbersFrom_encodeNumber ((m.source.column : Int) - source.column) []
  rw [List.append_nil] at last
  unfold numbers encodeMapping
  rw [List.append_assoc, List.append_assoc, numbersFrom_encodeNumber, numbersFrom_encodeNumber,
    numbersFrom_encodeNumber, last]
  rfl

/-- A segment is read back as its mapping. -/
theorem link?_encodeMapping (last : Link) {m : Mapping} (line : m.generated.line = last.generated.line)
    (source : last.source = 0) :
    link? last (encodeMapping last.generated.column last.origin m) = some (linkOf m) := by
  have back (a b : Nat) : ((a : Int) + ((b : Int) - a)).toNat? = some b :=
    Int.mem_toNat?.mpr (by omega)
  unfold link?
  rw [numbers_encodeMapping]
  simp only [back, source, ← line]
  rfl

theorem splitOn_append {x : Char} {front : List Char} (free : x ∉ front) (rest : List Char) :
    (front ++ rest).splitOn x = (rest.splitOn x).modifyHead (front ++ ·) := by
  induction front with
  | nil =>
    rw [List.nil_append]
    cases rest.splitOn x <;> rfl
  | cons c front ih =>
    have other : ¬(c == x) = true := by
      rw [beq_iff_eq]
      rintro rfl
      exact free List.mem_cons_self
    rw [List.cons_append, List.splitOn_cons_eq_if_modifyHead, if_neg other,
      ih fun inside => free (List.mem_cons_of_mem c inside), List.modifyHead_modifyHead]
    rfl

theorem linksOfLines?_semicolon (last : Link) (text : List Char) :
    linksOfLines? last ((';' :: text).splitOn ';') =
      linksOfLines? { last with generated := ⟨last.generated.line + 1, 0⟩ } (text.splitOn ';') := by
  rw [List.splitOn_cons_eq_if_modifyHead, if_pos (beq_self_eq_true _), linksOfLines?, List.splitOn_nil]
  simp only [links?, Option.bind_eq_bind, Option.bind_some, List.getLastD_nil, List.nil_append]
  exact Option.bind_fun_some _

theorem linksOfLines?_comma (last : Link) (text : List Char) :
    linksOfLines? last ((',' :: text).splitOn ';') = linksOfLines? last (text.splitOn ';') := by
  rw [List.splitOn_cons_eq_if_modifyHead, if_neg (by decide)]
  cases text.splitOn ';' with
  | nil => rfl
  | cons line lines =>
    rw [List.modifyHead_cons, linksOfLines?, linksOfLines?, List.splitOn_cons_eq_if_modifyHead,
      if_pos (beq_self_eq_true _), links?]

/-- What follows a segment: nothing, or a mark behind which the next one or the next line stands. -/
def Closes (text : List Char) : Prop :=
  text = [] ∨ (∃ rest, text = ',' :: rest) ∨ ∃ rest, text = ';' :: rest

/-- A line goes on behind a segment with a comma, if it goes on at all. -/
theorem Closes.exists_line {text : List Char} (closes : Closes text) :
    ∃ line lines segments, text.splitOn ';' = line :: lines ∧ line.splitOn ',' = [] :: segments := by
  rcases closes with rfl | ⟨rest, rfl⟩ | ⟨rest, rfl⟩
  · exact ⟨[], [], [], rfl, rfl⟩
  · rw [List.splitOn_cons_eq_if_modifyHead, if_neg (by decide)]
    cases split : rest.splitOn ';' with
    | nil => exact (List.splitOn_ne_nil _ _ split).elim
    | cons line lines =>
      refine ⟨',' :: line, lines, line.splitOn ',', rfl, ?_⟩
      rw [List.splitOn_cons_eq_if_modifyHead, if_pos (beq_self_eq_true _)]
  · refine ⟨[], rest.splitOn ';', [], ?_, rfl⟩
    rw [List.splitOn_cons_eq_if_modifyHead, if_pos (beq_self_eq_true _)]

theorem linksOfLines?_segment {last link : Link} {segment text : List Char} (solid : segment ≠ [])
    (noComma : ',' ∉ segment) (noSemicolon : ';' ∉ segment) (closes : Closes text)
    (read : link? last segment = some link) :
    linksOfLines? last ((segment ++ text).splitOn ';') =
      (linksOfLines? link (text.splitOn ';')).map (link :: ·) := by
  obtain ⟨line, lines, segments, split, inLine⟩ := closes.exists_line
  obtain ⟨c, segment, rfl⟩ := List.exists_cons_of_ne_nil solid
  have here : links? last ((c :: segment ++ line).splitOn ',') = (links? link (line.splitOn ',')).map (link :: ·) := by
    rw [splitOn_append noComma, inLine, List.modifyHead_cons, List.append_nil]
    simp only [links?, read, Option.bind_eq_bind, Option.bind_some]
    cases links? link segments <;> rfl
  rw [splitOn_append noSemicolon, split, List.modifyHead_cons, linksOfLines?, linksOfLines?, here]
  cases links? link (line.splitOn ',') with
  | none => rfl
  | some found =>
    have same : (link :: found).getLastD last = found.getLastD link := by
      cases found <;> rfl
    simp only [Option.map_some, Option.bind_eq_bind, Option.bind_some, same]
    cases linksOfLines? { found.getLastD link with generated := ⟨(found.getLastD link).generated.line + 1, 0⟩ } lines
      <;> rfl

theorem closes_encodeFrom (generated source : Cursor) (mappings : List Mapping) :
    Closes (encodeFrom false generated source mappings) := by
  cases mappings with
  | nil => exact Or.inl rfl
  | cons m rest =>
    rw [encodeFrom]
    by_cases same : m.generated.line - generated.line = 0
    · rw [if_pos same, if_neg (by decide)]
      exact Or.inr (Or.inl ⟨_, rfl⟩)
    · obtain ⟨lines, count⟩ := Nat.exists_eq_succ_of_ne_zero same
      rw [if_neg same, count, List.replicate_succ]
      exact Or.inr (Or.inr ⟨_, rfl⟩)

theorem mem_encodeNumber {n : Int} {c : Char} (member : c ∈ encodeNumber n) : c ∈ Base64.standardDigits := by
  obtain ⟨digit, _, rfl⟩ := List.mem_map.mp member
  exact digit_mem digit

theorem encodeNumber_ne_nil (n : Int) : encodeNumber n ≠ [] := by
  rw [encodeNumber, groups]
  simp only [ne_eq, List.map_eq_nil_iff]
  split <;> split <;> exact List.cons_ne_nil _ _

theorem mem_encodeMapping {column : Nat} {source : Cursor} {m : Mapping} {c : Char}
    (member : c ∈ encodeMapping column source m) : c ∈ Base64.standardDigits := by
  unfold encodeMapping at member
  simp only [List.mem_append] at member
  rcases member with ((member | member) | member) | member <;> exact mem_encodeNumber member

theorem linksOfLines?_semicolons (last : Link) (lines : Nat) (text : List Char) :
    linksOfLines? last ((List.replicate (lines + 1) ';' ++ text).splitOn ';') =
      linksOfLines? { last with generated := ⟨last.generated.line + (lines + 1), 0⟩ } (text.splitOn ';') := by
  induction lines generalizing last with
  | zero => exact linksOfLines?_semicolon last text
  | succ lines ih =>
    rw [List.replicate_succ, List.cons_append, linksOfLines?_semicolon, ih]
    simp only [Nat.add_assoc, Nat.add_comm 1]

/-- The mark in front of a segment moves on to its line, behind the segments that are there. -/
theorem linksOfLines?_mark {last : Link} {line : Nat} (first : Bool) (order : last.generated.line ≤ line)
    (text : List Char) :
    linksOfLines? last (((if line - last.generated.line = 0 then (if first then [] else [','])
        else List.replicate (line - last.generated.line) ';') ++ text).splitOn ';') =
      linksOfLines? { last with generated :=
        ⟨line, if line - last.generated.line = 0 then last.generated.column else 0⟩ } (text.splitOn ';') := by
  by_cases same : line - last.generated.line = 0
  · have here : line = last.generated.line := by omega
    rw [if_pos same, if_pos same, here]
    cases first with
    | true => rfl
    | false => exact linksOfLines?_comma last text
  · obtain ⟨lines, count⟩ := Nat.exists_eq_succ_of_ne_zero same
    have below : line = last.generated.line + (lines + 1) := by omega
    rw [if_neg same, if_neg same, count, linksOfLines?_semicolons, ← below]

/-- Mappings from a link on are read back as they were written. -/
theorem linksOfLines?_encodeFrom {mappings : List Mapping} (last : Link) (source : last.source = 0)
    (order : mappings.Pairwise fun a b => a.generated.line ≤ b.generated.line)
    (behind : ∀ m ∈ mappings, last.generated.line ≤ m.generated.line) (first : Bool) :
    linksOfLines? last ((encodeFrom first last.generated last.origin mappings).splitOn ';') =
      some (mappings.map linkOf) := by
  induction mappings generalizing last first with
  | nil => rfl
  | cons m rest ih =>
    obtain ⟨later, order⟩ := List.pairwise_cons.mp order
    have digits (c : Char) (mark : c ∉ Base64.standardDigits) (column : Nat) :
        c ∉ encodeMapping column last.origin m := fun member => mark (mem_encodeMapping member)
    have solid (column : Nat) : encodeMapping column last.origin m ≠ [] := by
      simp [encodeMapping, encodeNumber_ne_nil]
    rw [encodeFrom, List.append_assoc, linksOfLines?_mark first (behind m List.mem_cons_self)]
    generalize (if m.generated.line - last.generated.line = 0 then last.generated.column else 0) = column
    have read := link?_encodeMapping ⟨⟨m.generated.line, column⟩, last.source, last.origin⟩ (m := m) rfl source
    have behindSegment := ih (linkOf m) rfl order later false
    rw [linksOfLines?_segment (solid column) (digits ',' (by decide) column) (digits ';' (by decide) column)
      (closes_encodeFrom _ _ _) read]
    exact congrArg (Option.map (linkOf m :: ·)) behindSegment

/-- Mappings whose lines do not go down are read back as they were written. -/
theorem decode?_encode {mappings : List Mapping}
    (order : mappings.Pairwise fun a b => a.generated.line ≤ b.generated.line) :
    decode? (encode mappings) = some (mappings.map linkOf) :=
  linksOfLines?_encodeFrom ⟨.start, 0, .start⟩ rfl order (fun _ _ => Nat.zero_le _) true

end CompanionStyles.SourceMap
