/-!
Text as UTF-8 bytes. `encode` and `decode?` are inverse to each other; `decodeLossy` reads any bytes,
writing the replacement character for each maximal invalid run, and `splitAt?` cuts a text at a byte
offset, which exists only between characters.
-/

namespace CompanionStyles

/-- Raw bytes, as names of files and contents of files hold them. -/
abbrev Bytes := List UInt8

namespace Utf8

def width (c : Char) : Nat :=
  let n := c.toNat
  if n < 0x80 then 1 else if n < 0x800 then 2 else if n < 0x10000 then 3 else 4

/-- A leading byte holds the high bits under a mark that tells the width; the others hold six bits
each. -/
def encodeChar (c : Char) : Bytes :=
  let n := c.toNat
  let tail (k : Nat) : UInt8 := UInt8.ofNat (0x80 + n / Nat.pow 64 k % 64)
  if n < 0x80 then [UInt8.ofNat n]
  else if n < 0x800 then [UInt8.ofNat (0xC0 + n / 64), tail 0]
  else if n < 0x10000 then [UInt8.ofNat (0xE0 + n / 4096), tail 1, tail 0]
  else [UInt8.ofNat (0xF0 + n / 262144), tail 2, tail 1, tail 0]

def encode (text : List Char) : Bytes :=
  text.flatMap encodeChar

def size (text : List Char) : Nat :=
  text.foldr (fun c n => width c + n) 0

@[simp]
theorem size_nil : size [] = 0 :=
  rfl

@[simp]
theorem size_cons (c : Char) (text : List Char) : size (c :: text) = width c + size text :=
  rfl

@[simp]
theorem size_append (a b : List Char) : size (a ++ b) = size a + size b := by
  induction a with
  | nil => simp
  | cons c a ih =>
    rw [List.cons_append, size_cons, size_cons, ih]
    omega

theorem width_pos (c : Char) : 0 < width c := by
  unfold width
  dsimp only
  repeat' split
  all_goals omega

theorem size_pos {text : List Char} (solid : text ≠ []) : 0 < size text := by
  cases text with
  | nil => exact absurd rfl solid
  | cons c text =>
    have positive := width_pos c
    rw [size_cons]
    omega

def isTail (b : UInt8) : Bool :=
  0x80 ≤ b.toNat && b.toNat < 0xC0

/-- The first character of some bytes: the character, or the length of an invalid run, which ends
where no valid character can go on. -/
inductive Head where
  | char (c : Char) (rest : Bytes)
  | invalid (rest : Bytes)
  deriving Repr, DecidableEq

/-- The least and the greatest second byte after a leading byte: overlong forms, surrogates and
values past the last code point have none. -/
def secondRange (lead : Nat) : Nat × Nat :=
  if lead = 0xE0 then (0xA0, 0xBF)
  else if lead = 0xED then (0x80, 0x9F)
  else if lead = 0xF0 then (0x90, 0xBF)
  else if lead = 0xF4 then (0x80, 0x8F)
  else (0x80, 0xBF)

def head (lead : UInt8) (rest : Bytes) : Head :=
  let l := lead.toNat
  let inSecond (b : UInt8) : Bool := (secondRange l).1 ≤ b.toNat && b.toNat ≤ (secondRange l).2
  if l < 0x80 then .char (Char.ofNat l) rest
  else if l < 0xC2 then .invalid rest
  else if l < 0xE0 then
    match rest with
    | b :: r => if isTail b then .char (Char.ofNat ((l - 0xC0) * 64 + (b.toNat - 0x80))) r else .invalid rest
    | [] => .invalid rest
  else if l < 0xF0 then
    match rest with
    | b :: c :: r =>
      if inSecond b then
        if isTail c then
          .char (Char.ofNat ((l - 0xE0) * 4096 + (b.toNat - 0x80) * 64 + (c.toNat - 0x80))) r
        else .invalid (c :: r)
      else .invalid rest
    | [b] => if inSecond b then .invalid [] else .invalid rest
    | [] => .invalid rest
  else if l < 0xF5 then
    match rest with
    | b :: c :: d :: r =>
      if inSecond b then
        if isTail c then
          if isTail d then
            .char (Char.ofNat ((l - 0xF0) * 262144 + (b.toNat - 0x80) * 4096 + (c.toNat - 0x80) * 64
              + (d.toNat - 0x80))) r
          else .invalid (d :: r)
        else .invalid (c :: d :: r)
      else .invalid rest
    | [b, c] =>
      if inSecond b then
        if isTail c then .invalid [] else .invalid [c]
      else .invalid rest
    | [b] => if inSecond b then .invalid [] else .invalid rest
    | [] => .invalid rest
  else .invalid rest

def Head.rest : Head → Bytes
  | .char _ rest => rest
  | .invalid rest => rest

theorem head_rest_length (lead : UInt8) (rest : Bytes) :
    (head lead rest).rest.length ≤ rest.length := by
  unfold head
  dsimp only
  repeat' split
  all_goals (simp only [Head.rest, List.length_cons, List.length_nil]; omega)

/-- The characters and the invalid runs of some bytes, in order. -/
def runs : Bytes → List (Except Bytes Char)
  | [] => []
  | lead :: rest =>
    let run : Except Bytes Char := match head lead rest with
      | .char c _ => .ok c
      | .invalid after => .error (lead :: rest.take (rest.length - after.length))
    run :: runs (head lead rest).rest
termination_by bytes => bytes.length
decreasing_by
  have shorter := head_rest_length lead rest
  simp only [List.length_cons]
  omega

def decode? (bytes : Bytes) : Option (List Char) :=
  (runs bytes).mapM Except.toOption

def decodeLossy (bytes : Bytes) : List Char :=
  (runs bytes).map fun run => run.toOption.getD '\uFFFD'

/-- The two parts of a text before and after its byte `n`; none inside a character and none past the
end. -/
def splitAt? : List Char → Nat → Option (List Char × List Char)
  | text, 0 => some ([], text)
  | [], _ + 1 => none
  | c :: text, n + 1 =>
    if width c ≤ n + 1 then
      (splitAt? text (n + 1 - width c)).map fun (before, after) => (c :: before, after)
    else none

end Utf8

end CompanionStyles
