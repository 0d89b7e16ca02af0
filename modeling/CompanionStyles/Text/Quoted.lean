import CompanionStyles.Text.Hex

/-!
Double-quoted string literals of scripts, as they are written and as they are read.
-/

namespace CompanionStyles.Text

/-- A character as it is written between double quotes. -/
def quotedChar (c : Char) : List Char :=
  if c = '"' then ['\\', '"']
  else if c = '\\' then ['\\', '\\']
  else if c = '\n' then ['\\', 'n']
  else if c = '\r' then ['\\', 'r']
  else if c = '\t' then ['\\', 't']
  else if c = '\x00' then ['\\', '0']
  else if c = '\u2028' then "\\u2028".toList
  else if c = '\u2029' then "\\u2029".toList
  else [c]

/-- The literal of a text: quotes, backslashes, tabs, zeros and the ends of lines are escaped. -/
def quote (text : List Char) : List Char :=
  '"' :: text.flatMap quotedChar ++ ['"']

/-- A value that an escape writes: a code unit or a character, or nothing where a line is continued. -/
inductive Unit16 where
  | char (c : Char)
  | unit (n : Nat)
  deriving DecidableEq, Repr

/-- The value of a code point, which may be half of a surrogate pair. -/
def Unit16.ofCodePoint (n : Nat) : Unit16 :=
  if 0xD800 ≤ n ∧ n < 0xE000 then .unit n else .char (Char.ofNat n)

/-- The digits of an escape after `\u`, and what follows them. -/
def unicodeDigits (text : List Char) : List Char × List Char :=
  match text with
  | '\x7b' :: rest =>
    let digits := rest.takeWhile (· ≠ '\x7d')
    (digits, rest.drop (digits.length + 1))
  | _ => (text.take 4, text.drop 4)

/-- The octal digits of an escape, at most three and none beyond 255. -/
def octalDigits (text : List Char) : List Char :=
  let digits := text.takeWhile fun c => '0' ≤ c && c ≤ '7'
  match digits with
  | d :: _ => if d ≤ '3' then digits.take 3 else digits.take 2
  | [] => []

/-- What the characters between the quotes of a literal write. Each step takes at least one
character. -/
def units16 : Nat → List Char → List Unit16
  | 0, _ => []
  | fuel + 1, text =>
    match text with
    | [] => []
    | '\\' :: 'u' :: rest =>
      let (digits, rest) := unicodeDigits rest
      .ofCodePoint (digitsValue 16 digits) :: units16 fuel rest
    | '\\' :: 'x' :: rest => .ofCodePoint (digitsValue 16 (rest.take 2)) :: units16 fuel (rest.drop 2)
    | '\\' :: '\r' :: '\n' :: rest => units16 fuel rest
    | '\\' :: c :: rest =>
      if c = '\n' || c = '\r' || c = '\u2028' || c = '\u2029' then units16 fuel rest
      else if c = 'n' then .char '\n' :: units16 fuel rest
      else if c = 't' then .char '\t' :: units16 fuel rest
      else if c = 'r' then .char '\r' :: units16 fuel rest
      else if c = 'b' then .char '\x08' :: units16 fuel rest
      else if c = 'f' then .char '\x0c' :: units16 fuel rest
      else if c = 'v' then .char '\x0b' :: units16 fuel rest
      else if '0' ≤ c && c ≤ '7' then
        let digits := octalDigits (c :: rest)
        .ofCodePoint (digitsValue 8 digits) :: units16 fuel ((c :: rest).drop digits.length)
      else .char c :: units16 fuel rest
    | c :: rest => .char c :: units16 fuel rest

def joinSurrogates : List Unit16 → List Unit16
  | .unit high :: .unit low :: rest =>
    if high < 0xDC00 ∧ 0xDC00 ≤ low then
      .char (Char.ofNat (0x10000 + (high - 0xD800) * 0x400 + (low - 0xDC00))) :: joinSurrogates rest
    else .unit high :: joinSurrogates (.unit low :: rest)
  | unit :: rest => unit :: joinSurrogates rest
  | [] => []

/-- The text of units. Where a half of a surrogate pair stands alone, it is written as U+FFFD and its
four digits, and so then is U+FFFD itself. -/
def textOfUnits (units : List Unit16) : List Char :=
  let lone := units.any fun
    | .unit _ => true
    | .char _ => false
  units.flatMap fun
    | .unit n => '\uFFFD' :: hexDigits 4 n
    | .char c => if lone && c = '\uFFFD' then '\uFFFD' :: "fffd".toList else [c]

def literalUnits (literal : List Char) : List Unit16 :=
  joinSurrogates (units16 literal.length (literal.drop 1).dropLast)

/-- Whether no half of a surrogate pair stands alone in a literal. -/
def isPaired (literal : List Char) : Bool :=
  (literalUnits literal).all fun
    | .unit _ => false
    | .char _ => true

def unquote (literal : List Char) : List Char :=
  textOfUnits (literalUnits literal)

/-- The name that is written with or without escapes. -/
def nameOf (written : List Char) : List Char :=
  if written.contains '\\' then textOfUnits (units16 written.length written) else written

end CompanionStyles.Text
