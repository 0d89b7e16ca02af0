import CompanionStyles.Stylesheet.Token
import CompanionStyles.Text.Units

/-!
Scanning: the tokens of a stylesheet, each with the place where it starts.
-/

namespace CompanionStyles.Stylesheet.Scanner

def replacement : Char :=
  '\ufffd'

def isNewline (c : Char) : Bool :=
  c == '\n' || c == '\r' || c == '\x0c'

def isBlank (c : Char) : Bool :=
  c == ' ' || c == '\t' || isNewline c

def isDigit (c : Char) : Bool :=
  '0' ≤ c && c ≤ '9'

def isLetter (c : Char) : Bool :=
  ('a' ≤ c && c ≤ 'z') || ('A' ≤ c && c ≤ 'Z')

/-- Characters that may start a name without an escape; a zero is replaced. -/
def isNameStart (c : Char) : Bool :=
  isLetter c || c == '_' || c == '\x00' || 0x80 ≤ c.toNat

def isNamePart (c : Char) : Bool :=
  isNameStart c || isDigit c || c == '-'

/-- Whether no line ends right behind a backslash, so that it escapes something. -/
def escapes : List Char → Bool
  | [] => true
  | c :: _ => !isNewline c

def startsName : List Char → Bool
  | [] => false
  | '\\' :: rest => escapes rest
  | '-' :: '\\' :: _ => true
  | '-' :: c :: _ => isNameStart c || c == '-'
  | c :: _ => isNameStart c

def dropNewline : List Char → List Char
  | '\r' :: '\n' :: rest => rest
  | c :: rest => if isNewline c then rest else c :: rest
  | [] => []

/-- The character of a code point, where none is zero, half of a pair or beyond the last. -/
def charOf (n : Nat) : Char :=
  if n = 0 ∨ 0x10FFFF < n ∨ (0xD800 ≤ n ∧ n < 0xE000) then replacement else Char.ofNat n

/-- The character that an escape writes, and what follows the escape. -/
def escape : List Char → Char × List Char
  | [] => (replacement, [])
  | c :: rest =>
    let digits := ((c :: rest).take 6).takeWhile fun d => (Text.hexValue? d).isSome
    if digits = [] then (if c = '\x00' then replacement else c, rest)
    else
      let rest := (c :: rest).drop digits.length
      let rest := match rest with
        | [] => []
        | d :: more => if d = ' ' ∨ d = '\t' then more else dropNewline (d :: more)
      (charOf (Text.digitsValue 16 digits), rest)

/-- The characters of a name, as far as it goes, and the rest. -/
def name : Nat → List Char → List Char × List Char
  | 0, text => ([], text)
  | fuel + 1, text =>
    match text with
    | [] => ([], [])
    | '\\' :: rest =>
      if escapes rest then
        let (c, rest) := escape rest
        let (more, rest) := name fuel rest
        (c :: more, rest)
      else ([], '\\' :: rest)
    | c :: rest =>
      if isNamePart c then
        let (more, rest) := name fuel rest
        ((if c = '\x00' then replacement else c) :: more, rest)
      else ([], c :: rest)

/-- The text of a string up to its quote, whether it ends well, and the rest. An end of line inside
it is an error, after a backslash it counts for nothing. -/
def stringBody (quote : Char) : Nat → List Char → List Char × Bool × List Char
  | 0, text => ([], true, text)
  | fuel + 1, text =>
    match text with
    | [] => ([], true, [])
    | '\\' :: rest =>
      match rest with
      | [] => ([], true, [])
      | d :: more =>
        if isNewline d then stringBody quote fuel (dropNewline (d :: more))
        else
          let (c, rest) := escape (d :: more)
          let (text, good, rest) := stringBody quote fuel rest
          (c :: text, good, rest)
    | c :: rest =>
      if c = quote then ([], true, rest)
      else if isNewline c then ([], false, c :: rest)
      else
        let (text, good, rest) := stringBody quote fuel rest
        ((if c = '\x00' then replacement else c) :: text, good, rest)

/-- What is left of an address that is none: up to its bracket, escapes passed over. -/
def badUrlRest : Nat → List Char → List Char
  | 0, text => text
  | fuel + 1, text =>
    match text with
    | [] => []
    | ')' :: rest => rest
    | '\\' :: _ :: rest => badUrlRest fuel rest
    | _ :: rest => badUrlRest fuel rest

/-- Whether a character can stand in no address without an escape. -/
def isForbiddenInUrl (c : Char) : Bool :=
  let n := c.toNat
  c == '"' || c == '\'' || c == '(' || (0x01 ≤ n && n ≤ 0x08) || n == 0x0B
    || (0x0E ≤ n && n ≤ 0x1F) || n == 0x7F

/-- The text of an address without quotes and the rest behind its bracket, or no text. -/
def urlBody : Nat → List Char → Option (List Char) × List Char
  | 0, text => (none, text)
  | fuel + 1, text =>
    match text with
    | [] => (some [], [])
    | ')' :: rest => (some [], rest)
    | '\\' :: rest =>
      if escapes rest then
        let (c, rest) := escape rest
        let (text, rest) := urlBody fuel rest
        (text.map (c :: ·), rest)
      else (none, badUrlRest fuel rest)
    | c :: rest =>
      if isBlank c then
        match rest.dropWhile isBlank with
        | [] => (some [], [])
        | ')' :: rest => (some [], rest)
        | rest => (none, badUrlRest fuel rest)
      else if isForbiddenInUrl c then (none, badUrlRest fuel (c :: rest))
      else
        let (text, rest) := urlBody fuel rest
        (text.map ((if c = '\x00' then replacement else c) :: ·), rest)

/-- The address after `url(`, unless a quote follows and the function is like any other. -/
def url (text : List Char) : Option (Token × List Char) :=
  match text.dropWhile isBlank with
  | '"' :: _ => none
  | '\'' :: _ => none
  | body =>
    let (found, rest) := urlBody (body.length + 1) body
    match found with
    | some address => some (.url address, rest)
    | none => some (.badUrl (body.take (body.length - rest.length - 1)), rest)

def sameWord (a : List Char) (b : String) : Bool :=
  a.map Char.toLower == b.toList

/-- A name, or the function or address that it opens. -/
def named (text : List Char) : Token × List Char :=
  let (n, rest) := name (text.length + 1) text
  match rest with
  | '(' :: inner =>
    if sameWord n "url" then (url inner).getD (.function n, inner) else (.function n, inner)
  | rest => (.ident n, rest)

def valueOf (digits : List Char) : Nat :=
  Text.digitsValue 10 digits

def digitValue (c : Char) : Float :=
  .ofNat (Text.digitsValue 10 [c])

/-- The value of digits in front of a point, rounded at each of them. -/
def wholePart (digits : List Char) : Float :=
  digits.foldl (fun value c => value * 10 + digitValue c) 0

/-- The value of digits behind a point, rounded at each of them. -/
def fractionPart (digits : List Char) : Float :=
  (digits.foldl (fun (value, factor) c => (value + digitValue c * factor, factor * 0.1)) (0, 0.1)).1

def power (text : List Char) : Option (Float × List Char) :=
  match text with
  | e :: rest =>
    if e = 'e' ∨ e = 'E' then
      let (negative, digits) := match rest with
        | '-' :: more => (true, more)
        | '+' :: more => (false, more)
        | more => (false, more)
      match digits.takeWhile isDigit with
      | [] => none
      | ds => some (if negative then -wholePart ds else wholePart ds, digits.drop ds.length)
    else none
  | [] => none

/-- The greatest whole number that a numeral can be; the lowest is one further from zero. -/
def greatestWhole : Int :=
  2147483647

/-- A number with what makes it a percentage or a dimension. -/
def numeric (text : List Char) : Token × List Char :=
  let (signed, negative, text) := match text with
    | '-' :: rest => (true, true, rest)
    | '+' :: rest => (true, false, rest)
    | rest => (false, false, rest)
  let front := text.takeWhile isDigit
  let text := text.drop front.length
  let (fraction, text) := match text with
    | '.' :: rest =>
      match rest.takeWhile isDigit with
      | [] => ([], '.' :: rest)
      | ds => (ds, rest.drop ds.length)
    | rest => ([], rest)
  let size := wholePart front + fractionPart fraction
  let value := if negative then -size else size
  let (value, hasPower, text) := match power text with
    | some (e, rest) => (value * (10 : Float).pow e, true, rest)
    | none => (value, false, text)
  let whole : Option Int :=
    if fraction.isEmpty && !hasPower then
      let n : Int := valueOf front
      some (max (-greatestWhole - 1) (min greatestWhole (if negative then -n else n)))
    else none
  match text with
  | '%' :: rest => (.percentage ⟨(value / 100).toFloat32, signed, whole⟩, rest)
  | rest =>
    let n : Numeral := ⟨value.toFloat32, signed, whole⟩
    if startsName rest then
      let (unit, rest) := name (rest.length + 1) rest
      (.dimension n unit, rest)
    else (.number n, rest)

/-- Whether a number starts here, behind a sign if there is one. -/
def startsNumber : List Char → Bool
  | '.' :: c :: _ => isDigit c
  | c :: _ => isDigit c
  | [] => false

def comment : List Char → List Char × List Char
  | [] => ([], [])
  | '*' :: '/' :: rest => ([], rest)
  | c :: rest =>
    let (text, rest) := comment rest
    (c :: text, rest)

def single (c : Char) : Token :=
  match c with
  | ':' => .colon
  | ';' => .semicolon
  | ',' => .comma
  | '(' => .opening .round
  | ')' => .closing .round
  | '[' => .opening .square
  | ']' => .closing .square
  | '\x7b' => .opening .curly
  | '\x7d' => .closing .curly
  | c => .delim c

/-- The first token of a text that starts with `c`, and the rest. -/
def token (c : Char) (rest : List Char) : Token × List Char :=
  let text := c :: rest
  if isBlank c then (.blank (text.takeWhile isBlank), text.dropWhile isBlank)
  else if c = '"' ∨ c = '\'' then
    let (body, good, rest) := stringBody c (rest.length + 1) rest
    (if good then .string body else .badString body, rest)
  else if isDigit c then numeric text
  else if c = '-' ∧ startsNumber rest then numeric text
  else if c = '+' ∧ startsNumber rest then numeric text
  else if c = '.' ∧ startsNumber text then numeric text
  else
    match text with
    | '#' :: rest =>
      if startsName rest then
        let (n, rest) := name (rest.length + 1) rest
        (.idHash n, rest)
      else
        match rest with
        | d :: _ =>
          if isDigit d ∨ d = '-' then
            let (n, rest) := name (rest.length + 1) rest
            (.hash n, rest)
          else (.delim '#', rest)
        | [] => (.delim '#', [])
    | '@' :: rest =>
      if startsName rest then
        let (n, rest) := name (rest.length + 1) rest
        (.atKeyword n, rest)
      else (.delim '@', rest)
    | '/' :: '*' :: rest =>
      let (text, rest) := comment rest
      (.comment text, rest)
    | '-' :: '-' :: '>' :: rest => (.commentClose, rest)
    | '<' :: '!' :: '-' :: '-' :: rest => (.commentOpen, rest)
    | '~' :: '=' :: rest => (.includeMatch, rest)
    | '|' :: '=' :: rest => (.dashMatch, rest)
    | '^' :: '=' :: rest => (.prefixMatch, rest)
    | '$' :: '=' :: rest => (.suffixMatch, rest)
    | '*' :: '=' :: rest => (.substringMatch, rest)
    | text => if startsName text then named text else (single c, rest)

/-- The place after some text that starts at a place. -/
def advance (place : Place) : List Char → Place
  | [] => place
  | '\r' :: '\n' :: rest => advance ⟨place.line + 1, 1⟩ rest
  | c :: rest =>
    if isNewline c then advance ⟨place.line + 1, 1⟩ rest
    else advance ⟨place.line, place.column + Text.unitsOf c⟩ rest

/-- A token with the place where it starts and the text that it was read from. -/
structure Lexeme where
  place : Place
  raw : List Char
  token : Token
  deriving Repr

/-- The lexemes of a text, and the place where it ends. Each step takes at least one character. -/
def lexemes : Nat → Place → List Char → List Lexeme × Place
  | 0, place, _ => ([], place)
  | fuel + 1, place, text =>
    match text with
    | [] => ([], place)
    | c :: more =>
      let (t, rest) := token c more
      let raw := text.take (text.length - rest.length)
      let (others, last) := lexemes fuel (advance place raw) rest
      (⟨place, raw, t⟩ :: others, last)

end CompanionStyles.Stylesheet.Scanner
