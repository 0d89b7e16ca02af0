import CompanionStyles.Text.Hex
import CompanionStyles.Text.Identifier
import CompanionStyles.Component.Syntax

/-!
Reading leaves of a component's source. A reader looks at the text that is left and gives the kind of
the leaf at its front and its length in characters; how text is to be read depends on what stands
before it, which the caller knows.
-/

namespace CompanionStyles.Component.Leaf

def isLineBreak (c : Char) : Bool :=
  c == '\n' || c == '\r' || c == '\u2028' || c == '\u2029'

def isSpace (c : Char) : Bool :=
  let n := c.toNat
  n == 0x20 || n == 0x09 || n == 0x0B || n == 0x0C || n == 0x85 || n == 0xA0 || n == 0x1680
    || (0x2000 ≤ n && n ≤ 0x200B) || n == 0x202F || n == 0x205F || n == 0x3000 || n == 0xFEFF

def isHexDigit (c : Char) : Bool :=
  ('0' ≤ c && c ≤ '9') || ('a' ≤ c && c ≤ 'f') || ('A' ≤ c && c ≤ 'F')

def isDigit (c : Char) : Bool :=
  '0' ≤ c && c ≤ '9'

def isNameStart (c : Char) : Bool :=
  c == '$' || c == '_' || Text.isIdentifierStart c

def isNamePart (c : Char) : Bool :=
  c == '$' || c == '_' || Text.isIdentifierPart c

/-- The length of a line comment, up to the line break. -/
def lineCommentLength : List Char → Nat
  | [] => 0
  | c :: rest => if isLineBreak c then 0 else lineCommentLength rest + 1

/-- The length of a block comment after its opening, and whether it holds a line break; none if it
is not closed. -/
def blockCommentLength? : List Char → Option (Nat × Bool)
  | [] => none
  | '*' :: '/' :: _ => some (2, false)
  | c :: rest =>
    (blockCommentLength? rest).map fun (length, broken) => (length + 1, broken || isLineBreak c)

/-- The length of the blanks and comments in front, and whether a line ends among them. Each step
takes at least one character. -/
def blanks : Nat → List Char → Nat × Bool
  | 0, _ => (0, false)
  | fuel + 1, text =>
    match text with
    | [] => (0, false)
    | '/' :: '/' :: rest =>
      let length := lineCommentLength rest
      let (more, broken) := blanks fuel (rest.drop length)
      (length + 2 + more, broken)
    | '/' :: '*' :: rest =>
      match blockCommentLength? rest with
      | none => (0, false)
      | some (length, brokenInside) =>
        let (more, broken) := blanks fuel (rest.drop length)
        (length + 2 + more, broken || brokenInside)
    | c :: rest =>
      if isLineBreak c then
        let (more, _) := blanks fuel rest
        (more + 1, true)
      else if isSpace c then
        let (more, broken) := blanks fuel rest
        (more + 1, broken)
      else (0, false)

/-- The code point that digits after `\u` write, and the length of the digits: four of them, or any
number in braces. There is no code point beyond the last one. -/
def unicodeEscape? : List Char → Option (Nat × Nat)
  | '\x7b' :: rest =>
    let digits := rest.takeWhile isHexDigit
    let code := Text.digitsValue 16 digits
    if digits ≠ [] && code ≤ 0x10FFFF && (rest.drop digits.length).head? = some '\x7d' then
      some (code, digits.length + 2)
    else none
  | a :: b :: c :: d :: _ =>
    if [a, b, c, d].all isHexDigit then some (Text.digitsValue 16 [a, b, c, d], 4) else none
  | _ => none

/-- The length of the parts of a name in front; `first` tells whether the name starts here. -/
def namePartsLength (first : Bool) : Nat → List Char → Nat
  | 0, _ => 0
  | fuel + 1, text =>
    let fits (c : Char) : Bool := if first then isNameStart c else isNamePart c
    match text with
    | '\\' :: 'u' :: rest =>
      match unicodeEscape? rest with
      | some (code, length) =>
        if fits (Char.ofNat code) then
          length + 2 + namePartsLength false fuel (rest.drop length)
        else 0
      | none => 0
    | c :: rest => if fits c then namePartsLength false fuel rest + 1 else 0
    | [] => 0

/-- The length of the name in front, zero if there is none. -/
def nameLength (text : List Char) : Nat :=
  namePartsLength true text.length text

/-- Whether an escape is well formed; `rest` follows the backslash. -/
def isEscape (rest : List Char) : Bool :=
  match rest with
  | 'x' :: a :: b :: _ => isHexDigit a && isHexDigit b
  | 'x' :: _ => false
  | 'u' :: digits => (unicodeEscape? digits).isSome
  | [] => false
  | _ => true

/-- The length of a string after its opening quote; a line end needs a backslash. -/
def stringLength? (quote : Char) : List Char → Option Nat
  | [] => none
  | '\\' :: '\r' :: '\n' :: rest => (stringLength? quote rest).map (· + 3)
  | '\\' :: c :: rest =>
    if isEscape (c :: rest) then (stringLength? quote rest).map (· + 2) else none
  | c :: rest =>
    if c = quote then some 1
    else if c = '\n' || c = '\r' then none
    else (stringLength? quote rest).map (· + 1)

/-- The length of a piece of a template and whether a substitution follows it. -/
def templateLength? : List Char → Option (Nat × Bool)
  | [] => none
  | '\x60' :: _ => some (1, false)
  | '$' :: '\x7b' :: _ => some (2, true)
  | '\\' :: _ :: rest => (templateLength? rest).map fun (length, open_) => (length + 2, open_)
  | _ :: rest => (templateLength? rest).map fun (length, open_) => (length + 1, open_)

/-- Whether all escapes in the text of a template have a meaning. Digits have none, but for a zero
that no digit follows. -/
def hasMeaning : List Char → Bool
  | [] => true
  | '\\' :: c :: rest =>
    let digitFollows := (rest.head?.map isDigit).getD false
    isEscape (c :: rest) && (!isDigit c || (c = '0' && !digitFollows)) && hasMeaning rest
  | _ :: rest => hasMeaning rest

/-- The length of a regular expression after its first slash, with its flags; `inClass` tells whether
a bracket is open. -/
def regexLength? (inClass : Bool) : List Char → Option Nat
  | [] => none
  | '\\' :: c :: rest => if isLineBreak c then none else (regexLength? inClass rest).map (· + 2)
  | c :: rest =>
    if isLineBreak c then none
    else if c = '[' then (regexLength? true rest).map (· + 1)
    else if c = ']' then (regexLength? false rest).map (· + 1)
    else if c = '/' && !inClass then
      let flags := rest.takeWhile isNamePart
      if flags.all ("dgimsuvy".toList.contains ·) && flags.Nodup
          && !(flags.contains 'u' && flags.contains 'v') then some (flags.length + 1)
      else none
    else (regexLength? inClass rest).map (· + 1)

/-- The length of digits in front; single underscores may stand between them. `after` tells whether a
digit stands before. -/
def digitsFrom (isDigit : Char → Bool) (after : Bool) : List Char → Nat
  | [] => 0
  | c :: rest =>
    if isDigit c then digitsFrom isDigit true rest + 1
    else if after && c = '_' && (rest.head?.map isDigit).getD false then
      digitsFrom isDigit false rest + 1
    else 0

def digitsLength (isDigit : Char → Bool) (text : List Char) : Nat :=
  digitsFrom isDigit false text

/-- The length of an exponent, zero if there is none. -/
def exponentLength : List Char → Nat
  | e :: rest =>
    if e = 'e' || e = 'E' then
      match rest with
      | '+' :: rest' => let n := digitsLength isDigit rest'; if n = 0 then 0 else n + 2
      | '-' :: rest' => let n := digitsLength isDigit rest'; if n = 0 then 0 else n + 2
      | _ => let n := digitsLength isDigit rest; if n = 0 then 0 else n + 1
    else 0
  | [] => 0

/-- The length of a decimal number with its fraction and exponent, and whether it is whole. -/
def decimalLength (text : List Char) : Nat × Bool :=
  let whole := digitsLength isDigit text
  let rest := text.drop whole
  let fraction := match rest with
    | '.' :: rest' => digitsLength isDigit rest' + 1
    | _ => 0
  let exponent := exponentLength (rest.drop fraction)
  (whole + fraction + exponent, fraction + exponent == 0)

/-- The length of the number in front; none if it is not well formed. No name may follow. -/
def numberLength? (text : List Char) : Option Nat :=
  let bounded (n : Nat) : Option Nat :=
    match text.drop n with
    | c :: _ => if isNameStart c || isDigit c || c = '\\' then none else some n
    | [] => some n
  let based (isDigit : Char → Bool) (rest : List Char) : Option Nat :=
    let n := digitsLength isDigit rest
    if n = 0 then none
    else if (rest.drop n).head? = some 'n' then bounded (n + 3) else bounded (n + 2)
  match text with
  | '0' :: 'x' :: rest => based isHexDigit rest
  | '0' :: 'X' :: rest => based isHexDigit rest
  | '0' :: 'o' :: rest => based (fun c => '0' ≤ c && c ≤ '7') rest
  | '0' :: 'O' :: rest => based (fun c => '0' ≤ c && c ≤ '7') rest
  | '0' :: 'b' :: rest => based (fun c => c = '0' || c = '1') rest
  | '0' :: 'B' :: rest => based (fun c => c = '0' || c = '1') rest
  | '0' :: d :: _ =>
    if isDigit d then
      let digits := (text.takeWhile isDigit).length
      if (text.take digits).any (fun c => c = '8' || c = '9') then bounded (decimalLength text).1
      else bounded digits
    else if d = '_' then none
    else
      let (n, whole) := decimalLength text
      if whole && (text.drop n).head? = some 'n' then bounded (n + 1) else bounded n
  | _ =>
    let (n, whole) := decimalLength text
    if whole && (text.drop n).head? = some 'n' then bounded (n + 1) else bounded n

/-- The marks, longer ones before those they start with. A greater-than sign is a mark by itself, as
it may close type arguments. -/
def marks : List (List Char) :=
  ["...", "<<=", "**=", "===", "!==", "&&=", "||=", "??=", "=>", "==", "!=", "<=", "<<", "++", "--",
    "+=", "-=", "*=", "/=", "%=", "&=", "|=", "^=", "&&", "||", "??", "?.", "**", "\x7b", "\x7d", "(",
    ")", "[", "]", ";", ",", "<", ">", "+", "-", "*", "/", "%", "&", "|", "^", "!", "~", "?", ":", "=",
    "@", "."].map String.toList

def startsWith (front text : List Char) : Bool :=
  front.isPrefixOf text

def markLength (text : List Char) : Nat :=
  match text with
  | '?' :: '.' :: d :: _ => if isDigit d then 1 else 2
  | _ => ((marks.find? (startsWith · text)).map List.length).getD 0

/-- The leaf in front of text that no blank precedes. -/
def read (text : List Char) : LeafKind × Nat :=
  match text with
  | [] => (.finish, 0)
  | c :: rest =>
    if isNameStart c || c = '\\' then
      let n := nameLength text
      if n = 0 then (.invalid, 1) else (.name, n)
    else if isDigit c || (c = '.' && (rest.head?.map isDigit).getD false) then
      match numberLength? text with
      | some n => (.number, n)
      | none => (.invalid, 1)
    else if c = '"' || c = '\'' then
      match stringLength? c rest with
      | some n => (.string, n + 1)
      | none => (.invalid, 1)
    else if c = '\x60' then
      match templateLength? rest with
      | some (n, false) => (.template, n + 1)
      | some (n, true) => (.templateHead, n + 1)
      | none => (.invalid, 1)
    else if c = '#' then
      let n := nameLength rest
      if n = 0 then (.invalid, 1) else (.privateName, n + 1)
    else if c = '/' && rest.head? = some '*' then (.invalid, 1)
    else
      match markLength text with
      | 0 => (.invalid, 1)
      | n => (.mark, n)

/-- A regular expression, where an expression starts with a slash. -/
def readRegex (text : List Char) : LeafKind × Nat :=
  match regexLength? false (text.drop 1) with
  | some n => (.regex, n + 1)
  | none => (.invalid, 1)

/-- The piece of a template that goes on after a substitution. -/
def readTemplateRest (text : List Char) : LeafKind × Nat :=
  match templateLength? (text.drop 1) with
  | some (n, false) => (.templateTail, n + 1)
  | some (n, true) => (.templateMiddle, n + 1)
  | none => (.invalid, 1)

/-- A name in markup, which may hold hyphens behind its start. -/
def readMarkupName (text : List Char) : LeafKind × Nat :=
  match nameLength text with
  | 0 => if text = [] then (.finish, 0) else (.invalid, 1)
  | n => (.markupName, n + ((text.drop n).takeWhile fun c => isNamePart c || c = '-').length)

/-- A string in markup, which ends at the next quote of its kind. -/
def readMarkupString (text : List Char) : LeafKind × Nat :=
  match text with
  | quote :: rest =>
    if quote = '"' || quote = '\'' then
      let n := (rest.takeWhile (· ≠ quote)).length
      if n < rest.length then (.markupString, n + 2) else (.invalid, 1)
    else (.invalid, 1)
  | [] => (.finish, 0)

/-- What stands between tags: text, or the mark that starts a tag or an expression. -/
def readMarkupText (text : List Char) : LeafKind × Nat :=
  match text with
  | [] => (.finish, 0)
  | c :: _ =>
    if c = '<' || c = '\x7b' then (.mark, 1)
    else if c = '>' || c = '\x7d' then (.invalid, 1)
    else
      (.markupText,
        (text.takeWhile fun c => c ≠ '<' && c ≠ '\x7b' && c ≠ '>' && c ≠ '\x7d').length)

/-- The first character alone, a part of a longer mark. -/
def readMarkStart (text : List Char) : LeafKind × Nat :=
  match text with
  | [] => (.finish, 0)
  | _ => (.mark, 1)

/-- The operator that starts with greater-than signs. -/
def readGreater (text : List Char) : LeafKind × Nat :=
  match [">>>=", ">>>", ">>=", ">>", ">="].map String.toList |>.find? (startsWith · text) with
  | some operator => (.mark, operator.length)
  | none => read text

/-- The ways in which the front of a text is read. -/
inductive Mode where
  | code
  | regex
  | templateRest
  | markupName
  | markupString
  | markupText
  | markStart
  | greater
  deriving DecidableEq, Repr

def Mode.read : Mode → List Char → LeafKind × Nat
  | .code => Leaf.read
  | .regex => readRegex
  | .templateRest => readTemplateRest
  | .markupName => readMarkupName
  | .markupString => readMarkupString
  | .markupText => readMarkupText
  | .markStart => readMarkStart
  | .greater => readGreater

/-- The leaf is a blank, or what is read in front of some text. -/
def Found (leaf : Leaf) : Prop :=
  leaf.kind = .blank
    ∨ ∃ (mode : Mode) (text : List Char), (mode.read text).1 = leaf.kind
      ∧ leaf.text = text.take (mode.read text).2

/-- Whether a text starts with a character from which on a source is not always read in one way: a
slash can start a regular expression, a brace can go on with a template, a tag can start markup. -/
def isTurn : List Char → Bool
  | [] => false
  | c :: _ => c = '<' || c = '>' || c = '/' || c = '\x7d' || c = '#'

/-- The leaf is what stands in front of a text, whatever was read before it. -/
def Scanned (leaf : Leaf) (text : List Char) : Prop :=
  (leaf.kind = .blank ∧ leaf.text = text.take (blanks text.length text).1)
    ∨ ((read text).1 = leaf.kind ∧ leaf.text = text.take (read text).2)

/-- Leaves with `rest` behind them stand, up to the first turn, where a scan of the text finds them. -/
def Plain : List Leaf → List Char → Prop
  | [], _ => True
  | leaf :: leaves, rest =>
    isTurn leaf.text = true
      ∨ (Scanned leaf (leaf.text ++ (leaves.flatMap Leaf.text ++ rest)) ∧ Plain leaves rest)

theorem isTurn_append {text : List Char} (solid : text ≠ []) (rest : List Char) :
    isTurn (text ++ rest) = isTurn text := by
  cases text with
  | nil => exact absurd rfl solid
  | cons c text => rfl

theorem Plain.of_turn {leaves : List Leaf} {rest : List Char} (plain : Plain leaves rest)
    (turn : ∃ leaf ∈ leaves, isTurn leaf.text = true) (more : List Leaf) (rest' : List Char)
    (same : more.flatMap Leaf.text ++ rest' = rest) : Plain (leaves ++ more) rest' := by
  induction leaves with
  | nil => simp at turn
  | cons leaf leaves ih =>
    rw [List.cons_append]
    rcases plain with here | ⟨scanned, plain⟩
    · exact Or.inl here
    · by_cases here : isTurn leaf.text = true
      · exact Or.inl here
      · have later : ∃ leaf ∈ leaves, isTurn leaf.text = true := by
          obtain ⟨other, member, turn⟩ := turn
          rcases List.mem_cons.mp member with rfl | member
          · exact absurd turn here
          · exact ⟨other, member, turn⟩
        refine Or.inr ⟨?_, ih plain later⟩
        simpa only [List.flatMap_append, List.append_assoc, same] using scanned

/-- One more leaf keeps leaves plain if it is a turn, follows one, or is what a scan finds. -/
theorem Plain.append {leaves : List Leaf} {leaf : Leaf} {rest : List Char}
    (plain : Plain leaves (leaf.text ++ rest))
    (next : (∃ leaf ∈ leaves, isTurn leaf.text = true) ∨ isTurn leaf.text = true
      ∨ Scanned leaf (leaf.text ++ rest)) : Plain (leaves ++ [leaf]) rest := by
  rcases next with turn | next
  · exact plain.of_turn turn [leaf] rest (by simp)
  · induction leaves with
    | nil =>
      rcases next with here | scanned
      · exact Or.inl here
      · exact Or.inr ⟨by simpa using scanned, trivial⟩
    | cons first leaves ih =>
      rw [List.cons_append]
      rcases plain with here | ⟨scanned, plain⟩
      · exact Or.inl here
      · refine Or.inr ⟨?_, ih plain⟩
        simpa only [List.flatMap_append, List.flatMap_cons, List.flatMap_nil, List.append_nil,
          List.append_assoc] using scanned

end CompanionStyles.Component.Leaf
