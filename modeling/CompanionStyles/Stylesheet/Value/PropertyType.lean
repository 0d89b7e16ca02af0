import CompanionStyles.Stylesheet.Value.Transform

/-!
The types of custom properties: which values a property may start with, as `@property` says it.
-/

namespace CompanionStyles.Stylesheet.Value

open Reader

/-- How often a value may be given. -/
inductive Repetition where
  | once
  | withBlanks
  | withCommas
  deriving DecidableEq, Repr

/-- What a value may be: of a known type, or a word. -/
inductive ValueKind where
  | data (name : String)
  | word (name : List Char)
  deriving DecidableEq, Repr

structure TypeChoice where
  kind : ValueKind
  repetition : Repetition
  deriving DecidableEq, Repr

/-- The type of a custom property. -/
inductive PropertyType where
  | anything
  | choices (choices : List TypeChoice)
  deriving DecidableEq, Repr

def dataTypes : List String :=
  ["length", "number", "percentage", "length-percentage", "string", "color", "image", "url", "integer",
   "angle", "time", "resolution", "transform-function", "transform-list", "custom-ident"]

def isSpace (c : Char) : Bool :=
  c == ' ' || c == '\t'

def isWordStart (c : Char) : Bool :=
  c.isAlpha || c == '_' || c.toNat ≥ 0x80

def isWordPart (c : Char) : Bool :=
  isWordStart c || c.isDigit || c == '-'

/-- The kind of value at the start of a text, and the rest of the text. -/
def valueKind? : List Char → Option (ValueKind × List Char)
  | '<' :: rest => do
    let name := rest.takeWhile (· != '>')
    let known ← dataTypes.find? (isWord name ·)
    match rest.drop name.length with
    | _ :: rest => some (.data known, rest)
    | [] => none
  | c :: rest =>
    if isWordStart c then
      let more := rest.takeWhile isWordPart
      some (.word (c :: more), rest.drop more.length)
    else none
  | [] => none

/-- The sign behind the name of a type; a list of transforms has none. -/
def repetition (kind : ValueKind) (text : List Char) : Repetition × List Char :=
  if kind = .data "transform-list" then (.once, text)
  else
    match text with
    | '+' :: rest => (.withBlanks, rest)
    | '#' :: rest => (.withCommas, rest)
    | text => (.once, text)

/-- The choices that a text writes, with bars between them. Each takes a character. -/
def typeChoices? : Nat → List Char → Option (List TypeChoice)
  | 0, _ => none
  | fuel + 1, text => do
    let (kind, rest) ← valueKind? (text.dropWhile isSpace)
    let (times, rest) := repetition kind rest
    match rest.dropWhile isSpace with
    | [] => some [⟨kind, times⟩]
    | '|' :: rest => (typeChoices? fuel rest).map (⟨kind, times⟩ :: ·)
    | _ => none

def PropertyType.ofText? (text : List Char) : Option PropertyType :=
  let trimmed := ((text.dropWhile isSpace).reverse.dropWhile isSpace).reverse
  if trimmed = ['*'] then some .anything
  else (typeChoices? trimmed.length trimmed).map .choices

def TypeChoice.text (c : TypeChoice) : List Char :=
  (match c.kind with
    | .data name => '<' :: name.toList ++ ['>']
    | .word name => name) ++ match c.repetition with
    | .once => []
    | .withBlanks => ['+']
    | .withCommas => ['#']

def PropertyType.text : PropertyType → List Char
  | anything => "\"*\"".toList
  | choices cs => '"' :: " | ".toList.intercalate (cs.map TypeChoice.text) ++ ['"']

def kindReader : ValueKind → Reader Phrase
  | .word name => do
    let place ← here
    let given ← ident
    if given = name then return Phrase.ofChars (writeName name)
    else failAt place (.unexpected (.ident given))
  | .data name =>
    match name with
    | "length" => Calc.phrase <$> length
    | "number" => numberPhrase <$> number
    | "percentage" => quantityPhrase <$> percentage
    | "length-percentage" => Calc.phrase <$> lengthPercentage
    | "string" => (fun s => Phrase.ofChars (writeString s)) <$> string
    | "color" => Color.phrase <$> color
    | "image" => image
    | "url" => urlPhrase
    | "integer" => integerPhrase
    | "angle" => quantityPhrase <$> angle
    | "time" => quantityPhrase <$> time
    | "resolution" => resolution
    | "transform-function" => transformFunction
    | "transform-list" => transform
    | _ => do return [.name (← customName)]

/-- Reads values to the end, with commas or with nothing between them. -/
def repeated (commas : Bool) (read : Reader Phrase) : Nat → Reader (List Phrase)
  | 0 => pure []
  | fuel + 1 => do
    let p ← read
    if (← get).nodes.all isGap then return [p]
    if commas then comma
    return p :: (← repeated commas read fuel)

def TypeChoice.reader (c : TypeChoice) : Reader Phrase := do
  let read := kindReader c.kind
  let fuel := (← size) + 1
  match c.repetition with
  | .once => read
  | .withBlanks => Phrase.words <$> repeated false read fuel
  | .withCommas => Phrase.list <$> repeated true read fuel

/-- Reads the first value of a property; what follows it counts for nothing. -/
def PropertyType.reader : PropertyType → Reader Phrase
  | anything => loose false
  | choices cs => do
    for c in cs do
      if let some p ← attempt c.reader then return p
    let n ← next
    failAt (← behind n) (.unexpected n.head)

end CompanionStyles.Stylesheet.Value
