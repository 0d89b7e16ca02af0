import CompanionStyles.Text.Hex

/-!
How names and strings are written in a stylesheet, so that they are read back.
-/

namespace CompanionStyles.Stylesheet

/-- An escape by the code of a character; the blank ends its digits. -/
def escapeByCode (c : Char) : List Char :=
  '\\' :: Text.hex c.toNat ++ [' ']

def isControl (c : Char) : Bool :=
  (0x01 ≤ c.toNat && c.toNat < 0x20) || c.toNat == 0x7F

/-- Whether a character stands for itself anywhere but at the start of a name. -/
def isPlainInName (c : Char) : Bool :=
  c.isAlphanum || c == '_' || c == '-' || 0x80 ≤ c.toNat

def escapeInName (c : Char) : List Char :=
  if isPlainInName c then [c]
  else if c = '\x00' then ['\ufffd']
  else if isControl c then escapeByCode c
  else ['\\', c]

def writeNameRest (name : List Char) : List Char :=
  name.flatMap escapeInName

/-- A digit at the start is escaped, and a dash that is all. -/
def writeNameStart : List Char → List Char
  | [] => []
  | c :: rest =>
    if c.isDigit then escapeByCode c ++ writeNameRest rest else writeNameRest (c :: rest)

def writeName : List Char → List Char
  | '-' :: '-' :: rest => '-' :: '-' :: writeNameRest rest
  | ['-'] => ['\\', '-']
  | '-' :: rest => '-' :: writeNameStart rest
  | name => writeNameStart name

def escapeInString (c : Char) : List Char :=
  if c = '"' ∨ c = '\\' then ['\\', c]
  else if c = '\x00' then ['\ufffd']
  else if isControl c then escapeByCode c
  else [c]

def writeString (text : List Char) : List Char :=
  '"' :: text.flatMap escapeInString ++ ['"']

end CompanionStyles.Stylesheet
