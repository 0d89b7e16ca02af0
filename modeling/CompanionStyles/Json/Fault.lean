import CompanionStyles.Text.Utf8

/-!
Faults of JSON texts: what is wrong, and where reading stopped. Lines and columns count bytes, and a
column counts those in front of the place.
-/

namespace CompanionStyles.Json

inductive Cause where
  | endOfValue
  | endOfList
  | endOfObject
  | endOfString
  | expectedColon
  | expectedListComma
  | expectedObjectComma
  | expectedWord
  | expectedValue
  | escape
  | number
  | numberOutOfRange
  | keyNotString
  | loneSurrogate
  | endOfEscape
  | controlCharacter
  | trailingComma
  | trailingCharacters
  | wrongType (found expected : String)
  | duplicateField (name : String)
  deriving DecidableEq, Repr

def Cause.message : Cause → String
  | endOfValue => "EOF while parsing a value"
  | endOfList => "EOF while parsing a list"
  | endOfObject => "EOF while parsing an object"
  | endOfString => "EOF while parsing a string"
  | expectedColon => "expected `:`"
  | expectedListComma => "expected `,` or `]`"
  | expectedObjectComma => "expected `,` or `\x7d`"
  | expectedWord => "expected ident"
  | expectedValue => "expected value"
  | escape => "invalid escape"
  | number => "invalid number"
  | numberOutOfRange => "number out of range"
  | keyNotString => "key must be a string"
  | loneSurrogate => "lone leading surrogate in hex escape"
  | endOfEscape => "unexpected end of hex escape"
  | controlCharacter => "control character (\\u0000-\\u001F) found while parsing a string"
  | trailingComma => "trailing comma"
  | trailingCharacters => "trailing characters"
  | wrongType found expected => "invalid type: " ++ found ++ ", expected " ++ expected
  | duplicateField name => "duplicate field `" ++ name ++ "`"

/-- Where reading stopped: some bytes past the start of what was left. -/
structure Stop where
  cause : Cause
  rest : List Char
  past : Nat
  deriving DecidableEq, Repr

def stopAt (cause : Cause) (rest : List Char) : Stop :=
  ⟨cause, rest, 0⟩

def stopPast (cause : Cause) (rest : List Char) : Stop :=
  ⟨cause, rest, 1⟩

structure Fault where
  cause : Cause
  line : Nat
  column : Nat
  deriving DecidableEq, Repr

def Stop.fault (text : List Char) (stop : Stop) : Fault :=
  let index := Utf8.size text - Utf8.size stop.rest + stop.past
  let before := (Utf8.encode text).take index
  { cause := stop.cause
    line := 1 + before.count 0x0A
    column := (before.reverse.takeWhile (· ≠ 0x0A)).length }

def Fault.message (f : Fault) : String :=
  f.cause.message ++ " at line " ++ toString f.line ++ " column " ++ toString f.column

end CompanionStyles.Json
