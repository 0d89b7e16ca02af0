import CompanionStyles.Digest.Base64
import CompanionStyles.Json.Writer
import CompanionStyles.Text.Units

/-!
Source maps of version 3 with one source. A mapping ties a place of the generated text to a place of
the source; written down, each number is the difference from the mapping before it.
-/

namespace CompanionStyles

/-- A line and a column in UTF-16 units, both from zero. They have no bound; counters of 32 bits are the same for
texts of less than 2³² bytes, which have fewer lines and columns than bytes, and only start again beyond. -/
structure Cursor where
  line : Nat
  column : Nat
  deriving DecidableEq, Repr, Inhabited

namespace Cursor

def start : Cursor :=
  ⟨0, 0⟩

/-- The place behind a character. -/
def step (place : Cursor) (c : Char) : Cursor :=
  if c = '\n' then ⟨place.line + 1, 0⟩ else ⟨place.line, place.column + Text.unitsOf c⟩

/-- The place behind a text. -/
def advance (place : Cursor) (text : List Char) : Cursor :=
  text.foldl step place

end Cursor

structure Mapping where
  generated : Cursor
  source : Cursor
  deriving DecidableEq, Repr

namespace SourceMap

/-- Groups of five bits, the lowest first; all but the last are marked. -/
def groups : Nat → Nat → List Nat
  | 0, _ => []
  | fuel + 1, n => if n < 32 then [n] else (n % 32 + 32) :: groups fuel (n / 32)

/-- A number with its sign in the lowest bit, in digits of base 64. -/
def encodeNumber (n : Int) : List Char :=
  let m := if n < 0 then 2 * n.natAbs + 1 else 2 * n.natAbs
  (groups (m + 1) m).map (Base64.digit Base64.standardDigits)

/-- The fields of a mapping as differences: the column, the source, the source's line and column. -/
def encodeMapping (column : Nat) (source : Cursor) (m : Mapping) : List Char :=
  encodeNumber (m.generated.column - column) ++ encodeNumber 0
    ++ encodeNumber (m.source.line - source.line) ++ encodeNumber (m.source.column - source.column)

/-- Mappings in order: a semicolon ends a line, and commas stand between mappings of one line. -/
def encodeFrom (first : Bool) (generated source : Cursor) : List Mapping → List Char
  | [] => []
  | m :: rest =>
    let lines := m.generated.line - generated.line
    let mark := if lines = 0 then (if first then [] else [',']) else List.replicate lines ';'
    let column := if lines = 0 then generated.column else 0
    mark ++ encodeMapping column source m ++ encodeFrom false m.generated m.source rest

def encode (mappings : List Mapping) : List Char :=
  encodeFrom true .start .start mappings

/-- The map of a text with the name and the text of its source. -/
def toJson (name source : List Char) (mappings : List Mapping) : List Char :=
  "\x7b\"version\":3,\"file\":".toList ++ Json.quote name ++ ",\"sources\":[".toList
    ++ Json.quote name ++ "],\"sourcesContent\":[".toList ++ Json.quote source
    ++ "],\"names\":[],\"mappings\":\"".toList ++ encode mappings ++ "\"\x7d".toList

end SourceMap

end CompanionStyles
