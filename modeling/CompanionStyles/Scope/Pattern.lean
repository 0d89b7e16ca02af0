import CompanionStyles.Text.Utf8
import CompanionStyles.Text.Words

/-!
Patterns of scoped names: literal text and placeholders in square brackets. `parse` accepts a text
unless a bracket stays open or encloses no placeholder.
-/

namespace CompanionStyles.Scope

inductive Segment where
  | literal (text : List Char)
  /-- The name of the stylesheet's file. -/
  | fileName
  | localName
  | fileHash
  | contentHash
  deriving DecidableEq, Repr

abbrev Pattern := List Segment

/-- What is wrong with a pattern; the index counts bytes. -/
inductive PatternFault where
  | unknownPlaceholder (text : List Char) (index : Nat)
  | unclosed (index : Nat)
  deriving DecidableEq, Repr

def PatternFault.message : PatternFault → String
  | unknownPlaceholder text index =>
    "Error parsing CSS modules pattern: unknown placeholder \"" ++ String.ofList text
      ++ "\" at index " ++ toString index
  | unclosed index =>
    "Error parsing CSS modules pattern: unclosed brackets at index " ++ toString index

def Segment.named? (name : List Char) : Option Segment :=
  if name = "name".toList then some .fileName
  else if name = "local".toList then some .localName
  else if name = "hash".toList then some .fileHash
  else if name = "content-hash".toList then some .contentHash
  else none

namespace Pattern

/-- Reads a pattern that starts at an index. Each step takes at least one character. -/
def parseFrom : Nat → Nat → List Char → Except PatternFault Pattern
  | 0, _, _ => .ok []
  | _ + 1, _, [] => .ok []
  | fuel + 1, index, '[' :: rest =>
    match Text.splitFirst? ']' rest with
    | none => .error (.unclosed index)
    | some (name, rest) =>
      match Segment.named? name with
      | none => .error (.unknownPlaceholder ('[' :: name ++ [']']) index)
      | some segment => do
        return segment :: (← parseFrom fuel (index + Utf8.size name + 2) rest)
  | fuel + 1, index, c :: rest =>
    let text := (c :: rest).takeWhile (· != '[')
    do
      return .literal text
        :: (← parseFrom fuel (index + Utf8.size text) ((c :: rest).drop text.length))

def parse (text : List Char) : Except PatternFault Pattern :=
  parseFrom text.length 0 text

/-- Whether line names of grids can follow the pattern: they are told apart by how they end. -/
def endsWithLocal (p : Pattern) : Bool :=
  match p.getLast? with
  | some .localName => true
  | some _ => false
  | none => true

end Pattern

end CompanionStyles.Scope
