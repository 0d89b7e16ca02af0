import CompanionStyles.Stylesheet.Escape
import CompanionStyles.Stylesheet.Fault

/-!
Phrases: text to print in which the names that belong to the stylesheet are marked. What a name is
called in the end is not known to those who read or lay out a stylesheet.
-/

namespace CompanionStyles.Stylesheet

/-- Where a name belongs. -/
inductive Origin where
  | sheet
  | everywhere
  | file (specifier : List Char)
  deriving DecidableEq, Repr

inductive Piece where
  | text (text : List Char)
  /-- The end of a line, and blanks at the start of the next one. -/
  | lineBreak (indent : Nat)
  /-- A class, an identity or another name of the stylesheet. -/
  | name (name : List Char)
  /-- Nothing to print: a name of the stylesheet is used. -/
  | mention (name : List Char)
  /-- A name of lines or areas in a grid. -/
  | gridName (name : List Char)
  /-- A name that starts with two dashes, which are left out here. -/
  | dashed (name : List Char) (origin : Origin)
  /-- Nothing to print: a class is composed of others. -/
  | compose (className : List Char) (names : List (List Char)) (origin : Origin)
  /-- Nothing can be printed from here on. -/
  | fault (fault : Fault)
  deriving DecidableEq, Repr

abbrev Phrase := List Piece

namespace Phrase

def ofChars (text : List Char) : Phrase :=
  [.text text]

def ofString (text : String) : Phrase :=
  [.text text.toList]

/-- A name as it is written where the stylesheet owns none. -/
def Piece.plain : Piece → Piece
  | .name name => .text (writeName name)
  | .gridName name => .text (writeName name)
  | .dashed name _ => .text ('-' :: '-' :: writeNameRest name)
  | .mention _ => .text []
  | piece => piece

def plain (p : Phrase) : Phrase :=
  p.map Piece.plain

/-- The phrase with its lines behind the first one moved to the right. -/
def indent (columns : Nat) (p : Phrase) : Phrase :=
  p.map fun
    | .lineBreak n => .lineBreak (n + columns)
    | piece => piece

def join (between : Phrase) : List Phrase → Phrase
  | [] => []
  | [p] => p
  | p :: ps => p ++ between ++ join between ps

def words (ps : List Phrase) : Phrase :=
  join (ofString " ") ps

def list (ps : List Phrase) : Phrase :=
  join (ofString ", ") ps

end Phrase

end CompanionStyles.Stylesheet
