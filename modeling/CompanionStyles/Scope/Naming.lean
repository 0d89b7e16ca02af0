import CompanionStyles.Digest.Base64
import CompanionStyles.Digest.SipHash
import CompanionStyles.Path.Basic
import CompanionStyles.Scope.Pattern
import CompanionStyles.Stylesheet.Escape

/-!
Scoped names: what a pattern makes of the local names of one stylesheet.
-/

namespace CompanionStyles.Scope

/-- The short text that stands for a longer one: the low half of its hash in six digits of base 64. -/
def shortHash (text : List Char) : List Char :=
  let h := SipHash.hash (Utf8.encode text ++ [0xFF])
  let bytes := [0, 8, 16, 24].map fun shift : UInt64 => (h >>> shift).toUInt8
  Base64.encode Base64.nameDigits bytes

/-- A hash at the start of names does not begin with a digit. -/
def leadingHash (text : List Char) : List Char :=
  match shortHash text with
  | c :: rest => if c.isDigit then '_' :: c :: rest else c :: rest
  | [] => []

/-- What the placeholders of a pattern stand for in a stylesheet. -/
structure Naming where
  pattern : Pattern
  fileName : List Char
  fileHash : List Char
  contentHash : List Char
  /-- Whether names that start with two dashes are scoped. -/
  dashed : Bool
  deriving Repr

namespace Naming

/-- The naming for the stylesheet at a path. Dots in the name of its file become dashes. -/
def ofSheet (pattern : Pattern) (dashed : Bool) (path : List Char) (content : List Char) : Naming :=
  let stem := ((Path.ofText path).fileStem.getD [])
  let name := (Utf8.decodeLossy stem).map fun c => if c = '.' then '-' else c
  let first := pattern.head?
  { pattern := pattern
    fileName := name
    fileHash := if first = some .fileHash then leadingHash path else shortHash path
    contentHash := if first = some .contentHash then leadingHash content else shortHash content
    dashed := dashed }

def segmentText (n : Naming) (localName : List Char) : Segment → List Char
  | .literal text => text
  | .fileName => n.fileName
  | .localName => localName
  | .fileHash => n.fileHash
  | .contentHash => n.contentHash

def scope (n : Naming) (localName : List Char) : List Char :=
  n.pattern.flatMap (n.segmentText localName)

/-- The scoped name as a stylesheet writes it: every segment is escaped on its own, and only the first
one as the start of a name. -/
def written (n : Naming) (localName : List Char) : List Char :=
  match n.pattern with
  | [] => []
  | first :: rest =>
    Stylesheet.writeName (n.segmentText localName first)
      ++ rest.flatMap fun s => Stylesheet.writeNameRest (n.segmentText localName s)

/-- The scoped form of a dashed name, behind its dashes, as a stylesheet writes it. -/
def writtenDashed (n : Naming) (localName : List Char) : List Char :=
  n.pattern.flatMap fun s => Stylesheet.writeNameRest (n.segmentText localName s)

end Naming

end CompanionStyles.Scope
