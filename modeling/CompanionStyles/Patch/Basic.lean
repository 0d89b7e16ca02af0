import CompanionStyles.Patch.SourceMap
import CompanionStyles.Text.Utf8
import CompanionStyles.Trace

/-!
Patches: edits of an original text by byte offsets. Edits are applied in one pass from left to right;
one that starts before the last applied edit has ended is left out. All text outside of the applied
edits is copied, and a source map ties it to its place in the original.
-/

namespace CompanionStyles

/-- A text to stand in place of the bytes from `start` up to `stop`. -/
structure Edit where
  start : Nat
  stop : Nat
  text : List Char
  deriving DecidableEq, Repr

/-- An original text, what is to stand in front of it, and edits in the order in which they came. -/
structure Patch where
  original : List Char
  front : List Char
  edits : List Edit
  deriving DecidableEq, Repr

/-- A patched text and its source map. -/
structure PatchOutput where
  code : String
  map : String
  deriving DecidableEq, Repr

/-- The bytes of a text from `start` up to `stop`; none if these are no places between characters. -/
def slice? (text : List Char) (start stop : Nat) : Option (List Char) :=
  if start ≤ stop then
    match Utf8.splitAt? text start with
    | some (_, rest) => (Utf8.splitAt? rest (stop - start)).map Prod.fst
    | none => none
  else none

/-- A part of a patched text. -/
inductive Stretch where
  | copied (text : List Char)
  | replaced (old new : List Char)
  deriving DecidableEq, Repr

/-- What becomes of the edits: the stretches of the new text, the edits that were left out, and whether
an edit to be applied splits a character, at which the pass stops. -/
structure Pass where
  stretches : List Stretch
  dropped : List Edit
  split : Bool
  deriving DecidableEq, Repr

namespace Pass

/-- Puts a stretch in front. -/
def push (p : Stretch) (pass : Pass) : Pass :=
  { pass with stretches := p :: pass.stretches }

def drop (e : Edit) (pass : Pass) : Pass :=
  { pass with dropped := e :: pass.dropped }

/-- Applies edits in order of their starts to `rest`, which starts at byte `position` of a text of
`size` bytes. -/
def through (size position : Nat) (rest : List Char) : List Edit → Pass
  | [] => ⟨[.copied rest], [], false⟩
  | e :: edits =>
    if e.start < position ∨ size < e.stop ∨ e.stop < e.start then
      (through size position rest edits).drop e
    else
      match Utf8.splitAt? rest (e.start - position) with
      | none => ⟨[], [], true⟩
      | some (unchanged, rest) =>
        match Utf8.splitAt? rest (e.stop - e.start) with
        | none => ⟨[], [], true⟩
        | some (old, rest) =>
          ((through size e.stop rest edits).push (.replaced old e.text)).push (.copied unchanged)

end Pass

/-- The new text of a stretch. -/
def Stretch.text : Stretch → List Char
  | .copied text => text
  | .replaced _ new => new

/-- Cuts a text behind each line break. -/
def linesOf : List Char → List (List Char)
  | [] => []
  | c :: rest =>
    if c = '\n' then [c] :: linesOf rest
    else
      match linesOf rest with
      | [] => [[c]]
      | line :: lines => (c :: line) :: lines

/-- One mapping at the start of each line of a copied text. -/
def mapLines (generated source : Cursor) : List (List Char) → List Mapping
  | [] => []
  | line :: lines =>
    ⟨generated, source⟩ :: mapLines (generated.advance line) (source.advance line) lines

/-- The mappings of stretches: each line of a copied stretch and each replaced stretch has one. -/
def mapStretches (generated source : Cursor) : List Stretch → List Mapping
  | [] => []
  | .copied text :: stretches =>
    mapLines generated source (linesOf text)
      ++ mapStretches (generated.advance text) (source.advance text) stretches
  | .replaced old new :: stretches =>
    ⟨generated, source⟩ :: mapStretches (generated.advance new) (source.advance old) stretches

namespace Patch

def of (original : List Char) : Patch :=
  ⟨original, [], []⟩

/-- Puts a text in front of all that stands in front already. -/
def prepend (p : Patch) (text : List Char) : Patch :=
  { p with front := text ++ p.front }

/-- Adds an edit, unless it would change nothing. -/
def overwrite (p : Patch) (e : Edit) : Patch :=
  if slice? p.original e.start e.stop = some e.text then p else { p with edits := p.edits ++ [e] }

/-- The edits in order of their starts; those with the same start keep their order. -/
def sorted (p : Patch) : List Edit :=
  p.edits.mergeSort fun a b => a.start ≤ b.start

def pass (p : Patch) : Pass :=
  .through (Utf8.size p.original) 0 p.original p.sorted

/-- The patched text; none if an edit to be applied splits a character. -/
def text? (p : Patch) : Option (List Char) :=
  if p.pass.split then none else some (p.front ++ p.pass.stretches.flatMap Stretch.text)

def mappings (p : Patch) : List Mapping :=
  mapStretches (Cursor.start.advance p.front) .start p.pass.stretches

/-- The message about an edit that is left out. -/
def droppedLine (name : String) (e : Edit) : LogLine :=
  ⟨.debug, s!"dropping overlapping edit {e.start}..{e.stop} in {name}"⟩

def log (p : Patch) (name : String) : List LogLine :=
  p.pass.dropped.map (droppedLine name)

/-- The patched text and its map, in which the source is called `name`. -/
def finish? (p : Patch) (name : String) : Option PatchOutput :=
  p.text?.map fun text =>
    ⟨String.ofList text, String.ofList (SourceMap.toJson name.toList p.original p.mappings)⟩

end Patch

end CompanionStyles
