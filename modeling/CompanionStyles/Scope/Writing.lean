import CompanionStyles.Scope.Exports
import CompanionStyles.Scope.Naming
import CompanionStyles.Stylesheet.Phrase

/-!
Writing: a phrase with its names scoped, and the names that this makes known.
-/

namespace CompanionStyles.Scope

open Stylesheet

/-- What has been written, the last piece first, and the names made known. -/
structure Written where
  chunks : List (List Char)
  table : Exports

def Written.empty : Written :=
  ⟨[], []⟩

def Written.text (w : Written) : List Char :=
  w.chunks.reverse.flatten

def Written.append (w : Written) (text : List Char) : Written :=
  { w with chunks := text :: w.chunks }

/-- A class that another one is composed of, as the exports know it. -/
def referenceTo (n : Naming) (name : List Char) : Origin → Reference
  | .sheet => .sheet (n.scope name)
  | .everywhere => .global name
  | .file specifier => .dependency name specifier

/-- What a dashed name of another file is called: the hash of this file, the name and the other file. -/
def importedName (n : Naming) (name specifier : List Char) : List Char :=
  shortHash (n.fileHash ++ '_' :: '-' :: '-' :: name ++ '_' :: specifier)

/-- Writes a name of the stylesheet and makes it known. -/
def Written.name (n : Naming) (w : Written) (name : List Char) : Written :=
  { w.append (n.written name) with table := w.table.add name (n.scope name) }

def Written.dashedName (n : Naming) (w : Written) (name : List Char) : Origin → Written
  | .sheet =>
    if n.dashed then
      { w.append ('-' :: '-' :: n.writtenDashed name) with
        table := w.table.add ('-' :: '-' :: name) ('-' :: '-' :: n.scope name) }
    else w.append ('-' :: '-' :: writeNameRest name)
  | .everywhere => w.append ('-' :: '-' :: writeNameRest name)
  | .file specifier => w.append ('-' :: '-' :: writeNameRest (importedName n name specifier))

def Written.piece (n : Naming) (w : Written) : Piece → Except Fault Written
  | .text text => .ok (w.append text)
  | .lineBreak indent => .ok (w.append ('\n' :: List.replicate indent ' '))
  | .name name => .ok (w.name n name)
  | .mention name => .ok { w with table := w.table.add name (n.scope name) }
  | .gridName name =>
    if n.pattern.endsWithLocal then .ok (w.name n name) else .error ⟨none, .gridPattern⟩
  | .dashed name origin => .ok (w.dashedName n name origin)
  | .compose className names origin =>
    .ok { w with
      table := names.foldl
        (fun table name => table.compose className (referenceTo n name origin)) w.table }
  | .fault fault => .error fault

def Written.phrase (n : Naming) (w : Written) : Phrase → Except Fault Written
  | [] => .ok w
  | p :: rest => do
    let w ← w.piece n p
    w.phrase n rest

end CompanionStyles.Scope
