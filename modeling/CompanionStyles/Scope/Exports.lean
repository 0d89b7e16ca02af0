import CompanionStyles.Manifest
import CompanionStyles.Trace

/-!
Exports: the names that a stylesheet makes known, and the classes that each of them is composed of.
The manifest gives a name its scoped name and the names composed directly, those of other files left
out.
-/

namespace CompanionStyles.Scope

/-- A class that another one is composed of. -/
inductive Reference where
  /-- One of the same stylesheet, by its scoped name. -/
  | sheet (name : List Char)
  | global (name : List Char)
  | dependency (name : List Char) (specifier : List Char)
  deriving DecidableEq, Repr

structure Export where
  name : List Char
  composes : List Reference
  deriving DecidableEq, Repr

/-- The exports by their local names, in the order in which they first occur. -/
abbrev Exports := List (List Char × Export)

namespace Exports

/-- Makes a name known; one that is known already stays as it is. -/
def add (table : Exports) (localName scopedName : List Char) : Exports :=
  match table.lookup localName with
  | some _ => table
  | none => table ++ [(localName, ⟨scopedName, []⟩)]

/-- Puts a reference behind those of a name, unless it is among them. -/
def compose (table : Exports) (localName : List Char) (reference : Reference) : Exports :=
  table.map fun (key, e) =>
    if key = localName ∧ reference ∉ e.composes then
      (key, { e with composes := e.composes ++ [reference] })
    else (key, e)

end Exports

def Reference.manifestName? : Reference → Option (List Char)
  | sheet name => some name
  | global name => some name
  | dependency _ _ => none

/-- The scoped name and the names composed, with single spaces between them. -/
def Export.classes (e : Export) : List Char :=
  Manifest.joinWords (e.name :: e.composes.filterMap Reference.manifestName?)

namespace Exports

def manifest (table : Exports) : Manifest :=
  .ofList (table.map fun (key, e) => (String.ofList key, String.ofList e.classes))

/-- The warnings about classes of other files, in the order of their texts. -/
def warnings (table : Exports) (file : List Char) : List LogLine :=
  let texts := table.flatMap fun (_, e) => e.composes.filterMap fun
    | .dependency name specifier =>
      some (String.ofList file ++ ": composes '" ++ String.ofList name ++ "' from '"
        ++ String.ofList specifier ++ "' is not supported and was skipped")
    | _ => none
  (texts.mergeSort fun a b => decide (a ≤ b)).map (⟨.warn, ·⟩)

end Exports

end CompanionStyles.Scope
