import CompanionStyles.Text.Words

/-!
Manifests: what the class names of a stylesheet are called once they are scoped. `rename` maps every
word of a class list and joins the results by single spaces.
-/

namespace CompanionStyles

/-- Local names with their scoped names, in increasing order of the local names. -/
structure Manifest where
  entries : List (String × String)
  deriving DecidableEq, Repr, Inhabited

namespace Manifest

def empty : Manifest :=
  ⟨[]⟩

def isEmpty (m : Manifest) : Bool :=
  m.entries.isEmpty

def size (m : Manifest) : Nat :=
  m.entries.length

def get? (m : Manifest) (name : String) : Option String :=
  m.entries.lookup name

/-- Puts an entry in its place, where it replaces one of the same name. -/
def insertEntry (name value : String) : List (String × String) → List (String × String)
  | [] => [(name, value)]
  | (key, old) :: rest =>
    if name = key then (name, value) :: rest
    else if name < key then (name, value) :: (key, old) :: rest
    else (key, old) :: insertEntry name value rest

def insert (m : Manifest) (name value : String) : Manifest :=
  ⟨insertEntry name value m.entries⟩

/-- The last of several entries of one name counts. -/
def ofList (entries : List (String × String)) : Manifest :=
  entries.foldl (fun m (name, value) => m.insert name value) empty

/-- What a name is called; a name that the manifest lacks stays. -/
def lookup (m : Manifest) (name : List Char) : List Char :=
  match m.get? (String.ofList name) with
  | some value => value.toList
  | none => name

/-- Texts with single spaces between them. -/
def joinWords : List (List Char) → List Char
  | [] => []
  | [word] => word
  | word :: words => word ++ ' ' :: joinWords words

/-- A class list with every word mapped. -/
def rename (m : Manifest) (classes : List Char) : List Char :=
  joinWords ((Text.words classes).map m.lookup)

end Manifest

end CompanionStyles
