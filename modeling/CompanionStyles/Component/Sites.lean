import CompanionStyles.Component.Syntax
import CompanionStyles.Manifest
import CompanionStyles.Text.Quoted

/-!
Class sites: the places of a component at which class names stand literally. Strings in `class` and
`className`, strings in their arrays, and the keys of objects in their arrays and in the arguments of
their calls are sites, as are the keys of the object of a `classList`.
-/

namespace CompanionStyles.Component

/-- How a class name is written at its site. -/
inductive SiteForm where
  /-- Raw text in the quotes of markup. -/
  | markup
  /-- A string literal. -/
  | string
  /-- The name of a property. -/
  | key
  /-- A name that is both key and value. -/
  | shorthand
  deriving DecidableEq, Repr

/-- A leaf with class names and the byte at which it starts. -/
structure Site where
  start : Nat
  text : List Char
  form : SiteForm
  deriving DecidableEq, Repr

namespace Site

def stop (site : Site) : Nat :=
  site.start + Utf8.size site.text

/-- The text between the quotes, or the decoded literal or name. -/
def value (site : Site) : List Char :=
  match site.form with
  | .markup => (site.text.drop 1).dropLast
  | .string => Text.unquote site.text
  | .key => Text.nameOf site.text
  | .shorthand => Text.nameOf site.text

/-- Quotes that do not stand in the text, if there are any. -/
def markupQuote (text : List Char) : Char :=
  if text.contains '"' then '\'' else '"'

/-- What is to be written in place of the leaf; none if strings stay as they are. -/
def replacement? (site : Site) (m : Manifest) : Option (List Char) :=
  let value := site.value
  match site.form with
  | .markup =>
    let renamed := m.rename value
    if renamed = value then none
    else some (markupQuote renamed :: renamed ++ [markupQuote renamed])
  | .string =>
    let renamed := m.rename value
    if renamed = value then none else some (Text.quote renamed)
  | .key => some (Text.quote (m.lookup value))
  | .shorthand => some (Text.quote (m.lookup value) ++ ':' :: ' ' :: value)

end Site

namespace Syntax

def keySite (start : Nat) : Syntax → List Site
  | .leaf .name text => [⟨start, text, .key⟩]
  | .leaf .string text => [⟨start, text, .string⟩]
  | _ => []

def elementSite (start : Nat) : Syntax → List Site
  | .leaf .string text => [⟨start, text, .string⟩]
  | _ => []

mutual
/-- The sites of class keys in an expression: keys of objects and strings of arrays. They lie outside
of markup, which an attribute is a part of, and of methods, and of properties whose keys are computed. -/
def keySites (start : Nat) : Syntax → List Site
  | .leaf _ _ => []
  | .node .markupElement _ => []
  | .node .markupFragment _ => []
  | .node .markupAttribute _ => []
  | .node (.property .method) _ => []
  | .node (.property .accessor) _ => []
  | .node (.property .computed) _ => []
  | .node (.property .shorthand) children =>
    match children with
    | .leaf .name text :: _ => [⟨start, text, .shorthand⟩]
    | _ => []
  | .node (.property .keyed) children =>
    match children with
    | key :: rest => keySite start key ++ keySitesOfAll (start + key.size) rest
    | [] => []
  | .node .array children => elementSitesOfAll start children
  | .node _ children => keySitesOfAll start children

def keySitesOfAll (start : Nat) : List Syntax → List Site
  | [] => []
  | tree :: trees => keySites start tree ++ keySitesOfAll (start + tree.size) trees

def elementSitesOfAll (start : Nat) : List Syntax → List Site
  | [] => []
  | tree :: trees =>
    elementSite start tree ++ keySites start tree ++ elementSitesOfAll (start + tree.size) trees
end

/-- A part of a node that is more than blanks and marks, with its start; none if there are several or
none. -/
def onlyPart? (start : Nat) : List Syntax → Option (Nat × Syntax)
  | [] => none
  | tree :: trees =>
    if tree.isSubstantial then
      if trees.any isSubstantial then none else some (start, tree)
    else onlyPart? (start + tree.size) trees

def argumentsOf? (start : Nat) : List Syntax → Option (Nat × List Syntax)
  | [] => none
  | tree :: trees =>
    match tree with
    | .node .arguments children => some (start, children)
    | _ => argumentsOf? (start + tree.size) trees

/-- The attributes that class names stand in. -/
inductive ClassAttribute where
  | classes
  | classList
  deriving DecidableEq, Repr

def ClassAttribute.ofName? (name : List Char) : Option ClassAttribute :=
  if name = "class".toList ∨ name = "className".toList then some .classes
  else if name = "classList".toList then some .classList
  else none

def expressionSites (start : Nat) : ClassAttribute → Syntax → List Site
  | .classes, .leaf .string text => [⟨start, text, .string⟩]
  | .classes, .node .call children =>
    match argumentsOf? start children with
    | some (start, arguments) => keySitesOfAll start arguments
    | none => []
  | .classes, .node .array children => keySites start (.node .array children)
  | .classList, .node .object children => keySites start (.node .object children)
  | _, _ => []

def valueSites (start : Nat) : ClassAttribute → Syntax → List Site
  | .classes, .leaf .markupString text => [⟨start, text, .markup⟩]
  | place, .node .container children =>
    match onlyPart? start children with
    | some (start, expression) => expressionSites start place expression
    | none => []
  | _, _ => []

/-- The value of an attribute with its start: what follows the name. -/
def attributeSites (start : Nat) : List Syntax → List Site
  | .leaf .markupName name :: rest =>
    match ClassAttribute.ofName? name, onlyPart? (start + Utf8.size name) rest with
    | some place, some (start, value) => valueSites start place value
    | _, _ => []
  | _ => []

mutual
def classSites (start : Nat) : Syntax → List Site
  | .leaf _ _ => []
  | .node .markupAttribute children => attributeSites start children ++ classSitesOfAll start children
  | .node _ children => classSitesOfAll start children

def classSitesOfAll (start : Nat) : List Syntax → List Site
  | [] => []
  | tree :: trees => classSites start tree ++ classSitesOfAll (start + tree.size) trees
end

end Syntax

end CompanionStyles.Component
