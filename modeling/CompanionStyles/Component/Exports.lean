import CompanionStyles.Component.Syntax
import CompanionStyles.Text.Quoted

/-!
The names that a module exports: those in braces, those of exported declarations, and `default`.
-/

namespace CompanionStyles.Component

/-- Whether the first of some trees, blanks aside, is a colon. -/
def startsWithColon : List Syntax → Bool
  | .leaf .blank _ :: trees => startsWithColon trees
  | .leaf .mark text :: _ => text = [':']
  | _ => false

mutual
def boundNames : Syntax → List (List Char)
  | .leaf .name text => [Text.nameOf text]
  | .node .other children => boundNamesFrom true children
  | _ => []

/-- The names that the parts of a pattern or of a list of bindings declare; `starts` tells whether a key
or a target may come next. -/
def boundNamesFrom (starts : Bool) : List Syntax → List (List Char)
  | [] => []
  | tree :: trees =>
    match tree with
    | .leaf .blank _ => boundNamesFrom starts trees
    | .leaf .mark text =>
      boundNamesFrom (["\x7b", "[", ",", "...", ":"].any (·.toList = text)) trees
    | _ =>
      if starts && !startsWithColon trees then boundNames tree ++ boundNamesFrom false trees
      else boundNamesFrom false trees
end

/-- The name behind the keyword of a function or a class. -/
def definedName : List Syntax → List (List Char)
  | [] => []
  | .leaf .name text :: trees =>
    if text = "function".toList || text = "class".toList || text = "async".toList then definedName trees
    else if text = "extends".toList then []
    else [Text.nameOf text]
  | .leaf .blank _ :: trees => definedName trees
  | .leaf .mark text :: trees => if text = ['*'] then definedName trees else []
  | _ => []

def namesOfExport : List Syntax → List (List Char)
  | .leaf .name text :: trees =>
    if ["const", "let", "var"].any (·.toList = text) && trees.any Syntax.isSubstantial then
      boundNamesFrom true trees
    else
      match ((.leaf .name text :: trees).filter Syntax.isSubstantial).getLast? with
      | some (.leaf .string literal) => [Text.unquote literal]
      | some (.leaf _ name) => [Text.nameOf name]
      | _ => []
  | .leaf .string literal :: trees =>
    match (trees.filter Syntax.isSubstantial).getLast? with
    | some (.leaf .string other) => [Text.unquote other]
    | some (.leaf _ name) => [Text.nameOf name]
    | _ => [Text.unquote literal]
  | .node .other children :: _ => definedName children
  | _ => []

mutual
def exportedNames : Syntax → List (List Char)
  | .leaf _ _ => []
  | .node .exported children => namesOfExport children
  | .node _ children => allExportedNames children

def allExportedNames : List Syntax → List (List Char)
  | [] => []
  | tree :: trees => exportedNames tree ++ allExportedNames trees
end

end CompanionStyles.Component
