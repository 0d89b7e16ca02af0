import CompanionStyles.Component.Grammar.Names

/-!
Targets: what can be assigned to. An array or object literal on the left of an assignment is a
pattern, whose keys name members of the value that is taken apart.
-/

namespace CompanionStyles.Component.Grammar

open Reader

variable {source : List Char}

mutual
def isSimpleTarget : Syntax → Bool
  | .leaf .name text => !isReserved text
  | .node .member _ => true
  | .node .parenthesized children => isAnySimpleTarget children
  | .node .typed children => isFirstSimpleTarget children
  | .node .asserted children => isLastSimpleTarget children
  | _ => false

def isAnySimpleTarget : List Syntax → Bool
  | [] => false
  | tree :: trees => isSimpleTarget tree || isAnySimpleTarget trees

def isFirstSimpleTarget : List Syntax → Bool
  | [] => false
  | tree :: trees =>
    match tree with
    | .leaf .blank _ => isFirstSimpleTarget trees
    | .leaf .mark _ => isFirstSimpleTarget trees
    | _ => isSimpleTarget tree

def isLastSimpleTarget : List Syntax → Bool
  | [] => false
  | [tree] => isSimpleTarget tree
  | _ :: trees => isLastSimpleTarget trees
end

def isPlainAssignment (children : List Syntax) : Bool :=
  children.any fun
    | .leaf .mark text => text = ['=']
    | _ => false

/-- Whether an element that takes the rest stands only at the end, in front of the closing mark. -/
def isRestLast : List Syntax → Bool
  | [] => true
  | .node .spread _ :: trees =>
    let behind := trees.filter fun
      | .leaf .blank _ => false
      | _ => true
    behind.length ≤ 1
  | _ :: trees => isRestLast trees

def anyOf (kind : NodeKind) (trees : List Syntax) : Bool :=
  trees.any fun
    | .node k _ => k = kind
    | _ => false

/-- Whether one of the properties of a literal takes the rest by a pattern. -/
def hasRestPattern (trees : List Syntax) : Bool :=
  trees.any fun
    | .node .spread children => anyOf .array children || anyOf .object children
    | _ => false

mutual
/-- The pattern that a literal stands for, or a simple target. -/
def toTarget? : Syntax → Option Syntax
  | .node .array children =>
    if isRestLast children then do pure (.node .other (← toTargets? children)) else none
  | .node .object children =>
    if isRestLast children && !hasRestPattern children then do
      pure (.node .other (← toTargets? children))
    else none
  | .node .assignment children =>
    if isPlainAssignment children then some (.node .other children) else none
  | .node .spread children =>
    if anyOf .assignment children then none else do pure (.node .other (← toTargets? children))
  | .node (.property .keyed) (key :: rest) => do pure (.node .other (key :: (← toTargets? rest)))
  | .node (.property .computed) (key :: rest) => do pure (.node .other (key :: (← toTargets? rest)))
  | .node (.property .shorthand) children => some (.node .other children)
  | .node .defaultedShorthand children => some (.node .other children)
  | .leaf .blank text => some (.leaf .blank text)
  | .leaf .mark text => some (.leaf .mark text)
  | tree => if isSimpleTarget tree then some tree else none

def toTargets? : List Syntax → Option (List Syntax)
  | [] => some []
  | tree :: trees => do pure ((← toTarget? tree) :: (← toTargets? trees))
end

mutual
def hasKind (kind : NodeKind) : Syntax → Bool
  | .leaf _ _ => false
  | .node k children => k = kind || anyHasKind kind children

def anyHasKind (kind : NodeKind) : List Syntax → Bool
  | [] => false
  | tree :: trees => hasKind kind tree || anyHasKind kind trees
end

/-- Requires that the last tree can be assigned to as it stands. -/
def simpleTarget : Reader source Unit := do
  match ← last with
  | some tree => require (isSimpleTarget tree)
  | none => fail

def target : Reader source Unit :=
  replace toTarget?

end CompanionStyles.Component.Grammar
