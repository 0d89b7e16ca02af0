import CompanionStyles.Text.Utf8

/-!
Syntax trees of component modules. A tree loses nothing: its leaves, read from left to right, are the
source text, so the place of a leaf is the size of all that stands before it. Only the constructs
that class names can occur in, and those that their grammar needs, have kinds of their own.
-/

namespace CompanionStyles.Component

/-- The kinds of leaves. -/
inductive LeafKind where
  /-- Blanks and comments. -/
  | blank
  /-- An identifier or a keyword. -/
  | name
  /-- A name with a number sign in front. -/
  | privateName
  | number
  | string
  /-- A template without substitutions. -/
  | template
  | templateHead
  | templateMiddle
  | templateTail
  | regex
  | mark
  | markupName
  /-- A string in markup, which has no escapes. -/
  | markupString
  | markupText
  | finish
  /-- Text that starts no leaf. -/
  | invalid
  deriving DecidableEq, Repr

/-- The forms of the properties of an object literal. -/
inductive PropertyForm where
  /-- A key that is written out, a colon and a value. -/
  | keyed
  /-- A name that is both key and value. -/
  | shorthand
  | computed
  | method
  | accessor
  deriving DecidableEq, Repr

inductive NodeKind where
  | markupElement
  | markupFragment
  | markupAttribute
  | namespacedName
  /-- An expression in braces within markup. -/
  | container
  | call
  | arguments
  | array
  | object
  | property (form : PropertyForm)
  /-- A shorthand property with a default, which only a pattern may hold. -/
  | defaultedShorthand
  | spread
  | parenthesized
  | member
  /-- An expression with a type claimed for it. -/
  | typed
  /-- A type in angle brackets and the expression that it is claimed for. -/
  | asserted
  | assignment
  | logical
  | coalescing
  | unary
  | arrow
  /-- What only modules have: an import, an export, or what a module says about itself. -/
  | moduleItem
  /-- A name that a module exports. -/
  | exported
  | other
  deriving DecidableEq, Repr

/-- A leaf by itself. -/
structure Leaf where
  kind : LeafKind
  text : List Char
  deriving DecidableEq, Repr

inductive Syntax where
  | leaf (kind : LeafKind) (text : List Char)
  | node (kind : NodeKind) (children : List Syntax)
  deriving Repr

namespace Syntax

mutual
def decEq : (a b : Syntax) → Decidable (a = b)
  | .leaf kind text, .leaf kind' text' => decidable_of_iff (kind = kind' ∧ text = text') (by simp)
  | .leaf _ _, .node _ _ => isFalse (by simp)
  | .node _ _, .leaf _ _ => isFalse (by simp)
  | .node kind children, .node kind' children' =>
    have := decEqAll children children'
    decidable_of_iff (kind = kind' ∧ children = children') (by simp)

def decEqAll : (a b : List Syntax) → Decidable (a = b)
  | [], [] => isTrue rfl
  | [], _ :: _ => isFalse (by simp)
  | _ :: _, [] => isFalse (by simp)
  | a :: as, b :: bs =>
    have := decEq a b
    have := decEqAll as bs
    decidable_of_iff (a = b ∧ as = bs) (by simp)
end

instance : DecidableEq Syntax :=
  decEq

mutual
def text : Syntax → List Char
  | .leaf _ text => text
  | .node _ children => textOfAll children

def textOfAll : List Syntax → List Char
  | [] => []
  | tree :: trees => tree.text ++ textOfAll trees
end

mutual
def leaves : Syntax → List Leaf
  | .leaf kind text => [⟨kind, text⟩]
  | .node _ children => leavesOfAll children

def leavesOfAll : List Syntax → List Leaf
  | [] => []
  | tree :: trees => tree.leaves ++ leavesOfAll trees
end

def size (tree : Syntax) : Nat :=
  Utf8.size tree.text

@[simp]
theorem textOfAll_nil : textOfAll [] = [] := by
  simp [textOfAll]

@[simp]
theorem textOfAll_cons (tree : Syntax) (trees : List Syntax) :
    textOfAll (tree :: trees) = tree.text ++ textOfAll trees := by
  simp [textOfAll]

@[simp]
theorem textOfAll_append (a b : List Syntax) : textOfAll (a ++ b) = textOfAll a ++ textOfAll b := by
  induction a with
  | nil => simp
  | cons tree trees ih => simp [ih]

/-- The size of neighbouring trees is that of the first one and those behind it. -/
theorem size_textOfAll_cons (tree : Syntax) (trees : List Syntax) :
    Utf8.size (textOfAll (tree :: trees)) = tree.size + Utf8.size (textOfAll trees) := by
  rw [textOfAll_cons, Utf8.size_append, size]

@[simp]
theorem text_leaf (kind : LeafKind) (text : List Char) : (leaf kind text).text = text := by
  simp [Syntax.text]

@[simp]
theorem text_node (kind : NodeKind) (children : List Syntax) :
    (node kind children).text = textOfAll children := by
  simp [Syntax.text]

@[simp]
theorem leavesOfAll_nil : leavesOfAll [] = [] := by
  simp [leavesOfAll]

@[simp]
theorem leavesOfAll_cons (tree : Syntax) (trees : List Syntax) :
    leavesOfAll (tree :: trees) = tree.leaves ++ leavesOfAll trees := by
  simp [leavesOfAll]

@[simp]
theorem leavesOfAll_append (a b : List Syntax) :
    leavesOfAll (a ++ b) = leavesOfAll a ++ leavesOfAll b := by
  induction a with
  | nil => simp
  | cons tree trees ih => simp [ih]

@[simp]
theorem leaves_leaf (kind : LeafKind) (text : List Char) : (leaf kind text).leaves = [⟨kind, text⟩] := by
  simp [leaves]

@[simp]
theorem leaves_node (kind : NodeKind) (children : List Syntax) :
    (node kind children).leaves = leavesOfAll children := by
  simp [leaves]

mutual
/-- A tree loses nothing: its leaves make up its text. -/
theorem flatMap_leaves : (tree : Syntax) → tree.leaves.flatMap Leaf.text = tree.text
  | .leaf _ _ => by simp
  | .node _ children => by simpa using flatMap_leavesOfAll children

theorem flatMap_leavesOfAll :
    (trees : List Syntax) → (leavesOfAll trees).flatMap Leaf.text = textOfAll trees
  | [] => by simp
  | tree :: trees => by
    rw [leavesOfAll_cons, List.flatMap_append, flatMap_leaves tree, flatMap_leavesOfAll trees,
      textOfAll_cons]
end

def isSubstantial : Syntax → Bool
  | .leaf .blank _ => false
  | .leaf .mark _ => false
  | _ => true

end Syntax

end CompanionStyles.Component
