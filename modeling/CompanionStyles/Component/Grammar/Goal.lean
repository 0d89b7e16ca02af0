import CompanionStyles.Component.Reader

/-!
The goals of reading a component: what is to be read next, under which circumstances. The grammar says
for each goal how it is read in terms of other goals.
-/

namespace CompanionStyles.Component.Grammar

/-- The circumstances that change what may be read. -/
structure Scope where
  /-- Types may be written. -/
  typed : Bool
  /-- Markup may be written. -/
  markup : Bool
  /-- `await` is an operator. -/
  awaits : Bool
  /-- `yield` is an operator. -/
  yields : Bool
  /-- `return` may be written. -/
  returns : Bool
  /-- `in` is an operator. -/
  inOperator : Bool
  /-- The branch of a conditional, whose colon must not be taken for that of a return type. -/
  branch : Bool
  /-- The type after `extends`, in which no conditional type stands. -/
  bound : Bool
  /-- Within a declaration of what is defined elsewhere: constants need no value. -/
  ambient : Bool
  /-- A decorator, whose expression a bracket does not go on. -/
  decorator : Bool
  deriving DecidableEq, Repr

namespace Scope

def bracketed (s : Scope) : Scope :=
  { s with inOperator := true, branch := false, decorator := false }

def inFunction (s : Scope) (async generator : Bool) : Scope :=
  { s.bracketed with awaits := async, yields := generator, returns := true }

/-- The body of an arrow function. Where `in` is no operator around it, it is none within. -/
def inArrow (s : Scope) (async : Bool) : Scope :=
  { s with awaits := async, yields := false, returns := true }

/-- The statements that a class runs when it is defined. -/
def inStaticBlock (s : Scope) : Scope :=
  { s.bracketed with awaits := true, yields := false, returns := false }

def inField (s : Scope) : Scope :=
  { s.bracketed with awaits := false, yields := false }

def inMarkup (s : Scope) : Scope :=
  { s.bracketed with yields := false, ambient := false }

def unbound (s : Scope) : Scope :=
  { s with bound := false }

end Scope

/-- The places of statements. -/
inductive Place where
  /-- One of many, among which declarations may stand. -/
  | list
  /-- The only statement that a condition, a loop or a label rules. -/
  | single
  deriving DecidableEq, Repr

/-- The forms of functions from their keyword on. -/
inductive FunctionForm where
  | statement
  | expression
  /-- The value that a module exports; its name may be missing. -/
  | exported
  /-- What is defined elsewhere: there is no body. -/
  | declared
  deriving DecidableEq, Repr

/-- The owners of parameters. -/
inductive Owner where
  | function
  | arrow
  | member
  /-- A constructor, whose parameters may be fields as well. -/
  | constructor
  deriving DecidableEq, Repr

inductive Goal where
  | expression (s : Scope)
  | assignment (s : Scope)
  | binary (s : Scope) (level : Nat)
  | unary (s : Scope)
  /-- A chain of member accesses and, if `calls`, of calls. -/
  | chain (s : Scope) (calls : Bool)
  | primary (s : Scope)
  | arguments (s : Scope)
  | arrow (s : Scope)
  | property (s : Scope)
  | function (s : Scope) (form : FunctionForm)
  | parameters (s : Scope) (owner : Owner)
  /-- The parameters of an accessor, which gives a value or takes one. -/
  | accessorParameters (s : Scope) (owner : Owner) (gives : Bool)
  | block (s : Scope)
  | classDefinition (s : Scope)
  | classMember (s : Scope)
  | bindingTarget (s : Scope)
  /-- An element; within tags, what follows it is text. -/
  | element (s : Scope) (next : Surroundings)
  | markupAttribute (s : Scope)
  | type (s : Scope)
  | returnType (s : Scope)
  | typeOperand (s : Scope)
  | typeArguments (s : Scope)
  | typeParameters (s : Scope)
  | typeMember (s : Scope)
  | statement (s : Scope) (place : Place)
  deriving Repr

abbrev Rules (source : List Char) : Type :=
  Goal → Reader source Unit

end CompanionStyles.Component.Grammar
