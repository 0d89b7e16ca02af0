import CompanionStyles.Component.Exports
import CompanionStyles.Component.Grammar.Markup
import CompanionStyles.Component.Grammar.Statements

/-!
Parsing a component. Every goal is read by one rule in terms of other goals; fuel bounds how deep the
goals nest. The tree of a parsed source has the source as its text.
-/

namespace CompanionStyles.Component

open Grammar

/-- What a source is to be read as. -/
inductive SourceForm where
  /-- A module, in which `await` is an operator. -/
  | module
  /-- The body of a function that defines a module. -/
  | function
  /-- A module if it has what only modules have, otherwise not. -/
  | open_
  deriving DecidableEq, Repr

/-- The language that a component is written in. -/
structure Dialect where
  typed : Bool
  markup : Bool
  form : SourceForm
  /-- The source declares only what is defined elsewhere. -/
  declares : Bool
  deriving DecidableEq, Repr

def Dialect.scope (d : Dialect) (awaits : Bool) : Scope :=
  { typed := d.typed, markup := d.markup, awaits := awaits, yields := false,
    returns := d.form = .function, inOperator := true, branch := false, bound := false,
    ambient := d.declares, decorator := false }

/-- One rule for each goal; `n` bounds the length of lists. -/
def rule {source : List Char} (n : Nat) (self : Rules source) : Rules source
  | .expression s => expression n self s
  | .assignment s => assignment self s
  | .binary s level => binary n self s level
  | .unary s => unary self s
  | .chain s calls => chain n self s calls
  | .primary s => primary n self s
  | .arguments s => arguments n self s
  | .arrow s => arrow self s
  | .property s => property self s
  | .function s form => function self s form
  | .parameters s owner => parameters n self s owner
  | .accessorParameters s owner gives => accessorParameters n self s owner gives
  | .block s => block n self s
  | .classDefinition s => classDefinition n self s
  | .classMember s => classMember n self s
  | .bindingTarget s => bindingTarget n self s
  | .element s next => element n self s next
  | .markupAttribute s => markupAttribute self s
  | .type s => type n self s
  | .returnType s => returnType self s
  | .typeOperand s => typeOperand n self s
  | .typeArguments s => typeArguments n self s
  | .typeParameters s => typeParameters n self s
  | .typeMember s => typeMember self s
  | .statement s place => statement n self s place

/-- Reads a goal with at most `fuel` goals inside one another. -/
def rules {source : List Char} : Nat → Rules source
  | 0 => fun _ => Reader.fail
  | fuel + 1 => rule fuel (rules fuel)

def sourceReader {source : List Char} (fuel : Nat) (s : Scope) : Reader source Unit :=
  Reader.repeatWhile fuel do
    if (← Reader.kind) = .finish then pure false
    else
      rules fuel (.statement s .list)
      pure true

/-- The tree of a source, in which `await` is an operator or not. In sources without types, no name is
exported twice. -/
def read? (d : Dialect) (source : List Char) (awaits : Bool) : Option Syntax :=
  match Reader.read? (sourceReader (24 * (source.length + 8)) (d.scope awaits) : Reader source Unit) with
  | some tree =>
    if hasKind .defaultedShorthand tree || !(d.typed || (exportedNames tree).Nodup) then none
    else some tree
  | none => none

def parse? (d : Dialect) (source : List Char) : Option Syntax :=
  match d.form with
  | .module => read? d source true
  | .function => read? d source false
  | .open_ =>
    match read? d source false with
    | some tree => if hasKind .moduleItem tree then read? d source true else some tree
    | none => (read? d source true).filter (hasKind .moduleItem)

end CompanionStyles.Component
