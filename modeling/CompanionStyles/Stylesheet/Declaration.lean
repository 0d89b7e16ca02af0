import CompanionStyles.Stylesheet.Value.FontFace
import CompanionStyles.Stylesheet.Value.Property

/-!
Declarations: properties with their values. A value that its property does not know is kept as it
is; only a value that is none at all is a fault.
-/

namespace CompanionStyles.Stylesheet

open Reader

/-- The classes that a class is to be composed of, and where that is said. -/
structure Composition where
  names : List (List Char)
  origin : Origin
  place : Place
  deriving Repr

inductive Declaration where
  /-- A name and a value to print. -/
  | value (phrase : Phrase)
  | composes (composition : Composition)
  deriving Repr

/-- Declarations in the order in which they are printed: those that are important come last. -/
structure Declarations where
  normal : List Declaration
  important : List Declaration
  deriving Repr

def Declarations.empty : Declarations :=
  ⟨[], []⟩

def Declarations.isEmpty (d : Declarations) : Bool :=
  d.normal.isEmpty && d.important.isEmpty

def Declarations.all (d : Declarations) : List Declaration :=
  d.normal ++ d.important

/-- A composition as it is written where it composes nothing. -/
def Composition.phrase (c : Composition) : Phrase :=
  let from_ : Phrase := match c.origin with
    | .sheet => []
    | .everywhere => Phrase.ofString " from global"
    | .file specifier => Phrase.ofChars (" from ".toList ++ writeString specifier)
  .text "composes: ".toList :: Phrase.words (c.names.map fun n => [.name n]) ++ from_

namespace Declaration

/-- A declaration in which a composition is a value like others. -/
def asValue (behind : String) : Declaration → Declaration
  | .value p => .value p
  | .composes c => .value (c.phrase ++ Phrase.ofString behind)

def composedName : Reader (List Char) := do
  let place ← here
  let name ← Value.customName
  if isWord name "from" then failAt place (.unexpected (.ident name)) else return name

def composition : Reader Composition := do
  let place ← here
  let names ← many1 composedName
  return ⟨names, ← Value.origin, place⟩

def propertyPhrase (name : List Char) : Phrase :=
  match name with
  | '-' :: '-' :: custom => [.dashed custom .sheet]
  | name =>
    let (front, short) := Value.splitKnown name
    Phrase.ofChars (writeName (front.toList ++ short))

def isCustom (name : List Char) : Bool :=
  name.take 2 == ['-', '-']

/-- How the value of a property is read, unless it is kept as it is. -/
def reader? (dashed : Bool) (name : List Char) : Option (Reader Phrase) := do
  if isCustom name then none
  let (_, short) ← Value.known? name
  if short == "font-palette".toList then
    some do
      let palette ← Value.dashedName
      return [.dashed palette (← if dashed then Value.origin else pure Origin.sheet)]
  else Value.reader? (String.ofList short)

/-- Reads a value to the end. All properties at once know nothing but words. -/
def valuePhrase (dashed : Bool) (name : List Char) : Reader Phrase := do
  if isWord name "all" then return ← Value.oneOf Value.allWords
  match reader? dashed name with
  | none => Value.loose dashed
  | some read =>
    match ← attempt (whole read) with
    | some p => return p
    | none => Value.loose dashed

/-- Where a value ends: blocks belong to custom properties only. -/
def endsValue (name : List Char) (t : Token) : Bool :=
  t == .delim '!' || (t == .opening .curly && !isCustom name)

def importance : Reader Bool := do
  if (← get).nodes.all isGap then
    skipBlanks
    return false
  delim '!'
  word "important"
  return true

/-- Reads what stands behind the colon of a declaration, and whether it is important. -/
def afterColon (dashed : Bool) (name : List Char) : Reader (Declaration × Bool) := do
  let composed ← if isWord name "composes" then
      attempt (until_ (endsValue name) composition)
    else pure none
  match composed with
  | some c => return (.composes c, ← importance)
  | none =>
    let value ← until_ (endsValue name) (valuePhrase dashed name)
    let phrase := propertyPhrase name ++ .text ": ".toList :: value
    if ← importance then return (.value (phrase ++ Phrase.ofString " !important"), true)
    else return (.value phrase, false)

/-- Reads what stands behind the name of a descriptor. Names in it belong to nobody. -/
def afterDescriptor (readers : Value.DescriptorReaders) (name : List Char) :
    Reader (Declaration × Bool) := do
  let read := (readers.lookup (String.ofList (lower name))).getD (fail .value)
  let typed ← attempt (whole read)
  let value ← match typed with
    | some p => pure p
    | none => Phrase.plain <$> Value.loose false
  let shown := if typed.isSome then lower name else name
  return (.value (.text (writeName shown ++ ": ".toList) :: value), false)

/-- Reads what is asked about a style: a declaration without what makes it important, or only the
name of a property. -/
def styleFeature (dashed : Bool) : Reader Phrase := do
  let name ← ident
  if !(← found (expectToken .colon)) then
    let (front, short) := Value.splitKnown name
    return Phrase.ofChars (front.toList ++ short)
  let (d, _) ← afterColon dashed name
  match d with
  | .value p => return p
  | .composes _ => fail .declaration

end Declaration

/-- Declarations in which compositions are values like others. -/
def Declarations.asValues (ds : Declarations) : Declarations :=
  ⟨ds.normal.map (·.asValue ""), ds.important.map (·.asValue " !important")⟩

end CompanionStyles.Stylesheet
