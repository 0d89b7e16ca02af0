import CompanionStyles.Component.Grammar.Bindings

/-!
Classes: what they build on, their fields, methods and accessors.
-/

namespace CompanionStyles.Component.Grammar

open Reader

variable {source : List Char}

/-- Names of types with their arguments, with commas in between; `first` reads how a name starts. -/
def heritageTypes (n : Nat) (self : Rules source) (s : Scope) (first : Reader source Unit) :
    Reader source Unit :=
  repeatWhile n do
    first
    repeatWhile n do
      if ← accept "." then
        anyName
        pure true
      else pure false
    if !(← broken) && (← isAtAny ["<", "<<"]) then self (.typeArguments s)
    accept ","

def classDefinition (n : Nat) (self : Rules source) (s : Scope) : Reader source Unit := do
  let start ← position
  decorators n self s
  expect "class"
  if (← isAtBinding) && !(← isAt "implements") then identifier s
  if s.typed && (← isAt "<") then self (.typeParameters s)
  if ← accept "extends" then
    self (.chain s.bracketed true)
    if ← isAtAny ["<", "<<"] then self (.typeArguments s)
  if ← accept "implements" then heritageTypes n self s anyName
  expect "\x7b"
  repeatWhile n do
    if ← isAt "\x7d" then pure false
    else if ← accept ";" then pure true
    else
      self (.classMember s.bracketed)
      pure true
  expect "\x7d"
  wrap .other start

/-- Whether an index signature is at hand: a name and a colon in brackets. -/
def isAtIndexSignature : Reader source Bool :=
  ahead do
    expect "["
    require (← isAtIdentifier)
    advance
    isAt ":"

def indexSignature (self : Rules source) (s : Scope) : Reader source Unit := do
  expect "["
  anyName
  expect ":"
  self (.type s.unbound)
  expect "]"
  expect ":"
  self (.type s.unbound)

/-- Whether a key that is written as a name or a string is at hand. -/
def isAtKeyNamed (name : String) : Reader source Bool := do
  let text ← leaf
  match ← kind with
  | .name => pure (Text.nameOf text = name.toList)
  | .string => pure (Text.unquote text = name.toList)
  | _ => pure false

/-- Whether a word that may modify what follows it on another line is at hand but hidden by an escape. -/
def isAtHiddenModifier : Reader source Bool := do
  let text ← leaf
  if (← kind) = .name && text.contains '\\'
      && isWord ["static", "get", "set"] (Text.nameOf text) then
    ahead do
      advance
      isAfterModifier
  else pure false

/-- The modifiers in front of a member; `static` and what follows it may stand on two lines. -/
def memberModifiers : Nat → List String → Reader source (List String)
  | 0, _ => fail
  | n + 1, seen => do
    let shares ← modifierAhead "static"
    let block ← ahead do
      expect "static"
      isAt "\x7b"
    if shares && !block && !seen.contains "static" then
      require (mayFollow "static" seen)
      advance
      memberModifiers n ("static" :: seen)
    else if !(← isAt "static") && (← isAtModifier modifiers) then
      match modifiers.find? (·.toList = (← leaf)) with
      | some word =>
        require (mayFollow word seen)
        advance
        memberModifiers n (word :: seen)
      | none => fail
    else pure seen

def lacks (modifiers words : List String) : Bool :=
  !words.any modifiers.contains

/-- A key of a member. A private name is private by itself, and there is no private constructor. -/
def memberKey (self : Rules source) (s : Scope) (modifiers : List String) : Reader source Unit := do
  if (← kind) = .privateName then
    require (lacks modifiers visibilities)
    require !(Text.nameOf (← leaf) = "#constructor".toList)
  let _ ← key self s true

def method (self : Rules source) (s : Scope) (modifiers : List String) (generator constructs : Bool) :
    Reader source Unit := do
  let async := modifiers.contains "async"
  require (lacks modifiers ["declare", "readonly", "accessor", "in", "out"])
  if constructs then
    require (!generator && lacks modifiers ["async", "abstract", "override"])
    if s.typed then require !(← isAt "<")
  let body ← functionRest self s (if constructs then .constructor else .member) async generator
  require (if body then lacks modifiers ["abstract"] else !generator)

/-- A field, behind its key. One that is claimed to get a value elsewhere has a type and no value. -/
def field (self : Rules source) (s : Scope) (modifiers : List String) (optional : Bool) :
    Reader source Unit := do
  require (lacks modifiers ["async", "in", "out"])
  if modifiers.contains "accessor" then
    require (!optional && lacks modifiers ["declare", "readonly"])
  let definite ← if optional || (← broken) then pure false else accept "!"
  if definite then require (← isAt ":")
  typeAnnotation self s
  if ← isAt "=" then require (!definite && lacks modifiers ["abstract"])
  defaultValue self s.inField
  semicolon

def classMember (n : Nat) (self : Rules source) (s : Scope) : Reader source Unit := do
  let start ← position
  let decorated ← isAt "@"
  decorators n self s
  require !(← isAtHiddenModifier)
  let modifiers ← memberModifiers (modifiers.length + 1) []
  let isStaticBlock ← ahead do
    expect "static"
    isAt "\x7b"
  let inner := if modifiers.contains "declare" then { s with ambient := true } else s
  if isStaticBlock then
    require (!decorated && modifiers.isEmpty)
    advance
    self (.block s.inStaticBlock)
  else if (← modifierAhead "get") || (← modifierAhead "set") then
    let gives ← isAt "get"
    advance
    require (lacks modifiers ["async", "declare", "readonly", "accessor", "in", "out"])
    require !((← isAtKeyNamed "constructor") && lacks modifiers ["static"])
    require !((← isAtKeyNamed "prototype") && modifiers.contains "static")
    memberKey self s modifiers
    let body ← accessorRest self s .member gives
    require !(body && modifiers.contains "abstract")
  else if s.typed && (← isAtIndexSignature) then
    require (!decorated && lacks modifiers (Grammar.modifiers.removeAll ["static", "readonly"]))
    indexSignature self s
    semicolon
  else
    let shared := modifiers.contains "static"
    let generator ← accept "*"
    let constructor ← isAtKeyNamed "constructor"
    require !(shared && (← isAtKeyNamed "prototype"))
    memberKey self s modifiers
    let optional ← accept "?"
    if ← isAtAny ["(", "<"] then
      let constructs := constructor && !shared
      require !(decorated && constructs)
      method self s modifiers generator constructs
    else
      require !(generator || constructor)
      field self inner modifiers optional
  wrap .other start

end CompanionStyles.Component.Grammar
