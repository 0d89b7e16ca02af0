import CompanionStyles.Component.Grammar.Expressions

/-!
Bindings: names and patterns that are declared, parameters and functions.
-/

namespace CompanionStyles.Component.Grammar

open Reader

variable {source : List Char}

def defaultValue (self : Rules source) (s : Scope) : Reader source Unit := do
  if ← accept "=" then self (.assignment s)

/-- A property of an object pattern; tells whether it takes the rest. -/
def patternProperty (self : Rules source) (s : Scope) : Reader source Bool := do
  if ← accept "..." then
    identifier s
    pure true
  else
    let plainName := (← isAtBinding) && !(← isAtRestricted s)
    let _ ← key self s false
    if ← accept ":" then self (.bindingTarget s) else require plainName
    defaultValue self s
    pure false

/-- An element of an array pattern; tells whether it takes the rest. -/
def patternElement (self : Rules source) (s : Scope) : Reader source Bool := do
  if ← accept "..." then
    self (.bindingTarget s)
    pure true
  else
    if !(← isAt ",") then
      self (.bindingTarget s)
      defaultValue self s
    pure false

/-- Reads by `item`, with commas in between, up to the mark `close`, which is taken. An item that takes
the rest is the last one; a comma follows it only where `trailing` allows that. -/
def restList (n : Nat) (close : String) (trailing : Bool) (item : Reader source Bool) :
    Reader source Unit := do
  repeatWhile n do
    if ← isAt close then pure false
    else if ← item then
      if trailing then
        let _ ← accept ","
      pure false
    else accept ","
  expect close

def bindingTarget (n : Nat) (self : Rules source) (s : Scope) : Reader source Unit := do
  let start ← position
  if ← accept "\x7b" then
    restList n "\x7d" false (patternProperty self s.bracketed)
    wrap .other start
  else if ← accept "[" then
    restList n "]" false (patternElement self s.bracketed)
    wrap .other start
  else identifier s

def modifiers : List String :=
  ["public", "private", "protected", "readonly", "override", "static", "abstract", "declare", "async",
    "accessor", "in", "out"]

def visibilities : List String :=
  ["public", "private", "protected"]

/-- The modifiers that stand behind `word` if they stand beside it. -/
def laterModifiers (word : String) : List String :=
  match word with
  | "static" => ["readonly", "async", "accessor", "override"]
  | "override" => ["readonly", "async", "accessor"]
  | "abstract" => ["override", "accessor"]
  | _ =>
    if visibilities.contains word then
      ["override", "static", "accessor", "readonly", "async", "abstract"]
    else []

def excludedModifiers (word : String) : List String :=
  match word with
  | "abstract" => ["private", "static", "async"]
  | "private" => ["abstract"]
  | "static" => ["abstract"]
  | "async" => ["abstract"]
  | _ => []

/-- Whether `word` may follow the modifiers in `seen`: none is given twice, one at most tells who may
see a member, and they keep their order. -/
def mayFollow (word : String) (seen : List String) : Bool :=
  !seen.contains word
    && !(visibilities.contains word && seen.any visibilities.contains)
    && !(laterModifiers word ++ excludedModifiers word).any seen.contains

/-- Whether the word at hand is one of `words` and modifies what follows it on the same line. -/
def isAtModifier (words : List String) : Reader source Bool := do
  if ← isAtAny words then
    ahead do
      advance
      pure (!(← broken) && (← isAfterModifier))
  else pure false

def typeAnnotation (self : Rules source) (s : Scope) : Reader source Unit := do
  if s.typed && (← accept ":") then self (.type s.unbound)

/-- The modifiers of a parameter, which only constructors allow; tells whether there are any. -/
def parameterModifiers (s : Scope) (owner : Owner) : Nat → List String → Reader source Bool
  | 0, _ => fail
  | n + 1, seen => do
    if ← isAtModifier modifiers then
      require (s.typed && owner = .constructor)
      match (["readonly", "override"] ++ visibilities).find? (·.toList = (← leaf)) with
      | some word =>
        require (mayFollow word seen)
        advance
        parameterModifiers s owner n (word :: seen)
      | none => fail
    else pure !seen.isEmpty

def parameter (n : Nat) (self : Rules source) (s : Scope) (owner : Owner) : Reader source Bool := do
  if ← isAt "@" then require (owner = .member || owner = .constructor)
  decorators n self s
  let field ← parameterModifiers s owner (modifiers.length + 1) []
  if ← isAt "..." then
    require !field
    advance
    self (.bindingTarget s)
    typeAnnotation self s
    pure true
  else
    if ← isAtAny ["\x7b", "["] then require !field
    self (.bindingTarget s)
    let optional ← if s.typed then accept "?" else pure false
    typeAnnotation self s
    if ← isAt "=" then require !optional
    defaultValue self s
    pure false

/-- The object that a function is called on, declared in front of its parameters. -/
def thisParameter (self : Rules source) (s : Scope) (owner : Owner) : Reader source Unit := do
  if s.typed && (← isAt "this") then
    require (owner = .function || owner = .member)
    advance
    typeAnnotation self s
    if !(← isAt ")") then expect ","

def parameters (n : Nat) (self : Rules source) (s : Scope) (owner : Owner) : Reader source Unit := do
  let s := s.bracketed
  expect "("
  thisParameter self s owner
  restList n ")" s.ambient (parameter n self s owner)

/-- The parameters of an accessor: one that gives a value has none, one that takes a value has one. In
typed sources the latter has no default. -/
def accessorParameters (n : Nat) (self : Rules source) (s : Scope) (owner : Owner) (gives : Bool) :
    Reader source Unit := do
  let s := s.bracketed
  expect "("
  thisParameter self s owner
  if !gives then
    if ← isAt "@" then require (owner = .member)
    decorators n self s
    require (!(← isAtModifier modifiers))
    self (.bindingTarget s)
    typeAnnotation self s
    if !s.typed then defaultValue self s
    let _ ← accept ","
  expect ")"

/-- A function from its keyword on. One without a body is no generator, and one that is defined elsewhere
is not asynchronous either. -/
def function (self : Rules source) (s : Scope) (form : FunctionForm) : Reader source Unit := do
  let start ← position
  let async ← accept "async"
  expect "function"
  let generator ← accept "*"
  if ← isAtBinding then
    identifier (if form = .expression then { s with awaits := async, yields := generator } else s)
  else require (form = .expression || form = .exported || (s.typed && (← isAt "<")))
  let body ← functionRest self s .function async generator
  require (if form = .declared then !(body || async || generator) else body || !generator)
  wrap .other start

def block (n : Nat) (self : Rules source) (s : Scope) : Reader source Unit := do
  let start ← position
  expect "\x7b"
  repeatWhile n do
    if ← isAt "\x7d" then pure false
    else
      self (.statement s .list)
      pure true
  expect "\x7d"
  wrap .other start

end CompanionStyles.Component.Grammar
