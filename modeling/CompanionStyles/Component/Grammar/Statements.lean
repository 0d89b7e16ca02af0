import CompanionStyles.Component.Grammar.Modules

/-!
Statements.
-/

namespace CompanionStyles.Component.Grammar

open Reader

variable {source : List Char}

def condition (self : Rules source) (s : Scope) : Reader source Unit := do
  expect "("
  self (.expression s)
  expect ")"

/-- Whether an operator that goes on with an operand is at hand. -/
def isAtOperator : Reader source Bool := do
  if ← isAt ">" then pure true
  else if (← kind) = .mark then
    isAtAny (assignmentOperators ++ operatorLevels.flatten)
  else isAtAny ["in", "instanceof"]

/-- A statement that starts with `let`, which is a name in front of an operator, a dot or a parenthesis,
at the end of a statement, and where no declaration may stand. -/
def letStatement (n : Nat) (self : Rules source) (s : Scope) (place : Place) :
    Reader source Unit := do
  let behind (question : Reader source Bool) : Reader source Bool :=
    ahead do
      advance
      question
  if ← behind isAtOperator then
    self (.assignment s)
    semicolon
  else if ← behind (isAtAny [".", "("]) then self (.expression s)
  else
    let bracket ← behind (isAt "[")
    let ends ← behind (isAt ";")
    advance
    if (place = .single && !bracket) || ends then semicolon
    else
      require (place = .list)
      declaration n self s .variable

/-- Whether `let` is at hand and declares bindings in the head of a loop. -/
def isAtLoopLet : Reader source Bool :=
  ahead do
    expect "let"
    if (← kind) = .name then pure !(← isAt "in") else isAtAny ["\x7b", "["]

/-- The head of a `for` loop and its body. A loop over elements goes by `of`, one over keys by `in`; a
loop that awaits goes over elements, and a resource is an element. -/
def forLoop (n : Nat) (self : Rules source) (s : Scope) : Reader source Unit := do
  let inner := { s with inOperator := false }
  expect "for"
  let awaits ← isAt "await"
  if awaits then
    require s.awaits
    advance
  expect "("
  let counted : Reader source Unit := do
    require !awaits
    expect ";"
    if !(← isAt ";") then self (.expression s.bracketed)
    expect ";"
    if !(← isAt ")") then self (.expression s.bracketed)
  let binder ← if ← isAtLoopLet then pure (some Binder.variable) else binder? s true
  match binder with
  | some binder =>
    declaringWord
    let complete ← declarators self inner binder n
    if ← accept "of" then self (.assignment s)
    else if ← isAt "in" then
      require !(awaits || binder = .resource)
      advance
      self (.expression s)
    else
      require (complete || binder = .resource)
      counted
  | none =>
    if ← isAt ";" then counted
    else
      let startsLet ← isAt "let"
      let named ← isAtBefore "async" (isAt "of")
      self (.expression inner)
      if ← isAtAny ["of", "in"] then
        require !(← isLastKind .assignment)
        target
      if ← isAt "of" then
        require !(startsLet || (named && !awaits))
        advance
        self (.assignment s)
      else if ← isAt "in" then
        require !awaits
        advance
        self (.expression s)
      else counted
  expect ")"
  self (.statement s .single)

/-- The cases of a `switch`. No resource is declared right in one of them. -/
def cases (n : Nat) (self : Rules source) (s : Scope) : Reader source Unit := do
  expect "\x7b"
  repeatWhile n do
    if ← isAt "\x7d" then pure false
    else
      if ← accept "case" then self (.expression s) else expect "default"
      expect ":"
      repeatWhile n do
        if ← isAtAny ["case", "default", "\x7d"] then pure false
        else
          require !((← binder? s false) = some .resource)
          self (.statement s .list)
          pure true
      pure true
  expect "\x7d"

/-- A `try` statement, which catches, finishes or does both. -/
def tryStatement (self : Rules source) (s : Scope) : Reader source Unit := do
  expect "try"
  self (.block s)
  let caught ← accept "catch"
  if caught then
    if ← accept "(" then
      self (.bindingTarget s)
      typeAnnotation self s
      expect ")"
    self (.block s)
  let finished ← accept "finally"
  if finished then self (.block s)
  require (caught || finished)

/-- A word that leaves a statement or goes on with a loop, perhaps one with a label. -/
def jump (s : Scope) : Reader source Unit := do
  advance
  if (← isAtBinding) && !(← broken) then identifier s
  semicolon

/-- A class behind its decorators, which may be exported. -/
def decoratedStatement (n : Nat) (self : Rules source) (s : Scope) (place : Place) :
    Reader source Unit := do
  decorators n self s
  if ← isAt "export" then
    let start ← position
    advance
    let exported ← position
    if ← accept "default" then wrap .exported exported
    require !(← isAt "@")
    let _ ← if s.typed then declarationModifiers (modifiers.length + 1) [] else pure []
    let declared ← position
    self (.classDefinition s)
    wrap .exported declared
    wrap .moduleItem start
  else
    require (place = .list)
    if s.typed then
      allowed (← declarationModifiers (modifiers.length + 1) []) ["declare", "abstract"]
    self (.classDefinition s)

/-- Words that may start a declaration of typed sources. -/
def declarationWords : List String :=
  ["interface", "type", "module", "namespace", "declare", "enum", "private", "protected", "public",
    "abstract", "accessor", "static", "readonly", "global"]

def statement (n : Nat) (self : Rules source) (s : Scope) (place : Place) : Reader source Unit := do
  let start ← position
  let enumerates ← ahead do
    expect "const"
    isAt "enum"
  let declares ← if s.typed && ((← isAtAny declarationWords) || enumerates) then
      ahead (isAtDeclaration n)
    else pure false
  if declares then modifiedDeclaration n self s
  else if ← isAt "\x7b" then self (.block s)
  else if ← accept ";" then pure ()
  else if ← isAt "let" then letStatement n self s place
  else if (← isAt "function") || (← isAtBefore "async" (isAt "function")) then
    if place = .single then
      let plain ← ahead do
        expect "function"
        pure !(← isAt "*")
      require plain
    self (.function s .statement)
  else if ← isAt "class" then
    require (place = .list)
    self (.classDefinition s)
  else if ← isAt "@" then decoratedStatement n self s place
  else if ← accept "if" then
    condition self s
    self (.statement s .single)
    if ← accept "else" then self (.statement s .single)
  else if ← isAt "for" then forLoop n self s
  else if ← accept "while" then
    condition self s
    self (.statement s .single)
  else if ← accept "do" then
    self (.statement s .single)
    expect "while"
    condition self s
    let _ ← accept ";"
  else if ← accept "switch" then
    condition self s
    cases n self s
  else if ← isAt "try" then tryStatement self s
  else if ← accept "throw" then
    require !(← broken)
    self (.expression s)
    semicolon
  else if ← isAt "return" then
    require s.returns
    advance
    if !(← broken) && !(← isAtAny [";", "\x7d"]) && (← kind) ≠ .finish then
      self (.expression { s with inOperator := true })
    semicolon
  else if ← isAtAny ["break", "continue"] then jump s
  else if ← accept "debugger" then semicolon
  else if ← accept "with" then
    condition self s
    self (.statement s .single)
  else if (← isAt "import") && !(← ahead (do
      expect "import"
      isAtAny ["(", "."])) then importDeclaration n s
  else if ← isAt "export" then exportDeclaration n self s
  else if (← isAtBinding) && !(← isAtRestricted s) && (← ahead (do
      anyName
      isAt ":")) then
    advance
    expect ":"
    self (.statement s .single)
  else
    match ← binder? s false with
    | some binder =>
      require (place = .list || (← isAt "var"))
      declaringWord
      declaration n self s binder
    | none =>
      self (.expression s)
      semicolon
  wrap .other start

end CompanionStyles.Component.Grammar
