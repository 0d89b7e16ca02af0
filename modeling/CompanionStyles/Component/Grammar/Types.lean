import CompanionStyles.Component.Grammar.Classes

/-!
Types. No class name stands in a type, so their leaves are not joined to trees.
-/

namespace CompanionStyles.Component.Grammar

open Reader

variable {source : List Char}

/-- The mark that opens angle brackets, which may be the first half of a longer one. -/
def openAngle : Reader source Unit := do
  if ← isAt "<<" then reread .markStart
  expect "<"

def typeArguments (n : Nat) (self : Rules source) (s : Scope) : Reader source Unit := do
  openAngle
  require !(← isAt ">")
  commaList n ">" (self (.type s.unbound))

def typeParameterModifiers : List String :=
  ["const", "in", "out"]

/-- The modifiers of a type parameter, each at most once. -/
def modifyTypeParameter : Nat → List (List Char) → Reader source Unit
  | 0, _ => fail
  | n + 1, seen => do
    let modifies ← ahead do
      require (← isAtAny typeParameterModifiers)
      advance
      pure ((← kind) = .name && !(← isAt "extends"))
    if modifies then
      require !(seen.contains (← leaf))
      let seen := (← leaf) :: seen
      advance
      modifyTypeParameter n seen
    else pure ()

def typeParameters (n : Nat) (self : Rules source) (s : Scope) : Reader source Unit := do
  openAngle
  require !(← isAt ">")
  commaList n ">" do
    modifyTypeParameter (typeParameterModifiers.length + 1) []
    identifier s
    if ← accept "extends" then self (.type s.unbound)
    if ← accept "=" then self (.type s.unbound)

def dottedName (n : Nat) : Reader source Unit := do
  anyName
  repeatWhile n do
    if ← accept "." then
      anyName
      pure true
    else pure false

def typeName (n : Nat) (self : Rules source) (s : Scope) : Reader source Unit := do
  dottedName n
  if !(← broken) && (← isAtAny ["<", "<<"]) then self (.typeArguments s)

def keywordTypes : List String :=
  ["any", "bigint", "boolean", "never", "null", "number", "object", "string", "symbol", "undefined", "unknown"]

/-- Whether a type is at hand that is a keyword, and so takes no arguments. In front of a dot it is a name. -/
def isAtKeywordType : Reader source Bool :=
  ahead do
    require (← isAtAny keywordTypes)
    advance
    pure !(← isAt ".")

def isAtMappedType : Reader source Bool :=
  ahead do
    expect "\x7b"
    if ← isAtAny ["+", "-"] then
      advance
      isAt "readonly"
    else
      let _ ← accept "readonly"
      expect "["
      anyName
      isAt "in"

def mappedType (self : Rules source) (s : Scope) : Reader source Unit := do
  expect "\x7b"
  if ← isAtAny ["+", "-"] then
    advance
    expect "readonly"
  else
    let _ ← accept "readonly"
  expect "["
  anyName
  expect "in"
  self (.type s.unbound)
  if ← accept "as" then self (.type s.unbound)
  expect "]"
  if ← isAtAny ["+", "-"] then
    advance
    expect "?"
  else
    let _ ← accept "?"
  typeAnnotation self s
  let _ ← accept ";"
  expect "\x7d"

def signature (self : Rules source) (s : Scope) : Reader source Unit := do
  if ← isAt "<" then self (.typeParameters s)
  self (.parameters s .function)
  if ← accept ":" then self (.returnType s.unbound)

/-- A member of an interface or an object type, with the mark behind it, which may be left out. -/
def typeMember (self : Rules source) (s : Scope) : Reader source Unit := do
  let constructs ← ahead do
    expect "new"
    isAtAny ["(", "<"]
  if constructs then
    advance
    signature self s
  else if ← isAtAny ["(", "<"] then signature self s
  else
    let constant ← isAtModifier ["readonly"]
    if constant then advance
    require !((← isAtModifier ("export" :: modifiers)) || (← modifierAhead "static"))
    if (← modifierAhead "get") || (← modifierAhead "set") then
      let gives ← isAt "get"
      advance
      let _ ← key self s false
      self (.accessorParameters s .function gives)
      if gives && (← accept ":") then self (.returnType s.unbound)
    else if ← isAtIndexSignature then indexSignature self s
    else
      let _ ← key self s false
      let _ ← accept "?"
      if ← isAtAny ["(", "<"] then
        require !constant
        signature self s
      else typeAnnotation self s
  if !(← accept ",") then
    let _ ← accept ";"

def typeMembers (n : Nat) (self : Rules source) (s : Scope) : Reader source Unit := do
  expect "\x7b"
  repeatWhile n do
    if ← isAt "\x7d" then pure false
    else
      self (.typeMember s)
      pure true
  expect "\x7d"

/-- An element of a tuple, which may be named and optional or a rest. -/
def tupleElement (self : Rules source) (s : Scope) : Reader source Unit := do
  let rest ← accept "..."
  let named ← ahead do
    anyName
    let _ ← accept "?"
    isAt ":"
  if named then
    anyName
    if ← accept "?" then require !rest
    expect ":"
  self (.type s)

def templateType (n : Nat) (self : Rules source) (s : Scope) : Reader source Unit := do
  expectKind .templateHead
  repeatWhile n do
    self (.type s)
    require (← isAt "\x7d")
    reread .templateRest
    let kind ← kind
    advance
    pure (kind = .templateMiddle)

def importType (n : Nat) (self : Rules source) (s : Scope) : Reader source Unit := do
  expect "import"
  expect "("
  expectKind .string
  if ← accept "," then
    require (← isAt "\x7b")
    self (.primary s.bracketed)
    let _ ← accept ","
  expect ")"
  repeatWhile n do
    if ← accept "." then
      anyName
      pure true
    else pure false
  if !(← broken) && (← isAt "<") then self (.typeArguments s)

def isAtAssertion : Reader source Bool :=
  isAtBefore "asserts" do pure ((← kind) = .name)

/-- A claim that something holds, perhaps that it is of a type. -/
def assertion (self : Rules source) (s : Scope) : Reader source Unit := do
  expect "asserts"
  anyName
  if !(← broken) && (← accept "is") then self (.type s.unbound)

def typePrimary (n : Nat) (self : Rules source) (s : Scope) : Reader source Unit := do
  match ← kind with
  | .string => advance
  | .number => advance
  | .template => templatePiece false
  | .templateHead => templateType n self s
  | .name =>
    if ← isAt "typeof" then
      advance
      if ← isAt "import" then importType n self s else typeName n self s
    else if ← isAt "import" then importType n self s
    else if (← isAtAny ["void", "true", "false"]) || (← isAtKeywordType) then advance
    else if ← accept "this" then
      if !(← broken) && (← accept "is") then self (.type s)
    else if ← isAtAssertion then assertion self s
    else typeName n self s
  | .mark =>
    if ← accept "(" then
      self (.type s)
      expect ")"
    else if ← accept "[" then commaList n "]" (tupleElement self s)
    else if ← isAt "\x7b" then
      if ← isAtMappedType then mappedType self s else typeMembers n self s
    else if ← accept "-" then expectKind .number
    else if ← accept "?" then
      if !(← isAtAny [",", "\x7d", ")", ">", "=", "|"]) then self (.type s)
    else fail
  | _ => fail

def isAtType : Reader source Bool := do
  match ← kind with
  | .string => pure true
  | .number => pure true
  | .template => pure true
  | .templateHead => pure true
  | .name =>
    pure ((← isAtIdentifier) || (← isAtAny ["void", "null", "this", "typeof", "new", "true", "false",
      "import", "function"]))
  | .mark =>
    if ← isAt "-" then
      ahead do
        advance
        pure ((← kind) = .number)
    else if ← isAt "(" then
      ahead do
        advance
        pure ((← kind) ≠ .finish)
    else isAtAny ["\x7b", "[", "<", "|", "&", "*", "?", "!", "..."]
  | _ => pure false

/-- A type with what stands behind it; tells whether it is the type of arrays or tuples. -/
def postfixType (n : Nat) (self : Rules source) (s : Scope) : Reader source Bool := do
  let rec marks : Nat → Reader source Unit
    | 0 => fail
    | n + 1 => do
      if ← accept "!" then marks n
      else typePrimary n self s
  let rec links : Nat → Bool → Reader source Bool
    | 0, _ => fail
    | n + 1, isList => do
      if ← broken then pure isList
      else if ← accept "!" then links n false
      else if ← isAt "?" then
        let branches ← ahead do
          advance
          isAtType
        if branches then pure isList
        else
          advance
          links n false
      else if ← accept "[" then
        if ← accept "]" then links n true
        else
          self (.type s)
          expect "]"
          links n false
      else pure isList
  let tuple ← isAt "["
  marks n
  links n tuple

def typeOperand (n : Nat) (self : Rules source) (s : Scope) : Reader source Unit := do
  if ← isAtAny ["keyof", "unique"] then
    advance
    self (.typeOperand s)
  else if ← accept "readonly" then
    require !(← isAtAny ["keyof", "unique", "readonly", "infer"])
    require (← postfixType n self s.unbound)
  else if ← accept "infer" then
    identifier s
    let _ ← attempt do
      expect "extends"
      self (.type { s with bound := true })
      require (s.bound || !(← isAt "?"))
  else
    let _ ← postfixType n self s.unbound

/-- Operands joined by `operator`, which may also stand in front. -/
def joined (n : Nat) (operator : String) (operand : Reader source Unit) : Reader source Unit := do
  let _ ← accept operator
  operand
  repeatWhile n do
    if ← accept operator then
      operand
      pure true
    else pure false

def functionType (self : Rules source) (s : Scope) : Reader source Unit := do
  let _ ← accept "abstract"
  let _ ← accept "new"
  if ← isAt "<" then self (.typeParameters s)
  self (.parameters s .function)
  expect "=>"
  self (.returnType s)

def type (n : Nat) (self : Rules source) (s : Scope) : Reader source Unit := do
  let operands := joined n "|" (joined n "&" (self (.typeOperand s)))
  let constructs ← isAtBefore "abstract" (isAt "new")
  if constructs || (← isAtAny ["<", "new"]) then functionType self s
  else
    if ← isAt "(" then orElse (functionType self s) operands else operands
    if !s.bound && !(← broken) && (← accept "extends") then
      self (.type { s with bound := true })
      expect "?"
      self (.type s)
      expect ":"
      self (.type s)

def isAtTypeClaim : Reader source Bool :=
  ahead do
    anyName
    pure (!(← broken) && (← isAt "is"))

/-- A return type, which may be a claim about a parameter. -/
def returnType (self : Rules source) (s : Scope) : Reader source Unit := do
  if ← isAtTypeClaim then
    advance
    advance
  self (.type s)

end CompanionStyles.Component.Grammar
