import CompanionStyles.Component.Grammar.Types

/-!
Declarations: of bindings, and those that only typed sources have.
-/

namespace CompanionStyles.Component.Grammar

open Reader

variable {source : List Char}

/-- The words that declare bindings. -/
inductive Binder where
  /-- Bindings that may change. -/
  | variable
  | constant
  /-- Constants that are disposed of where their scope ends. -/
  | resource
  deriving DecidableEq, Repr

/-- One declared binding; tells whether it has a value or needs none. Patterns and constants need one,
unless they are defined elsewhere. -/
def declarator (self : Rules source) (s : Scope) (binder : Binder) : Reader source Bool := do
  let pattern ← isAtAny ["\x7b", "["]
  require !(pattern && binder = .resource)
  self (.bindingTarget s)
  let definite ← if s.typed && !pattern && !(← broken) then accept "!" else pure false
  let typed ← if s.typed then isAt ":" else pure false
  typeAnnotation self s
  require (typed || !definite)
  if ← isAt "=" then
    require !definite
    defaultValue self s
    pure true
  else pure ((s.ambient && binder ≠ .resource) || !(pattern || binder ≠ .variable))

/-- Bindings after the word that declares them; tells whether all of them have a value or need none. -/
def declarators (self : Rules source) (s : Scope) (binder : Binder) : Nat → Reader source Bool
  | 0 => fail
  | n + 1 => do
    let complete ← declarator self s binder
    if ← accept "," then pure ((← declarators self s binder n) && complete) else pure complete

/-- Bindings that are declared by a statement of their own. -/
def declaration (n : Nat) (self : Rules source) (s : Scope) (binder : Binder) :
    Reader source Unit := do
  require (← declarators self s binder n)
  semicolon

/-- Whether a name on the same line is at hand that `using` declares. -/
def isAtResource (loop : Bool) : Reader source Bool := do
  pure (!(← broken) && (← isAtBinding) && !(loop && (← isAt "of")))

/-- The word that declares bindings, if one is at hand. In the head of a loop, `of` does not follow
`using` as a name. -/
def binder? (s : Scope) (loop : Bool) : Reader source (Option Binder) := do
  if ← isAt "var" then pure (some .variable)
  else if ← isAt "const" then pure (some .constant)
  else if ← isAtBefore "using" (isAtResource loop) then pure (some .resource)
  else if s.awaits && (← isAtBefore "await" (isAtBefore "using" (isAtResource loop))) then
    pure (some .resource)
  else pure none

def declaringWord : Reader source Unit := do
  let _ ← accept "await"
  advance

/-- The name of a member of an enumeration; one in brackets is a string or a plain template. -/
def enumMemberName : Reader source Unit := do
  if ← accept "[" then
    let kind ← kind
    require (kind = .string || kind = .template)
    advance
    expect "]"
  else
    let kind ← kind
    require (kind = .name || kind = .string)
    advance

def enumBody (n : Nat) (self : Rules source) (s : Scope) : Reader source Unit := do
  expect "enum"
  identifier s
  expect "\x7b"
  commaList n "\x7d" do
    enumMemberName
    defaultValue self s.bracketed

def interfaceDeclaration (n : Nat) (self : Rules source) (s : Scope) : Reader source Unit := do
  expect "interface"
  identifier s
  if ← isAt "<" then self (.typeParameters s)
  if ← accept "extends" then heritageTypes n self s (identifier s)
  typeMembers n self s

def typeDeclaration (self : Rules source) (s : Scope) : Reader source Unit := do
  expect "type"
  identifier s
  if ← isAt "<" then self (.typeParameters s)
  expect "="
  self (.type s.unbound)
  semicolon

def namespaceDeclaration (n : Nat) (self : Rules source) (s : Scope) : Reader source Unit := do
  advance
  if (← kind) = .string then
    advance
    if ← isAt "\x7b" then self (.block s) else semicolon
  else
    identifier s
    repeatWhile n do
      if ← accept "." then
        identifier s
        pure true
      else pure false
    self (.block s)

/-- The name that stands for what a module exports or, unless it names a type only, for a part of it. -/
def importAlias (n : Nat) (typeOnly : Bool) : Reader source Unit := do
  expect "="
  let required ← ahead do
    expect "require"
    isAt "("
  if required then
    advance
    expect "("
    expectKind .string
    expect ")"
  else
    require !typeOnly
    dottedName n
  semicolon

/-- Whether a declaration is at hand, perhaps behind words that modify it. -/
def isAtDeclaration : Nat → Reader source Bool
  | 0 => pure false
  | n + 1 => do
    if ← isAtAny ["var", "let", "const", "function", "class", "enum"] then pure true
    else if ← isAtAny ["interface", "type"] then
      advance
      pure ((← isAtBinding) && !(← broken))
    else if ← isAtAny ["module", "namespace"] then
      advance
      pure (!(← broken) && ((← isAtBinding) || (← kind) = .string))
    else if ← isAtAny ["abstract", "accessor", "async", "declare", "private", "protected", "public",
        "readonly"] then
      advance
      if ← broken then pure false else isAtDeclaration n
    else if ← accept "static" then isAtDeclaration n
    else if ← accept "global" then
      pure ((← isAtAny ["\x7b", "export"])
        || ((← isAtBinding) && !isWord (restrictedWords ++ futureWords ++ contextualWords) (← leaf)))
    else if ← accept "import" then
      pure ((← kind) = .string || (← isAtAny ["*", "\x7b"]) || (← isAtIdentifier))
    else if ← accept "export" then isAtAny ["=", "*", "default", "\x7b", "@", "as"]
    else pure false

/-- The words in front of a declaration, each at most once; `async` belongs to the function behind it. -/
def declarationModifiers : Nat → List String → Reader source (List String)
  | 0, _ => fail
  | n + 1, seen => do
    if ← isAtModifier (modifiers.removeAll ["async"]) then
      match modifiers.find? (·.toList = (← leaf)) with
      | some word =>
        require !(seen.contains word)
        advance
        declarationModifiers n (word :: seen)
      | none => fail
    else pure seen

/-- Requires that only some words modify a declaration. -/
def allowed (modifiers words : List String) : Reader source Unit :=
  require (modifiers.all words.contains)

/-- A declaration with the words in front of it that modify it. What is declared only has no value. -/
def modifiedDeclaration (n : Nat) (self : Rules source) (s : Scope) : Reader source Unit := do
  let modifiers ← if s.typed then declarationModifiers (modifiers.length + 1) [] else pure []
  let declared := modifiers.contains "declare"
  let s := if declared then { s with ambient := true } else s
  let enumerates ← ahead do
    expect "const"
    isAt "enum"
  if s.typed && (enumerates || (← isAt "enum")) then
    allowed modifiers ["declare"]
    let _ ← accept "const"
    enumBody n self s
  else if ← isAtAny ["var", "let", "const"] then
    allowed modifiers ["declare"]
    let binder := if ← isAt "const" then Binder.constant else .variable
    advance
    declaration n self s binder
  else if ← isAt "class" then
    allowed modifiers ["declare", "abstract"]
    self (.classDefinition s)
  else if (← isAt "function") || (← isAtBefore "async" (isAt "function")) then
    allowed modifiers ["declare"]
    self (.function s (if declared then .declared else .statement))
  else
    require s.typed
    if ← accept "import" then
      identifier s
      importAlias n false
    else
      allowed modifiers ["declare"]
      if ← accept "global" then self (.block s)
      else if ← isAtAny ["module", "namespace"] then namespaceDeclaration n self s
      else if ← isAt "type" then typeDeclaration self s
      else
        require (← isAt "interface")
        interfaceDeclaration n self s

end CompanionStyles.Component.Grammar
