import CompanionStyles.Component.Grammar.Declarations

/-!
Imports and exports.
-/

namespace CompanionStyles.Component.Grammar

open Reader

variable {source : List Char}

/-- A name in the braces of an import or export as it is written: a name or a string. -/
structure ModuleName where
  kind : LeafKind
  text : List Char
  deriving DecidableEq, Repr

/-- Whether the name can stand for a binding, so that it is neither a string nor a word that names
nothing. -/
def ModuleName.isBinding (name : ModuleName) : Bool :=
  name.kind = .name && !isReserved name.text

/-- Whether the name can refer to a binding of a module. -/
def ModuleName.isReference (name : ModuleName) : Bool :=
  name.isBinding && !isWord (restrictedWords ++ futureWords) (Text.nameOf name.text)

/-- What stands between two commas of an import or export: a name and another name for it, or the same
name twice. -/
structure Specifier where
  /-- Marked as a type. -/
  typeOnly : Bool
  name : ModuleName
  outer : ModuleName
  deriving DecidableEq, Repr

/-- Whether a name of an import or export is at hand. -/
def isAtModuleName : Reader source Bool := do
  let kind ← kind
  pure (kind = .name || kind = .string)

def moduleName : Reader source ModuleName := do
  let name : ModuleName := ⟨← kind, ← leaf⟩
  require ((← isAtModuleName) && (name.kind = .name || Text.isPaired name.text))
  advance
  pure name

def specifierAlias (typeOnly : Bool) (name : ModuleName) : Reader source Specifier := do
  if ← accept "as" then
    let second ← moduleName
    pure ⟨typeOnly, name, second⟩
  else pure ⟨typeOnly, name, name⟩

/-- One name in the braces of an import or export. In typed sources `type` in front marks a type, unless
it is a name itself. -/
def specifier (typed : Bool) : Reader source Specifier := do
  let name ← moduleName
  if typed && name.text = "type".toList then
    if ← isAt "as" then
      let first ← moduleName
      if ← isAt "as" then
        let second ← moduleName
        if ← isAtModuleName then
          let third ← moduleName
          pure ⟨true, first, third⟩
        else pure ⟨false, name, second⟩
      else if ← isAtModuleName then
        let second ← moduleName
        pure ⟨false, name, second⟩
      else pure ⟨true, first, first⟩
    else if ← isAtModuleName then
      let second ← moduleName
      specifierAlias true second
    else specifierAlias false name
  else specifierAlias false name

/-- Reads names in braces, each of which has to satisfy `admits`; tells whether all of them can refer to
bindings. -/
def specifiers (s : Scope) (typeOnly exports : Bool) (admits : Specifier → Bool) :
    Nat → Bool → Reader source Bool
  | 0, _ => fail
  | n + 1, local_ => do
    if ← accept "\x7d" then pure local_
    else
      let start ← position
      let item ← specifier s.typed
      require (admits item && !(typeOnly && item.typeOnly))
      if exports then wrap .exported start
      let local_ := local_ && item.name.isReference
      if ← accept "," then specifiers s typeOnly exports admits n local_
      else
        expect "\x7d"
        pure local_

/-- The attributes of an import up to the closing brace. No key occurs twice. -/
def attributes : Nat → List (List Char) → Reader source Unit
  | 0, _ => fail
  | n + 1, seen => do
    if !(← accept "\x7d") then
      require (← isAtModuleName)
      let text ← leaf
      let key := if (← kind) = .string then Text.unquote text else Text.nameOf text
      require !(seen.contains key)
      advance
      expect ":"
      expectKind .string
      if ← accept "," then attributes n (key :: seen) else expect "\x7d"

def importAttributes (n : Nat) : Reader source Unit := do
  let old := (← isAt "assert") && !(← broken)
  if (← isAt "with") || old then
    advance
    expect "\x7b"
    attributes n []

def fromClause (n : Nat) : Reader source Unit := do
  expect "from"
  expectKind .string
  importAttributes n

/-- What an import takes behind the name for the default export, if there is one. An import of types
takes one or the other. -/
def importedNames (n : Nat) (s : Scope) (typeOnly named : Bool) : Reader source Unit := do
  let more ← if named then accept "," else pure true
  if more then
    require !(typeOnly && named)
    if ← accept "*" then
      expect "as"
      identifier { s with awaits := false }
    else
      expect "\x7b"
      let _ ← specifiers s typeOnly false (·.outer.isBinding) n true
  fromClause n
  semicolon

def importDeclaration (n : Nat) (s : Scope) : Reader source Unit := do
  let start ← position
  let free := { s with awaits := false }
  expect "import"
  if (← kind) = .string then
    advance
    importAttributes n
    semicolon
  else
    let typeOnly ← ahead do
      require s.typed
      expect "type"
      let isFrom ← isAt "from"
      if isFrom then
        advance
        isAtAny ["from", "="]
      else pure ((← isAtBinding) || (← isAtAny ["\x7b", "*"]))
    if typeOnly then advance
    let defers ← ahead do
      expect "defer"
      isAt "*"
    let evaluates ← ahead do
      expect "source"
      let isFrom ← isAt "from"
      if isFrom then
        advance
        isAt "from"
      else isAtBinding
    if defers then
      advance
      importedNames n s false false
    else if evaluates then
      advance
      identifier free
      fromClause n
      semicolon
    else
      let named ← isAtBinding
      if named then identifier free
      if s.typed && named && (← isAt "=") then importAlias n typeOnly
      else importedNames n s typeOnly named
  wrap .moduleItem start

/-- The names that are exported from another module, or from this one. -/
def exportList (n : Nat) (s : Scope) (typeOnly : Bool) : Reader source Unit := do
  expect "\x7b"
  let local_ ← specifiers s typeOnly true (fun _ => true) n true
  if ← accept "from" then
    let kind ← kind
    if kind = .string then
      advance
      importAttributes n
    else
      require (local_ && kind ≠ .number && !(← isAtAny ["true", "false", "null"]))
  else require local_
  semicolon

/-- A class behind its decorators, perhaps one that is not complete. -/
def decoratedClass (n : Nat) (self : Rules source) (s : Scope) : Reader source Unit := do
  decorators n self s
  if s.typed then
    let _ ← accept "abstract"
  self (.classDefinition s)

def exportedValue (n : Nat) (self : Rules source) (s : Scope) : Reader source Unit := do
  if (← isAt "function") || (← isAtBefore "async" (isAt "function")) then
    self (.function s .exported)
  else if ← isAtAny ["class", "@"] then decoratedClass n self s
  else if s.typed && (← isAtBefore "abstract" (isAt "class")) then
    advance
    self (.classDefinition s)
  else if s.typed && (← isAtBefore "interface" isAtBinding) then interfaceDeclaration n self s
  else
    self (.assignment s)
    semicolon

/-- Whether an import is at hand that gives a name to a module or to a part of one. -/
def isAtImportAlias : Reader source Bool :=
  ahead do
    expect "import"
    anyName
    if !(← isAt "=") then anyName
    isAt "="

def exportDeclaration (n : Nat) (self : Rules source) (s : Scope) : Reader source Unit := do
  let start ← position
  expect "export"
  if ← isAt "default" then
    let exported ← position
    advance
    wrap .exported exported
    exportedValue n self s
  else if s.typed && (← accept "=") then
    self (.expression s)
    semicolon
  else if s.typed && (← isAtBefore "as" (isAt "namespace")) then
    advance
    advance
    identifier s
    semicolon
  else
    let typeOnly ← ahead do
      require s.typed
      expect "type"
      isAtAny ["\x7b", "*"]
    if typeOnly then advance
    if ← accept "*" then
      let exported ← position
      if ← accept "as" then
        let _ ← moduleName
        wrap .exported exported
      fromClause n
      semicolon
    else if ← isAt "\x7b" then exportList n s typeOnly
    else if s.typed && (← isAtImportAlias) then importDeclaration n s
    else if ← isAt "@" then decoratedClass n self s
    else
      let exported ← position
      modifiedDeclaration n self s
      wrap .exported exported
  wrap .moduleItem start

end CompanionStyles.Component.Grammar
