import CompanionStyles.Component.Grammar.Goal
import CompanionStyles.Text.Quoted

/-!
Names and keys.
-/

namespace CompanionStyles.Component.Grammar

open Reader

variable {source : List Char}

def reservedWords : List String :=
  ["break", "case", "catch", "class", "const", "continue", "debugger", "default", "delete", "do",
    "else", "enum", "export", "extends", "false", "finally", "for", "function", "if", "import", "in",
    "instanceof", "new", "null", "return", "super", "switch", "this", "throw", "true", "try", "typeof",
    "var", "void", "while", "with"]

/-- The words that name nothing in some circumstances. -/
def restrictedWords : List String :=
  ["await", "yield"]

/-- The words that the strict language keeps for later. -/
def futureWords : List String :=
  ["implements", "interface", "let", "package", "private", "protected", "public", "static"]

/-- The words that have a meaning in some place and are names in all others. -/
def contextualWords : List String :=
  ["abstract", "accessor", "any", "as", "assert", "asserts", "async", "bigint", "boolean",
    "constructor", "declare", "defer", "from", "get", "global", "infer", "intrinsic", "is", "keyof",
    "meta", "module", "namespace", "never", "number", "object", "of", "out", "override", "readonly",
    "require", "satisfies", "set", "source", "string", "symbol", "target", "type", "undefined",
    "unique", "unknown", "using"]

def isWord (words : List String) (name : List Char) : Bool :=
  words.any (·.toList = name)

def isReserved (written : List Char) : Bool :=
  isWord reservedWords (Text.nameOf written)

/-- Whether a name, as it is written, is a word with a meaning but hides it by an escape. -/
def isHiddenKeyword (written : List Char) : Bool :=
  written.contains '\\'
    && isWord (reservedWords ++ restrictedWords ++ futureWords ++ contextualWords) (Text.nameOf written)

def isAtBinding : Reader source Bool := do
  pure ((← kind) = .name && !isReserved (← leaf))

/-- Whether a name that can be declared or referred to everywhere is at hand. -/
def isAtIdentifier : Reader source Bool := do
  pure ((← isAtBinding) && !isWord restrictedWords (Text.nameOf (← leaf)))

/-- Whether the name at hand is an operator in its circumstances. -/
def isAtRestricted (s : Scope) : Reader source Bool := do
  let name := Text.nameOf (← leaf)
  pure ((s.awaits && name = "await".toList) || (s.yields && name = "yield".toList))

def identifier (s : Scope) : Reader source Unit := do
  require ((← isAtBinding) && !(← isAtRestricted s))
  advance

def anyName : Reader source Unit :=
  expectKind .name

/-- Whether a leaf that can be a key, or the bracket of a computed key, is at hand. -/
def isAtKey : Reader source Bool := do
  let kind ← kind
  pure (kind = .name || kind = .string || kind = .number || kind = .privateName || (← isAt "["))

/-- A key, perhaps a private one; tells whether it is computed. -/
def key (self : Rules source) (s : Scope) (ownsPrivate : Bool) : Reader source Bool := do
  if ← isAt "[" then
    let start ← position
    advance
    self (.assignment s.bracketed)
    expect "]"
    wrap .other start
    pure true
  else
    require ((← isAtKey) && (ownsPrivate || (← kind) ≠ .privateName))
    advance
    pure false

/-- Whether `word` is at hand and, on the same line, something that `next` accepts follows. -/
def isAtBefore (word : String) (next : Reader source Bool) : Reader source Bool :=
  ahead do
    require (← isAt word)
    advance
    pure (!(← broken) && (← next))

/-- Whether an operand of `await` or `yield` is at hand that makes an operator of the word in front of
it under all circumstances: a literal or a name, on the same line. -/
def isAtPlainOperand : Reader source Bool := do
  let kind ← kind
  pure (!(← broken) && (kind = .string || kind = .number
    || (kind = .name && !(← isAtAny ["in", "instanceof"]))))

def isAfterModifier : Reader source Bool := do
  pure ((← isAtKey) || (← isAtAny ["\x7b", "*", "..."]))

/-- The end of a statement: a semicolon, which may be left out before a brace and at the end of a line
or of the source. -/
def semicolon : Reader source Unit := do
  if ← accept ";" then pure ()
  else
    let kind ← kind
    require (kind = .finish || (← isAt "\x7d") || (← broken))

/-- Reads by `item`, with commas in between, up to the mark `close`, which is taken; a comma may end
the list. -/
def commaList (n : Nat) (close : String) (item : Reader source Unit) : Reader source Unit := do
  repeatWhile n do
    if ← isAt close then pure false
    else
      item
      if ← accept "," then pure true else pure false
  expect close

end CompanionStyles.Component.Grammar
