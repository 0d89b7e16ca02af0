import CompanionStyles.Component.Grammar.Targets

/-!
Expressions.
-/

namespace CompanionStyles.Component.Grammar

open Reader

variable {source : List Char}

def expression (n : Nat) (self : Rules source) (s : Scope) : Reader source Unit := do
  let start ← position
  let s := { s with decorator := false }
  self (.assignment s)
  if ← isAt "," then
    repeatWhile n do
      if ← accept "," then
        self (.assignment s)
        pure true
      else pure false
    wrap .other start

def assignmentOperators : List String :=
  ["=", "+=", "-=", "*=", "/=", "%=", "**=", "<<=", "&=", "|=", "^=", "&&=", "||=", "??=", ">>=", ">>>="]

/-- Whether the leaf after the parenthesis at hand and those behind it start an arrow function's
parameters. Where it stays open, the answer is yes. -/
def parametersAhead : Reader source Bool := do
  advance
  if ← accept ")" then isAtAny ["=>", ":", "\x7b"]
  else if ← isAtAny ["[", "\x7b", "..."] then pure true
  else
    let modifier ← isAtAny ["public", "private", "protected", "readonly", "override"]
    if !((← isAtIdentifier) || (← isAt "this")) then pure false
    else
      advance
      if modifier && ((← kind) = .name || (← isAtAny ["\x7b", "["])) then pure !(← isAt "as")
      else if ← accept "?" then isAtAny [":", ",", "=", ")"]
      else isAtAny [":", ",", "=", ")"]

/-- Whether type parameters of an arrow function are at hand. Where markup may stand, a single name in
angle brackets is an element. -/
def typeParametersAhead (s : Scope) : Reader source Bool := do
  advance
  if !s.markup then pure true
  else
    let _ ← accept "const"
    require (← isAtIdentifier)
    advance
    if ← accept "extends" then pure !(← isAtAny ["=", ">", "/"])
    else isAtAny [",", "="]

def arrowAhead (s : Scope) : Reader source Bool := do
  if ← isAt "(" then ahead parametersAhead
  else if (← isAt "<") && s.typed then ahead (typeParametersAhead s)
  else if (← isAtBinding) && !(← isAtRestricted s) then
    let single ← ahead do
      advance
      pure (!(← broken) && (← isAt "=>"))
    if single then pure true
    else isAtBefore "async" do pure ((← isAtBinding) || (← isAtAny ["(", "<"]))
  else pure false

def arrow (self : Rules source) (s : Scope) : Reader source Unit := do
  let start ← position
  let async ← isAtBefore "async" do pure !(← isAt "=>")
  if async then advance
  let inner := s.inArrow async
  let mut returnType := false
  if ← isAtBinding then identifier s
  else
    if s.typed && (← isAt "<") then self (.typeParameters s)
    self (.parameters { s with awaits := s.awaits || async } .arrow)
    if s.typed && (← accept ":") then
      self (.returnType s.unbound)
      returnType := true
  require !(← broken)
  expect "=>"
  if ← isAt "\x7b" then self (.block { inner with branch := false })
  else self (.assignment inner)
  wrap .arrow start
  if returnType && s.branch then require (← isAt ":")

/-- An expression without a comma at its top, arrow functions aside. -/
def plainAssignment (self : Rules source) (s : Scope) : Reader source Unit := do
  let start ← position
  self (.binary s 0)
  if ← isAt ">" then reread .greater
  if ← accept "?" then
    self (.assignment { s with inOperator := true, branch := true })
    expect ":"
    self (.assignment s)
    wrap .other start
  else if ← isAtAny assignmentOperators then
    target
    advance
    self (.assignment s)
    wrap .assignment start

/-- Whether the leaf at hand ends an expression that an operator would need. -/
def isAtEnd : Reader source Bool := do
  let kind ← kind
  pure (kind = .finish || (← isAtAny [")", "]", "\x7d", ",", ";", ":", "in"]))

def yieldExpression (self : Rules source) (s : Scope) : Reader source Unit := do
  let start ← position
  expect "yield"
  if !(← broken) then
    if ← accept "*" then self (.assignment s)
    else if ← isAtEnd then pure ()
    else self (.assignment s)
  wrap .other start

def assignment (self : Rules source) (s : Scope) : Reader source Unit := do
  if s.yields && (← isAt "yield") then yieldExpression self s
  else if ← isAtBefore "yield" isAtPlainOperand then fail
  else if ← arrowAhead s then orElse (self (.arrow s)) (plainAssignment self s)
  else plainAssignment self s

/-- The operators between operands, the loosest first; those of a later level bind tighter. -/
def operatorLevels : List (List String) :=
  [["??"], ["||"], ["&&"], ["|"], ["^"], ["&"], ["==", "!=", "===", "!=="], ["<", ">", "<=", ">="],
    ["<<", ">>", ">>>"], ["+", "-"], ["*", "/", "%"], ["**"]]

def comparisonLevel : Nat :=
  8

def powerLevel : Nat :=
  12

def levelOf (text : List Char) : List (List String) → Nat → Option Nat
  | [], _ => none
  | level :: levels, n =>
    if level.any (·.toList = text) then some n else levelOf text levels (n + 1)

/-- What stands between operands. -/
inductive Operator where
  | between (level : Nat)
  | typeClaim
  deriving DecidableEq

def operator? (s : Scope) : Reader source (Option Operator) := do
  if ← isAt ">" then reread .greater
  let text ← leaf
  match ← kind with
  | .mark => pure ((levelOf text operatorLevels 1).map .between)
  | .name =>
    if text = "instanceof".toList || (s.inOperator && text = "in".toList) then
      pure (some (.between comparisonLevel))
    else if s.typed && !(← broken) && (text = "as".toList || text = "satisfies".toList) then
      pure (some .typeClaim)
    else pure none
  | _ => pure none

def isLastKind (kind : NodeKind) : Reader source Bool := do
  match ← last with
  | some (.node k _) => pure (k = kind)
  | _ => pure false

def operationKind (operator : List Char) : NodeKind :=
  if operator = "??".toList then .coalescing
  else if operator = "||".toList || operator = "&&".toList then .logical
  else .other

/-- Requires that the operand read last is not joined with an operator that must not be mixed with
the one that it stands beside. -/
def unmixed (operator : NodeKind) : Reader source Unit := do
  match operator with
  | .coalescing => require !(← isLastKind .logical)
  | .logical => require !(← isLastKind .coalescing)
  | _ => pure ()

/-- Operands and the operators between them that bind tighter than `level`. A private name is an
operand of `in` alone, on its left. -/
def binary (n : Nat) (self : Rules source) (s : Scope) (level : Nat) : Reader source Unit := do
  let start ← position
  if (← kind) = .privateName then
    advance
    require (s.inOperator && (← isAt "in"))
    let named ← ahead do
      advance
      pure ((← kind) = .privateName)
    require !named
  else self (.unary s)
  repeatWhile n do
    match ← operator? s with
    | none => pure false
    | some .typeClaim =>
      if comparisonLevel ≤ level then pure false
      else
        advance
        self (.type s.unbound)
        wrap .typed start
        pure true
    | some (.between operatorLevel) =>
      if operatorLevel ≤ level then pure false
      else
        let kind := operationKind (← leaf)
        unmixed kind
        if operatorLevel = powerLevel then require !(← isLastKind .unary)
        advance
        self (.binary s (if operatorLevel = powerLevel then operatorLevel - 1 else operatorLevel))
        unmixed kind
        wrap kind start
        pure true

def unary (self : Rules source) (s : Scope) : Reader source Unit := do
  let start ← position
  if ← isAtAny ["delete", "void", "typeof", "+", "-", "~", "!"] then
    advance
    self (.unary s)
    wrap .unary start
  else if s.awaits && (← isAt "await") then
    advance
    self (.unary s)
    wrap .unary start
  else if ← isAtBefore "await" isAtPlainOperand then fail
  else if ← isAtAny ["++", "--"] then
    advance
    self (.unary s)
    simpleTarget
    wrap .other start
  else if s.markup && (← isAt "<") then self (.element s .code)
  else if s.typed && (← isAt "<") then
    advance
    self (.type s.unbound)
    expect ">"
    self (.unary s)
    wrap .asserted start
  else
    self (.chain s true)
    if !(← broken) && (← isAtAny ["++", "--"]) then
      simpleTarget
      advance
      wrap .other start

/-- Whether type arguments that no call follows can end here. -/
def endsTypeArguments : Reader source Bool := do
  if ← isAtAny ["<", ">", "+", "-"] then pure false
  else if ← broken then pure true
  else
    let kind ← kind
    if kind = .mark then
      pure !(← isAtAny ["(", "[", "\x7b", "!", "~", "++", "--", "/", "@"])
    else if kind = .name then isAtAny ["in", "of", "instanceof", "as", "satisfies", "extends", "implements"]
    else pure (kind = .finish)

def isAtNamedLink : Reader source Bool :=
  ahead do
    if ← accept "?." then
      let kind ← kind
      pure (kind = .name || kind = .privateName)
    else isAt "."

/-- Takes a piece of a template; where no function reads the template, its escapes have a meaning. -/
def templatePiece (tagged : Bool) : Reader source Unit := do
  require (tagged || Leaf.hasMeaning (← leaf))
  advance

def template (n : Nat) (self : Rules source) (s : Scope) (tagged : Bool) : Reader source Unit := do
  if (← kind) = .template then templatePiece tagged
  else
    let start ← position
    require ((← kind) = .templateHead)
    templatePiece tagged
    repeatWhile n do
      self (.expression s.bracketed)
      require (← isAt "\x7d")
      reread .templateRest
      let kind ← kind
      templatePiece tagged
      pure (kind = .templateMiddle)
    wrap .other start

def isAtTemplate : Reader source Bool := do
  let kind ← kind
  pure (kind = .template || kind = .templateHead)

def memberName : Reader source Unit := do
  let kind ← kind
  require (kind = .name || kind = .privateName)
  advance

/-- One more link of a chain from `start` on; `optional` tells whether the chain may have stopped
before. Gives whether there was a link and whether the chain may stop now. -/
def link (n : Nat) (self : Rules source) (s : Scope) (calls : Bool) (start : Nat) (optional : Bool) :
    Reader source (Bool × Bool) := do
  let done : Reader source (Bool × Bool) := pure (true, optional)
  let none : Reader source (Bool × Bool) := pure (false, optional)
  if ← accept "." then
    memberName
    wrap (if optional then .other else .member) start
    done
  else if calls && (← isAt "?.") then
    advance
    if ← isAt "(" then
      self (.arguments s)
      wrap .other start
    else if !s.decorator && (← isAt "[") then
      advance
      self (.expression s.bracketed)
      expect "]"
      wrap .other start
    else if s.typed && (← isAt "<") then
      self (.typeArguments s)
      self (.arguments s)
      wrap .other start
    else
      memberName
      wrap .other start
    pure (true, true)
  else if !s.decorator && (← isAt "[") then
    advance
    self (.expression s.bracketed)
    expect "]"
    wrap (if optional then .other else .member) start
    done
  else if s.typed && !(← broken) && (← isAt "!") then
    advance
    wrap .typed start
    done
  else if ← isAtTemplate then
    require !optional
    template n self s true
    wrap .other start
    done
  else if calls && (← isAt "(") then
    self (.arguments s)
    wrap (if optional then .other else .call) start
    done
  else if s.typed && (← isAtAny ["<", "<<"]) then
    let typeArguments ← attempt do
      self (.typeArguments s)
      require !((← touching) && (← isAtAny ["=", "==", "===", "=>"]))
      require ((calls && (← isAt "(")) || (← isAtTemplate) || (← endsTypeArguments))
    if typeArguments then
      if calls && (← isAt "(") then
        self (.arguments s)
        wrap (if optional then .other else .call) start
      else if ← isAtTemplate then
        require !optional
        template n self s true
        wrap .other start
      else
        require !(← isAtNamedLink)
        wrap .other start
      done
    else none
  else none

def links (n : Nat) (self : Rules source) (s : Scope) (calls : Bool) (start : Nat) :
    Nat → Bool → Reader source Unit
  | 0, _ => fail
  | fuel + 1, optional => do
    let (more, optional) ← link n self s calls start optional
    if more then links n self s calls start fuel optional else pure ()

/-- Whether a tree imports a module where it is evaluated. -/
def isImportCall : Syntax → Bool
  | .node .other (.leaf .name text :: _) => text = "import".toList
  | _ => false

/-- An object that `new` makes, or the target of a call with `new`. -/
def newObject (self : Rules source) (s : Scope) : Reader source Unit := do
  let start ← position
  expect "new"
  if ← accept "." then expect "target"
  else
    self (.chain s false)
    match ← last with
    | some tree => require !(isImportCall tree)
    | none => fail
    if s.typed && (← isAt "<") then
      let _ ← attempt (self (.typeArguments s))
    require !(← isAt "?.")
    if ← isAt "(" then self (.arguments s)
  wrap .other start

def chain (n : Nat) (self : Rules source) (s : Scope) (calls : Bool) : Reader source Unit := do
  let start ← position
  if ← isAt "new" then newObject self s
  else self (.primary s)
  if !calls && (← isAtAny ["?."]) then fail
  links n self s calls start n false

def arguments (n : Nat) (self : Rules source) (s : Scope) : Reader source Unit := do
  let start ← position
  expect "("
  commaList n ")" do
    let element ← position
    if ← accept "..." then
      self (.assignment s.bracketed)
      wrap .spread element
    else self (.assignment s.bracketed)
  wrap .arguments start

def arrayLiteral (n : Nat) (self : Rules source) (s : Scope) : Reader source Unit := do
  let start ← position
  expect "["
  repeatWhile n do
    if ← isAt "]" then pure false
    else if ← accept "," then pure true
    else
      let element ← position
      if ← accept "..." then
        self (.assignment s.bracketed)
        wrap .spread element
      else self (.assignment s.bracketed)
      if ← isAt "]" then pure false
      else
        expect ","
        pure true
  expect "]"
  wrap .array start

def objectLiteral (n : Nat) (self : Rules source) (s : Scope) : Reader source Unit := do
  let start ← position
  expect "\x7b"
  commaList n "\x7d" (self (.property s.bracketed))
  wrap .object start

/-- The body of a function, which typed sources may leave out; tells whether it is there. -/
def functionBody (self : Rules source) (s inner : Scope) : Reader source Bool := do
  if s.typed && !(← isAt "\x7b") then
    semicolon
    pure false
  else
    self (.block inner)
    pure true

/-- Type parameters, parameters, the return type and the body of a function; tells whether the body is
there. A constructor has no return type. -/
def functionRest (self : Rules source) (s : Scope) (owner : Owner) (async generator : Bool) :
    Reader source Bool := do
  let inner := s.inFunction async generator
  if s.typed && (← isAt "<") then self (.typeParameters s)
  self (.parameters inner owner)
  if s.typed && owner ≠ .constructor && (← accept ":") then self (.returnType s.unbound)
  functionBody self s inner

/-- What follows the key of an accessor; tells whether it has a body. Only one that gives a value has a
type. -/
def accessorRest (self : Rules source) (s : Scope) (owner : Owner) (gives : Bool) :
    Reader source Bool := do
  let inner := s.inFunction false false
  self (.accessorParameters inner owner gives)
  if s.typed && gives && (← accept ":") then self (.returnType s.unbound)
  functionBody self s inner

/-- Whether `word` is at hand and modifies what follows it. -/
def modifierAhead (word : String) : Reader source Bool :=
  ahead do
    expect word
    isAfterModifier

def property (self : Rules source) (s : Scope) : Reader source Unit := do
  let start ← position
  if ← accept "..." then
    self (.assignment s)
    wrap .spread start
  else if (← modifierAhead "get") || (← modifierAhead "set") then
    let gives ← isAt "get"
    advance
    let _ ← key self s false
    let _ ← accessorRest self s .function gives
    wrap (.property .accessor) start
  else
    let async ← isAtBefore "async" isAfterModifier
    if async then advance
    let generator ← accept "*"
    let plainName := (← isAtBinding) && !(← isAtRestricted s)
    let computed ← key self s false
    if async || generator || (← isAtAny ["(", "<"]) then
      let _ ← functionRest self s .function async generator
      wrap (.property .method) start
    else if ← accept ":" then
      self (.assignment s)
      wrap (.property (if computed then .computed else .keyed)) start
    else
      require plainName
      if ← accept "=" then
        self (.assignment s)
        wrap .defaultedShorthand start
      else wrap (.property .shorthand) start

def decorators (n : Nat) (self : Rules source) (s : Scope) : Reader source Unit :=
  repeatWhile n do
    if ← accept "@" then
      self (.chain { s with decorator := true } true)
      pure true
    else pure false

/-- What follows `import` where it is no declaration. -/
def importExpression (self : Rules source) (s : Scope) : Reader source Unit := do
  let start ← position
  expect "import"
  let phased ← accept "."
  if phased && (← accept "meta") then wrap .moduleItem start
  else
    if phased then
      require (← isAtAny ["defer", "source"])
      advance
    expect "("
    self (.assignment s.bracketed)
    if ← accept "," then
      if !(← isAt ")") then
        self (.assignment s.bracketed)
        let _ ← accept ","
    expect ")"
    wrap .other start

def primary (n : Nat) (self : Rules source) (s : Scope) : Reader source Unit := do
  match ← kind with
  | .name =>
    if ← isAtAny ["this", "null", "true", "false"] then advance
    else if ← isAt "function" then self (.function s .expression)
    else if ← isAtBefore "async" (isAt "function") then self (.function s .expression)
    else if ← isAt "class" then self (.classDefinition s)
    else if ← isAt "import" then importExpression self s
    else if ← accept "super" then require (← isAtAny ["(", ".", "["])
    else identifier s
  | .string => advance
  | .number => advance
  | .template => template n self s false
  | .templateHead => template n self s false
  | .mark =>
    if ← isAt "(" then
      let start ← position
      advance
      self (.expression s.bracketed)
      expect ")"
      wrap .parenthesized start
    else if ← isAt "[" then arrayLiteral n self s
    else if ← isAt "\x7b" then objectLiteral n self s
    else if ← isAtAny ["/", "/="] then
      reread .regex
      expectKind .regex
    else if ← isAt "@" then
      decorators n self s
      self (.classDefinition s)
    else fail
  | _ => fail

end CompanionStyles.Component.Grammar
