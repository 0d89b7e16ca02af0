import CompanionStyles.Component.Grammar.Bindings

/-!
Markup: elements, fragments, their attributes and what stands between tags.
-/

namespace CompanionStyles.Component.Grammar

open Reader

variable {source : List Char}

def markupName : Reader source (List Char) := do
  reread .markupName
  let name ← leaf
  require !(isHiddenKeyword (name.takeWhile (· ≠ '-')))
  expectKind .markupName
  pure name

/-- The name of an element: names joined by dots, or two names joined by a colon. -/
def elementName (n : Nat) : Reader source (List (List Char)) := do
  let start ← position
  let first ← markupName
  if ← accept ":" then
    let second ← markupName
    wrap .namespacedName start
    pure [first, [':'], second]
  else
    let rec more : Nat → Reader source (List (List Char))
      | 0 => fail
      | n + 1 => do
        if ← accept "." then
          let name ← markupName
          require !(name.contains '-')
          pure (name :: (← more n))
        else pure []
    pure (first :: (← more n))

def children (n : Nat) (self : Rules source) (s : Scope) : Reader source Unit :=
  repeatWhile n do
    match ← kind with
    | .markupText =>
      advanceTo .markup
      pure true
    | _ =>
      if ← isAt "\x7b" then
        let start ← position
        advance
        if !(← isAt "\x7d") then
          let _ ← accept "..."
          self (.expression s.inMarkup)
        require (← isAt "\x7d")
        advanceTo .markup
        wrap .container start
        pure true
      else
        let closing ← ahead do
          expect "<"
          isAt "/"
        if closing then pure false
        else
          self (.element s .markup)
          pure true

def element (n : Nat) (self : Rules source) (s : Scope) (next : Surroundings) :
    Reader source Unit := do
  let start ← position
  expect "<"
  if ← isAt ">" then
    advanceTo .markup
    children n self s
    expect "<"
    expect "/"
    require (← isAt ">")
    advanceTo next
    wrap .markupFragment start
  else
    let name ← elementName n
    if s.typed && (← isAt "<") then self (.typeArguments s)
    repeatWhile n do
      if ← isAtAny ["/", ">"] then pure false
      else
        self (.markupAttribute s)
        pure true
    if ← accept "/" then
      require (← isAt ">")
      advanceTo next
    else
      require (← isAt ">")
      advanceTo .markup
      children n self s
      expect "<"
      expect "/"
      let closing ← elementName n
      require (closing = name)
      require (← isAt ">")
      advanceTo next
    wrap .markupElement start

def attributeValue (self : Rules source) (s : Scope) : Reader source Unit := do
  if ← isAt "\x7b" then
    let start ← position
    advance
    self (.expression s.inMarkup)
    expect "\x7d"
    wrap .container start
  else if ← isAt "<" then self (.element s .code)
  else
    reread .markupString
    expectKind .markupString

def markupAttribute (self : Rules source) (s : Scope) : Reader source Unit := do
  let start ← position
  if ← accept "\x7b" then
    expect "..."
    self (.expression s.bracketed)
    expect "\x7d"
    wrap .spread start
  else
    let _ ← markupName
    if ← accept ":" then
      let _ ← markupName
      wrap .namespacedName start
    if ← accept "=" then attributeValue self s
    wrap .markupAttribute start

end CompanionStyles.Component.Grammar
