import CompanionStyles.Stylesheet.Value.Box

/-!
Values for text: lines along it, marks of emphasis and where it stands.
-/

namespace CompanionStyles.Stylesheet.Value

open Reader

def decorationWords : List String :=
  ["underline", "overline", "line-through", "blink"]

def decorationLine : Reader Phrase :=
  orWord ["none", "spelling-error", "grammar-error"] do
    let lines ← many1 (keyword decorationWords)
    return Phrase.words ((decorationWords.filter fun w => lines.contains w.toList).map Phrase.ofString)

def decorationStyles : List String :=
  ["solid", "double", "dotted", "dashed", "wavy"]

def decorationThickness : Reader Phrase :=
  orWord ["auto", "from-font"] (Calc.phrase <$> lengthPercentage)

structure Lines where
  line : Option Phrase
  thickness : Option Phrase
  style : Option Phrase
  color : Option Color

def linesParts : Nat → Lines → Reader Lines
  | 0, l => pure l
  | fuel + 1, l => do
    if l.line.isNone then
      if let some p ← attempt decorationLine then return ← linesParts fuel { l with line := some p }
    if l.thickness.isNone then
      if let some p ← attempt decorationThickness then
        return ← linesParts fuel { l with thickness := some p }
    if l.style.isNone then
      if let some p ← attempt (oneOf decorationStyles) then
        return ← linesParts fuel { l with style := some p }
    if l.color.isNone then
      if let some p ← attempt color then return ← linesParts fuel { l with color := some p }
    return l

/-- Lines with their thickness, style and color; without lines there is nothing else. -/
def textDecoration : Reader Phrase := do
  let l ← linesParts 5 ⟨none, none, none, none⟩
  let none' := Phrase.ofString "none"
  let line := l.line.getD none'
  if line = none' then return none'
  return Phrase.words (line :: besides "auto" l.thickness ++ besides "solid" l.style
    ++ besidesCurrent l.color)

def emphasisShapes : List String :=
  ["dot", "circle", "double-circle", "triangle", "sesame"]

/-- The marks of emphasis: a text, or a shape that is filled unless it is said to be open. -/
def emphasisStyle : Reader Phrase :=
  orWord ["none"] (((fun s => Phrase.ofChars (writeString s)) <$> string) <|> do
    let fillWord := oneOf ["filled", "open"]
    let shape ← attempt (oneOf emphasisShapes)
    let fill ← attempt fillWord
    let shape ← match shape with
      | some s => pure (some s)
      | none => attempt (oneOf emphasisShapes)
    match fill, shape with
    | none, none => fail .declaration
    | some f, none => return f
    | f, some s => return Phrase.words (besides "filled" f ++ [s]))

/-- The marks and their color, which is left out where there are none. -/
def textEmphasis : Reader Phrase := do
  let front ← attempt color
  let style ← attempt emphasisStyle
  let c ← match front with
    | some c => pure (some c)
    | none => attempt color
  if style.isNone && c.isNone then fail .declaration
  let none' := Phrase.ofString "none"
  let shown := style.getD none'
  return Phrase.words (shown :: if shown = none' then [] else besidesCurrent c)

/-- Where the marks of emphasis stand; on the right goes without saying. -/
def emphasisPosition : Reader Phrase := do
  let front ← attempt (oneOf ["left", "right"])
  let vertical ← oneOf ["over", "under"]
  let side ← match front with
    | some s => pure (some s)
    | none => attempt (oneOf ["left", "right"])
  return Phrase.words (vertical :: besides "right" side)

/-- How far the first line of a text stands in. -/
structure Indent where
  length : Option Calc
  hanging : Bool
  eachLine : Bool

def indentParts : Nat → Indent → Reader Indent
  | 0, i => pure i
  | fuel + 1, i => do
    if i.length.isNone then
      if let some c ← attempt lengthPercentage then
        return ← indentParts fuel { i with length := some c }
    if !i.hanging then
      if ← found (word "hanging") then return ← indentParts fuel { i with hanging := true }
    if !i.eachLine then
      if ← found (word "each-line") then return ← indentParts fuel { i with eachLine := true }
    return i

def textIndent : Reader Phrase := do
  let i ← indentParts 4 ⟨none, false, false⟩
  match i.length with
  | none => fail .declaration
  | some c =>
    let words := (if i.hanging then ["hanging"] else []) ++ if i.eachLine then ["each-line"] else []
    return Phrase.words (c.phrase :: words.map Phrase.ofString)

def verticalAligns : List String :=
  ["baseline", "sub", "super", "top", "text-top", "middle", "bottom", "text-bottom"]

/-- Which of a light and a dark appearance a box is made for. That no other is allowed is said in front
or behind. -/
def colorScheme : Reader Phrase :=
  orWord ["normal"] do
    let front ← found (word "only")
    let names ← many (keyword ["light", "dark"])
    let only ← if front then pure true else found (word "only")
    if names.isEmpty && !only then fail .value
    let shown := ["light", "dark"].filter fun w => names.contains w.toList
    return Phrase.words (shown.map Phrase.ofString) ++ if only then Phrase.ofString " only" else []

end CompanionStyles.Stylesheet.Value
