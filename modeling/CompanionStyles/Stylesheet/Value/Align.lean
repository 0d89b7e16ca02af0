import CompanionStyles.Stylesheet.Value.Box

/-!
Values that align boxes: along one axis, and for both axes at once, where the second value is left out if
it is the same as the first.
-/

namespace CompanionStyles.Stylesheet.Value

open Reader

def baseline : Reader Phrase :=
  (do
    word "last"
    word "baseline"
    return Phrase.ofString "last baseline") <|> do
    let _ ← attempt (word "first")
    word "baseline"
    return Phrase.ofString "baseline"

def overflowPlace (words : List String) : Reader Phrase := do
  match ← attempt (oneOf ["safe", "unsafe"]) with
  | some o => return Phrase.words [o, ← oneOf words]
  | none => oneOf words

def contentPlaces : List String :=
  ["center", "start", "end", "flex-start", "flex-end"]

def selfPlaces : List String :=
  ["center", "start", "end", "self-start", "self-end", "flex-start", "flex-end"]

def distributions : List String :=
  ["space-between", "space-around", "space-evenly", "stretch"]

def sidePlaces : List String :=
  ["left", "right"]

def alignContent : Reader Phrase :=
  orWord ["normal"] (baseline <|> oneOf distributions <|> overflowPlace contentPlaces)

def justifyContent : Reader Phrase :=
  orWord ["normal"] (oneOf distributions <|> overflowPlace contentPlaces <|> overflowPlace sidePlaces)

def alignSelf : Reader Phrase :=
  orWord ["auto", "normal", "stretch"] (baseline <|> overflowPlace selfPlaces)

def justifySelf : Reader Phrase :=
  alignSelf <|> overflowPlace sidePlaces

def alignItems : Reader Phrase :=
  orWord ["normal", "stretch"] (baseline <|> overflowPlace selfPlaces)

/-- Places that the items of a box keep from their parent. -/
def legacyPlace : Reader Phrase := do
  let sides := ["left", "right", "center"]
  let named (p : Phrase) : Phrase := Phrase.words [Phrase.ofString "legacy", p]
  (do
    word "legacy"
    return named (← oneOf sides)) <|> do
    let p ← oneOf sides
    word "legacy"
    return named p

def justifyItems : Reader Phrase :=
  legacyPlace <|> alignItems <|> overflowPlace sidePlaces

def isBaseline (p : Phrase) : Bool :=
  p = Phrase.ofString "baseline" ∨ p = Phrase.ofString "last baseline"

/-- Contents cannot be justified at a baseline: they start there. -/
def placeContent : Reader Phrase := do
  let a ← alignContent
  let b ← orDefault (if isBaseline a then Phrase.ofString "start" else a) justifyContent
  return if a = b then a else Phrase.words [a, b]

/-- Whether a second value is left out: one like the first, except that what stretches is taken for
what is normal. -/
def isImplied (a b : Phrase) : Bool :=
  if b = Phrase.ofString "auto" then true
  else if b = Phrase.ofString "stretch" then a = Phrase.ofString "normal"
  else a = b

def placed2 (first second : Reader Phrase) : Reader Phrase := do
  let a ← first
  let b ← orDefault a second
  return if isImplied a b then a else Phrase.words [a, b]

def placeSelf : Reader Phrase :=
  placed2 alignSelf justifySelf

def placeItems : Reader Phrase :=
  placed2 alignItems justifyItems

/-- The direction and the wrapping of a flexible box; a row and no wrapping go without saying, except
for both at once. -/
def flexFlow : Reader Phrase := do
  let directionOf := oneOf ["row", "row-reverse", "column", "column-reverse"]
  let wrapOf := oneOf ["nowrap", "wrap", "wrap-reverse"]
  let d ← attempt directionOf
  let w ← attempt wrapOf
  let d ← match d with
    | some d => pure (some d)
    | none => attempt directionOf
  if d.isNone && w.isNone then fail .declaration
  let row := Phrase.ofString "row"
  let plain := Phrase.ofString "nowrap"
  let direction := d.getD row
  let wrap := w.getD plain
  return Phrase.words
    ((if direction ≠ row ∨ wrap = plain then [direction] else []) ++ (if wrap ≠ plain then [wrap] else []))

/-- Two numbers with a slash between them, the second one left out if it is one. -/
def ratio : Reader Phrase := do
  let a ← number
  let b ← if ← found (delim '/') then number else pure 1
  return if b == 1 then numberPhrase a
    else Phrase.join (Phrase.ofString " / ") [numberPhrase a, numberPhrase b]

def aspectRatio : Reader Phrase := do
  let auto := word "auto"
  let front ← found auto
  let r ← attempt ratio
  let behind ← if front then pure false else found auto
  if !front && !behind && r.isNone then fail .value
  return Phrase.words ((if front || behind then [Phrase.ofString "auto"] else []) ++ r.toList)

/-- How a box is shown, outside and inside. -/
structure Display where
  outer : Option (List Char)
  inner : Option (List Char)
  listItem : Bool

def innerDisplays : List String :=
  ["flow", "flow-root", "flex", "-webkit-flex", "-ms-flexbox", "-webkit-box", "-moz-box", "grid",
   "table", "ruby"]

/-- What an inline box is called by one word, by its inside. -/
def inlineDisplays : List (String × String) :=
  [("flow-root", "inline-block"), ("table", "inline-table"), ("flex", "inline-flex"),
   ("-webkit-flex", "-webkit-inline-flex"), ("-ms-flexbox", "-ms-inline-flexbox"),
   ("-webkit-box", "-webkit-inline-box"), ("-moz-box", "-moz-inline-box"), ("grid", "inline-grid")]

def displayParts : Nat → Display → Reader Display
  | 0, d => pure d
  | fuel + 1, d => do
    if ← found (word "list-item") then return ← displayParts fuel { d with listItem := true }
    if d.outer.isNone then
      if let some o ← attempt (keyword ["block", "inline", "run-in"]) then
        return ← displayParts fuel { d with outer := some o }
    if d.inner.isNone then
      if let some i ← attempt (keyword innerDisplays) then
        return ← displayParts fuel { d with inner := some i }
    return d

/-- A box by what it is outside and inside. What goes without saying is a block outside, or a line for
ruby, and a flow inside. -/
def displayPair : Reader Phrase := do
  let d ← displayParts 6 ⟨none, none, false⟩
  if d.outer.isNone && d.inner.isNone && !d.listItem then fail .value
  let inner := String.ofList (d.inner.getD "flow".toList)
  let usual := if inner = "ruby" then "inline" else "block"
  let outer := String.ofList (d.outer.getD usual.toList)
  if d.listItem && inner ≠ "flow" && inner ≠ "flow-root" then fail .declaration
  match (if outer = "inline" ∧ !d.listItem then inlineDisplays.lookup inner else none) with
  | some short => return Phrase.ofString short
  | none =>
    let outside := if outer ≠ usual ∨ (inner = "flow" ∧ !d.listItem) then [outer] else []
    let inside := if inner = "flow" then [] else [inner]
    return Phrase.words
      ((outside ++ inside ++ if d.listItem then ["list-item"] else []).map Phrase.ofString)

/-- The words for boxes that are inside another kind of box. -/
def displayWords : List String :=
  ["none", "contents", "table-row-group", "table-header-group", "table-footer-group", "table-row",
   "table-cell", "table-column-group", "table-column", "table-caption", "ruby-base", "ruby-text",
   "ruby-base-container", "ruby-text-container"] ++ inlineDisplays.map Prod.snd

def display : Reader Phrase :=
  displayPair <|> oneOf displayWords

end CompanionStyles.Stylesheet.Value
