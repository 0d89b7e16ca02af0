import CompanionStyles.Stylesheet.Value.Background
import CompanionStyles.Stylesheet.Value.Transform

/-!
Values that change how a box looks: filters, shapes that cut it, masks, border images and cursors.
-/

namespace CompanionStyles.Stylesheet.Value

open Reader

/-- The effects whose argument may be left out, as it is if it is one. -/
def amountFilters : List String :=
  ["brightness", "contrast", "grayscale", "invert", "opacity", "saturate", "sepia"]

/-- The lengths and the color of a shadow that follows a shape, in either order. -/
def dropShadow : Reader Phrase := do
  let front ← attempt color
  let x ← length
  let y ← length
  let blur ← orDefault noLength length
  let c ← match front with
    | some c => pure (some c)
    | none => attempt color
  let more := if blur == noLength then [] else [blur]
  return Phrase.words ((x :: y :: more).map Calc.phrase ++ besidesCurrent c)

def filterFunction : Reader Phrase :=
  (call ["blur"] fun name => do
    let r ← orDefault noLength length
    return applied name (if r == noLength then [] else [r.phrase]))
  <|> (call amountFilters fun name => do
    let amount ← orDefault (.number 1) numberOrPercentage
    return applied name (if amount.value == 1 then [] else [quantityPhrase amount]))
  <|> (call ["hue-rotate"] fun name => do
    let a ← orDefault noAngle angleOrZero
    return applied name (if a.isZero then [] else [quantityPhrase a]))
  <|> (call ["drop-shadow"] fun name => return applied name [← dropShadow])
  <|> urlPhrase

def filters : Reader Phrase :=
  orWord ["none"] (Phrase.words <$> many1 filterFunction)

def geometryBoxes : List String :=
  ["border-box", "padding-box", "content-box", "margin-box", "fill-box", "stroke-box", "view-box"]

def shapeRadius : Reader Size :=
  sizeOr ["closest-side", "farthest-side"] lengthPercentage

/-- A position behind `at`, written unless it is the middle. -/
def shapeCenter : Reader (List Phrase) := do
  return placed (← attempt atPosition)

def fillRule : Reader Phrase :=
  oneOf ["nonzero", "evenodd"]

def polygonPoints : Reader (List Phrase) :=
  commaSeparated do
    let x ← lengthPercentage
    return Phrase.words [x.phrase, (← lengthPercentage).phrase]

/-- A shape: a circle, an ellipse, a rectangle with corners or a polygon. -/
def basicShape : Reader Phrase :=
  let shown (name : List Char) (parts : List Phrase) : Phrase :=
    .text (name ++ ['(']) :: Phrase.words parts ++ Phrase.ofString ")"
  let closest : Size := .ofWord "closest-side"
  (call ["circle"] fun name => do
    let r ← orDefault closest shapeRadius
    return shown name ((if r == closest then [] else [r.phrase]) ++ (← shapeCenter)))
  <|> (call ["ellipse"] fun name => do
    let (x, y) ← orDefault (closest, closest) (do
      let x ← shapeRadius
      return (x, ← shapeRadius))
    let radii := if x == closest && y == closest then [] else [x.phrase, y.phrase]
    return shown name (radii ++ (← shapeCenter)))
  <|> (call ["inset"] fun name => do
    let rect ← Sides.read lengthPercentage
    let sharp : Sides Calc := .all noLength
    let round ← if ← found (word "round") then radii else pure ⟨sharp, sharp⟩
    let more := if round.across == sharp && round.down == sharp then []
      else [Phrase.ofString "round", round.phrase]
    return shown name (rect.phrase Calc.phrase :: more))
  <|> call ["polygon"] fun name => do
    let rule ← attempt (do
      let r ← fillRule
      comma
      return r)
    return applied name (besides "nonzero" rule ++ (← polygonPoints))

/-- A shape and the box that it lies in, in either order. -/
def clipPath : Reader Phrase :=
  orWord ["none"] (urlPhrase <|> do
    let front ← attempt (oneOf geometryBoxes)
    let shape ← attempt basicShape
    let box ← match front with
      | some b => pure (some b)
      | none => attempt (oneOf geometryBoxes)
    match shape with
    | some s => return Phrase.words (s :: besides "border-box" box)
    | none =>
      match box with
      | some b => return b
      | none => fail .value)

def cursorWords : List String :=
  ["auto", "default", "none", "context-menu", "help", "pointer", "progress", "wait", "cell",
   "crosshair", "text", "vertical-text", "alias", "copy", "move", "no-drop", "not-allowed", "grab",
   "grabbing", "e-resize", "n-resize", "ne-resize", "nw-resize", "s-resize", "se-resize",
   "sw-resize", "w-resize", "ew-resize", "ns-resize", "nesw-resize", "nwse-resize", "col-resize",
   "row-resize", "all-scroll", "zoom-in", "zoom-out"]

/-- An image for a cursor and the point that it points with. -/
def cursorImage : Reader Phrase := do
  let address ← urlPhrase
  match ← attempt number with
  | some x => return Phrase.words [address, numberPhrase x, numberPhrase (← number)]
  | none => return address

def cursor : Reader Phrase := do
  let images ← many (do
    let i ← cursorImage
    comma
    return i)
  return Phrase.list (images ++ [← oneOf cursorWords])

/-- The parts of an image that a border is cut from. -/
structure Slice where
  offsets : Sides Quantity
  fill : Bool
  deriving BEq

def Slice.phrase (s : Slice) : Phrase :=
  Phrase.words (s.offsets.phrase quantityPhrase :: if s.fill then [Phrase.ofString "fill"] else [])

def slice : Reader Slice := do
  let front ← found (word "fill")
  let offsets ← Sides.read numberOrPercentage
  return ⟨offsets, ← if front then pure true else found (word "fill")⟩

def borderImageSlice : Reader Phrase :=
  Slice.phrase <$> slice

def borderImageWidth : Reader Size :=
  ((fun n => Size.quantity (.number n)) <$> number) <|> autoLength

def borderImageRepeat : Reader Phrase :=
  twice id (oneOf ["stretch", "repeat", "round", "space"])

/-- The parts of an image for a border, each at most once. -/
structure BorderImage where
  source : Option Phrase
  slice : Option Slice
  width : Option (Sides Size)
  outset : Option (Sides Size)
  tiling : Option Phrase

namespace BorderImage

def empty : BorderImage :=
  ⟨none, none, none, none, none⟩

def isEmpty (b : BorderImage) : Bool :=
  b.source.isNone && b.slice.isNone && b.tiling.isNone

/-- The width of the border and how far it reaches out, behind slashes. -/
def widths : Reader (Option (Sides Size) × Option (Sides Size)) := do
  delim '/'
  let w ← attempt (Sides.read borderImageWidth)
  let o ← attempt (do
    delim '/'
    Sides.read lengthOrNumber)
  if w.isNone && o.isNone then fail .declaration
  return (w, o)

/-- Reads the parts in any order, and what `other` reads between them. -/
def parts {α : Type} (other : Reader α) : Nat → BorderImage → List α → Reader (BorderImage × List α)
  | 0, b, more => pure (b, more)
  | fuel + 1, b, more => do
    if b.slice.isNone then
      if let some s ← attempt Value.slice then
        let (w, o) ← orDefault (none, none) widths
        return ← parts other fuel { b with slice := some s, width := w, outset := o } more
    if b.source.isNone then
      if let some i ← attempt image then
        return ← parts other fuel { b with source := some i } more
    if b.tiling.isNone then
      if let some t ← attempt borderImageRepeat then
        return ← parts other fuel { b with tiling := some t } more
    if more.isEmpty then
      if let some a ← attempt other then return ← parts other fuel b [a]
    return (b, more)

/-- The image, behind which every other part that does not go without saying has a blank in front. -/
def phrase (b : BorderImage) : Phrase :=
  let whole : Slice := ⟨.all (.percent 1), false⟩
  let one : Sides Size := .all (.quantity (.number 1))
  let none' : Sides Size := .all (.quantity (.number 0))
  let width := b.width.filter fun w => w != one
  let outset := b.outset.filter fun o => o != none'
  let slice := (b.slice.getD whole)
  let slash := Phrase.ofString " / "
  let sliced : Phrase :=
    if slice == whole && width.isNone && outset.isNone then []
    else .text [' '] :: slice.phrase
      ++ (if width.isSome || outset.isSome then slash else [])
      ++ (match width with
        | some w => w.phrase Size.phrase
        | none => [])
      ++ (match outset with
        | some o => slash ++ o.phrase Size.phrase
        | none => [])
  (besides "none" b.source).flatten ++ sliced
    ++ (besides "stretch" b.tiling).flatMap fun t => .text [' '] :: t

end BorderImage

def borderImage : Reader Phrase := do
  let (b, _) ← BorderImage.parts (fail .value : Reader Unit) 5 .empty []
  if b.isEmpty then fail .declaration
  return b.phrase

/-- A border image that is a mask, with what of it counts. -/
def maskBorder : Reader Phrase := do
  let (b, modes) ← BorderImage.parts (oneOf ["luminance", "alpha"]) 6 .empty []
  if b.isEmpty && modes.isEmpty then fail .declaration
  return b.phrase ++ (modes.flatMap (fun m => besides "alpha" (some m))).flatMap fun m =>
    .text [' '] :: m

def maskModes : List String :=
  ["luminance", "alpha", "match-source"]

def maskComposites : List String :=
  ["add", "subtract", "intersect", "exclude"]

/-- A layer of a mask. -/
structure MaskLayer where
  image : Option Phrase
  position : Option (Position × Option Phrase)
  tiling : Option Phrase
  origin : Option Phrase
  clip : Option Phrase
  composite : Option Phrase
  mode : Option Phrase

def maskParts : Nat → MaskLayer → Reader MaskLayer
  | 0, m => pure m
  | fuel + 1, m => do
    if m.image.isNone then
      if let some p ← attempt image then return ← maskParts fuel { m with image := some p }
    if m.position.isNone then
      if let some p ← attempt layerPosition then return ← maskParts fuel { m with position := some p }
    if m.tiling.isNone then
      if let some p ← attempt backgroundRepeat then return ← maskParts fuel { m with tiling := some p }
    if m.origin.isNone then
      if let some p ← attempt (oneOf geometryBoxes) then
        return ← maskParts fuel { m with origin := some p }
    if m.clip.isNone then
      if let some p ← attempt (oneOf (geometryBoxes ++ ["no-clip"])) then
        return ← maskParts fuel { m with clip := some p }
    if m.composite.isNone then
      if let some p ← attempt (oneOf maskComposites) then
        return ← maskParts fuel { m with composite := some p }
    if m.mode.isNone then
      if let some p ← attempt (oneOf maskModes) then return ← maskParts fuel { m with mode := some p }
    return m

/-- A layer of a mask; the corner at the start, given by percentages, goes without saying. -/
def MaskLayer.phrase (m : MaskLayer) : Phrase :=
  let start : Position := ⟨.at (.value (.percent 0)), .at (.value (.percent 0))⟩
  let border := Phrase.ofString "border-box"
  let origin := m.origin.getD border
  let clip := m.clip.getD origin
  let boxes := if origin = border ∧ clip = border then []
    else if clip = origin then [origin] else [origin, clip]
  Phrase.words (m.image.getD (Phrase.ofString "none") :: placeParts (· == start) m.position
    ++ besides "repeat" m.tiling ++ boxes ++ besides "add" m.composite
    ++ besides "match-source" m.mode)

def mask : Reader Phrase := do
  let layers ← commaSeparated do
    let before := (← get).nodes.length
    let m ← maskParts 8 ⟨none, none, none, none, none, none, none⟩
    if (← get).nodes.length = before then fail .declaration else return m
  return Phrase.list (layers.map MaskLayer.phrase)

end CompanionStyles.Stylesheet.Value
