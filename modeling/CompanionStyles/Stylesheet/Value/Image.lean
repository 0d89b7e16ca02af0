import CompanionStyles.Stylesheet.Value.Position

/-!
Images: addresses, gradients and sets of images for several resolutions. What goes without saying in a
gradient is left out.
-/

namespace CompanionStyles.Stylesheet.Value

open Reader

def urlPhrase : Reader Phrase := do
  return Phrase.ofChars (writeUrl (← url))

/-- A step of a gradient: a color with its place, or the place of a change alone. -/
inductive GradientStep where
  | stop (color : Color) (place : Option Calc)
  | hint (place : Calc)
  deriving BEq

/-- Reads steps; a change stands behind a color, and a color has up to two places. -/
def gradientStepsUpTo (place : Reader Calc) : Nat → Bool → Reader (List GradientStep)
  | 0, _ => pure []
  | fuel + 1, colored => do
    let step : Reader (List GradientStep × Bool) := do
      let hint ← if colored then attempt place else pure none
      match hint with
      | some p => return ([.hint p], false)
      | none =>
        let c ← color
        let p ← attempt place
        let q ← if p.isSome then attempt place else pure none
        return (.stop c p :: (q.map fun q => .stop c (some q)).toList, true)
    let (steps, colored) ← until_ (· == .comma) step
    if ← found comma then return steps ++ (← gradientStepsUpTo place fuel colored) else return steps

/-- The steps as they are written: two of one color are written together. -/
def writeSteps : List GradientStep → List Phrase
  | .stop c (some p) :: .stop d (some q) :: rest =>
    if c == d then Phrase.words [c.phrase, p.phrase, q.phrase] :: writeSteps rest
    else Phrase.words [c.phrase, p.phrase] :: writeSteps (.stop d (some q) :: rest)
  | .stop c place :: rest => Phrase.words (c.phrase :: (place.map Calc.phrase).toList) :: writeSteps rest
  | .hint p :: rest => p.phrase :: writeSteps rest
  | [] => []

/-- The steps of a gradient; a change in the middle goes without saying. -/
def gradientSteps (place : Reader Calc) : Reader (List Phrase) := do
  let steps ← gradientStepsUpTo place ((← size) + 1) false
  return writeSteps (steps.filter fun s => s != .hint AxisPlace.half)

/-- The direction of a gradient; downwards goes without saying. -/
def direction (prefixed : Bool) : Reader (Option Phrase) :=
  (do
    let a ← angleOrZero
    return if a.degrees == 180 then none else some (Phrase.ofChars a.text)) <|> do
    if !prefixed then word "to"
    let front := if prefixed then [] else [Phrase.ofString "to"]
    let across := oneOf ["left", "right"]
    let down := oneOf ["top", "bottom"]
    match ← attempt across with
    | some x =>
      match ← attempt down with
      | some y => return some (Phrase.words (front ++ [y, x]))
      | none => return some (Phrase.words (front ++ [x]))
    | none =>
      let y ← down
      match ← attempt across with
      | some x => return some (Phrase.words (front ++ [y, x]))
      | none =>
        return if y = Phrase.ofString "bottom" then none else some (Phrase.words (front ++ [y]))

def linearGradient (prefixed : Bool) : Reader Phrase := do
  let front ← attempt (do
    let d ← direction prefixed
    comma
    return d)
  return Phrase.list (front.join.toList ++ (← gradientSteps lengthPercentage))

def extentWords : List String :=
  ["closest-side", "farthest-side", "closest-corner", "farthest-corner"]

/-- A size by a word, where the farthest corner goes without saying. -/
def extent : Reader (Option Phrase) := do
  let p ← oneOf extentWords
  return if p = Phrase.ofString "farthest-corner" then none else some p

/-- The two radii or the extent of an ellipse, with or without its name. -/
def ellipse : Reader (Option Phrase) := do
  let radii : Reader (Option Phrase) := do
    let x ← lengthPercentage
    return some (Phrase.words [x.phrase, (← lengthPercentage).phrase])
  match ← attempt (extent <|> radii) with
  | some p =>
    if ← found (word "circle") then fail .value
    let _ ← attempt (word "ellipse")
    return p
  | none =>
    word "ellipse"
    return (← attempt (extent <|> radii)).join

def circle : Reader (Option Phrase) := do
  let name := Phrase.ofString "circle"
  let sized (p : Option Phrase) : Option Phrase :=
    match p with
    | some p => some (Phrase.words [name, p])
    | none => some name
  match ← attempt extent with
  | some p =>
    word "circle"
    return sized p
  | none =>
    match ← attempt length with
    | some r =>
      let _ ← attempt (word "circle")
      return some r.phrase
    | none =>
      word "circle"
      match ← attempt extent with
      | some p => return sized p
      | none =>
        match ← attempt length with
        | some r => return some r.phrase
        | none => return some name

def atPosition : Reader Position := do
  word "at"
  position

/-- A position behind `at`; the middle goes without saying. -/
def placed (p : Option Position) : List Phrase :=
  match p with
  | some p => if p.isCenter then [] else [Phrase.words [Phrase.ofString "at", p.phrase]]
  | none => []

/-- What stands in front of the steps of a gradient, and the steps. -/
def behindFront (front steps : List Phrase) : Phrase :=
  Phrase.list ((if front.isEmpty then [] else [Phrase.words front]) ++ steps)

def radialGradient : Reader Phrase := do
  let shape ← attempt (ellipse <|> circle)
  let place ← attempt atPosition
  if shape.isSome || place.isSome then comma
  let steps ← gradientSteps lengthPercentage
  return behindFront (shape.join.toList ++ placed place) steps

def anglePercentage : Reader Calc :=
  measure ("%" :: angleUnits)

/-- A gradient around a point. A comma follows only what says something. -/
def conicGradient : Reader Phrase := do
  let start ← orDefault noAngle (do
    word "from"
    angleOrZero)
  let place ← orDefault Position.center atPosition
  let turned := start != noAngle
  if turned || place != Position.center then comma
  let front := if turned then [Phrase.words [Phrase.ofString "from", Phrase.ofChars start.text]] else []
  let steps ← gradientSteps anglePercentage
  return behindFront (front ++ placed (some place)) steps

/-- A place along one axis in a gradient of two points. -/
def pointPart (axis : Axis) : Reader Phrase :=
  oneOf ["center"] <|> (do
    let q ← numberOrPercentage
    return Phrase.ofChars (if q.isZero then ['0'] else q.text)) <|> oneOf [axis.near, axis.far]

def gradientPoint : Reader Phrase := do
  let x ← pointPart across
  return Phrase.words [x, ← pointPart down]

/-- A color between two points, and how far it is from the first to the second. -/
def pointStop : Reader Phrase :=
  call ["color-stop", "from", "to"] fun name => do
    let place ← if name = "from".toList then pure 0
      else if name = "to".toList then pure 1
      else do
        let q ← numberOrPercentage
        comma
        pure q.value
    let c ← color
    if place == 0 then return .text "from(".toList :: c.phrase ++ Phrase.ofString ")"
    else if place == 1 then return .text "to(".toList :: c.phrase ++ Phrase.ofString ")"
    else
      return .text "color-stop(".toList :: Phrase.list [numberPhrase place, c.phrase]
        ++ Phrase.ofString ")"

def pointGradient : Reader Phrase := do
  let kind ← keyword ["linear", "radial"]
  comma
  let radius : Reader (List Phrase) := do
    comma
    if kind = "radial".toList then
      let r ← number
      comma
      return [numberPhrase r]
    else return []
  let start ← gradientPoint
  let first ← radius
  let stop ← gradientPoint
  let last ← radius
  let stops ← commaSeparated pointStop
  return Phrase.list (Phrase.ofChars kind :: start :: first ++ stop :: last ++ stops)

def linearNames : List String :=
  ["linear-gradient", "repeating-linear-gradient"]

def prefixedLinearNames : List String :=
  ["-webkit-linear-gradient", "-webkit-repeating-linear-gradient", "-moz-linear-gradient",
   "-moz-repeating-linear-gradient", "-o-linear-gradient", "-o-repeating-linear-gradient"]

def radialNames : List String :=
  ["radial-gradient", "repeating-radial-gradient", "-webkit-radial-gradient",
   "-webkit-repeating-radial-gradient", "-moz-radial-gradient", "-moz-repeating-radial-gradient",
   "-o-radial-gradient", "-o-repeating-radial-gradient"]

def gradient : Reader Phrase :=
  let shown (name : List Char) (p : Phrase) : Phrase :=
    .text (name ++ ['(']) :: p ++ Phrase.ofString ")"
  (call linearNames fun name => return shown name (← linearGradient false))
    <|> (call prefixedLinearNames fun name => return shown name (← linearGradient true))
    <|> (call radialNames fun name => return shown name (← radialGradient))
    <|> (call ["conic-gradient", "repeating-conic-gradient"] fun name =>
      return shown name (← conicGradient))
    <|> call ["-webkit-gradient"] fun name => return shown name (← pointGradient)

/-- One image of a set, with its resolution and its type. An address has quotes alone, except in a
set that is known by a prefix. -/
def imageOption (prefixed : Bool) (image : Reader Phrase) : Reader Phrase := do
  let address ← attempt (url <|> string)
  let image ← match address with
    | some a => pure (Phrase.ofChars (if prefixed then writeUrl a else writeString a))
    | none => image
  let type : Reader Phrase := call ["type"] fun name => do
    return Phrase.ofChars (name ++ '(' :: writeString (← string) ++ [')'])
  let single : Quantity := ⟨1, ['x']⟩
  match ← attempt (plain resolutionUnits) with
  | some q => return Phrase.words (image :: Phrase.ofChars q.text :: (← attempt type).toList)
  | none =>
    let kind ← attempt type
    let q ← orDefault single (plain resolutionUnits)
    return Phrase.words (image :: Phrase.ofChars q.text :: kind.toList)

/-- Reads an image; `fuel` bounds how deep sets nest. -/
def imageUpTo : Nat → Reader Phrase
  | 0 => fail .value
  | fuel + 1 =>
    orWord ["none"] (urlPhrase <|> gradient
      <|> call ["image-set", "-webkit-image-set"] fun name => do
        let prefixed := name.head? == some '-'
        let options ← commaSeparated (imageOption prefixed (imageUpTo fuel))
        return .text (name ++ ['(']) :: Phrase.list options ++ Phrase.ofString ")")

def image : Reader Phrase :=
  imageUpTo colorDepth

end CompanionStyles.Stylesheet.Value
