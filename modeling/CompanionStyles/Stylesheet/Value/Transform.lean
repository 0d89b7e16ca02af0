import CompanionStyles.Stylesheet.Value.Font

/-!
Values that transform boxes.
-/

namespace CompanionStyles.Stylesheet.Value

open Reader

def applied (name : List Char) (arguments : List Phrase) : Phrase :=
  .text (name ++ ['(']) :: Phrase.list arguments ++ Phrase.ofString ")"

def shortAngle (q : Quantity) : Phrase :=
  if q.isZero then Phrase.ofString "0" else quantityPhrase q

def oneOrTwo {α : Type} (read : Reader α) (implied : α → α) : Reader (α × α) := do
  let a ← read
  if ← found comma then return (a, ← read) else return (a, implied a)

def several (read : Reader Phrase) : Nat → Reader (List Phrase)
  | 0 => pure []
  | 1 => do return [← read]
  | n + 1 => do
    let a ← read
    comma
    return a :: (← several read n)

def axisUpper (name : List Char) : List Char :=
  match name.reverse with
  | c :: front => if c = 'x' ∨ c = 'y' ∨ c = 'z' then (c.toUpper :: front).reverse else name
  | [] => []

def singleFunction (names : List String) (read : Reader Phrase) : Reader Phrase :=
  call names fun name => return applied (axisUpper name) [← read]

def factor : Reader Float32 := do
  return (← numberOrPercentage).value

def transformFunction : Reader Phrase :=
  (call ["translate"] fun name => do
    let (x, y) ← oneOrTwo lengthPercentage fun _ => noLength
    return applied name (x.phrase :: if y.isZero then [] else [y.phrase]))
  <|> (singleFunction ["translatex", "translatey"] (Calc.phrase <$> lengthPercentage))
  <|> (singleFunction ["translatez", "perspective"] (Calc.phrase <$> length))
  <|> (call ["translate3d"] fun name => do
    let xy ← several (Calc.phrase <$> lengthPercentage) 2
    comma
    return applied name (xy ++ [(← length).phrase]))
  <|> (call ["scale"] fun name => do
    let (x, y) ← oneOrTwo factor id
    return applied name (numberPhrase x :: if y == x then [] else [numberPhrase y]))
  <|> (singleFunction ["scalex", "scaley", "scalez"] (quantityPhrase <$> numberOrPercentage))
  <|> (call ["scale3d"] fun name => return applied name (← several (numberPhrase <$> factor) 3))
  <|> (singleFunction ["rotate", "rotatex", "rotatey", "rotatez", "skewx", "skewy"]
    (shortAngle <$> angleOrZero))
  <|> (call ["rotate3d"] fun name => do
    let axis ← several (numberPhrase <$> number) 3
    comma
    return applied name (axis ++ [shortAngle (← angleOrZero)]))
  <|> (call ["skew"] fun name => do
    let (x, y) ← oneOrTwo angleOrZero fun _ => noAngle
    return applied name (quantityPhrase x :: if y.isZero then [] else [quantityPhrase y]))
  <|> (call ["matrix"] fun name => return applied name (← several (numberPhrase <$> number) 6))
  <|> call ["matrix3d"] fun name => return applied name (← several (numberPhrase <$> number) 16)

def transform : Reader Phrase :=
  orWord ["none"] do
    return Phrase.words (← many1 transformFunction)

/-- Lengths that move a box; those at the end that are zero are left out. -/
def translate : Reader Phrase :=
  orWord ["none"] do
    let x ← lengthPercentage
    let y ← attempt lengthPercentage
    let z ← if y.isSome then orDefault noLength length else pure noLength
    let y := y.getD noLength
    return Phrase.words
      ((x :: (if y.isZero && z.isZero then [] else [y]) ++ (if z.isZero then [] else [z])).map
        Calc.phrase)

def rotationAxis : Reader (Float32 × Float32 × Float32) :=
  (do
    let a ← keyword ["x", "y", "z"]
    return if a = ['x'] then (1, 0, 0) else if a = ['y'] then (0, 1, 0) else (0, 0, 1)) <|> do
    let x ← number
    let y ← number
    return (x, y, ← number)

/-- An angle and the axis to turn around, in either order. An axis along one of the three of space is
written as a letter; the one towards the viewer goes without saying. -/
def rotate : Reader Phrase :=
  orWord ["none"] do
    let front ← attempt angle
    let (x, y, z) ← orDefault (0, 0, 1) rotationAxis
    let a ← match front with
      | some a => pure a
      | none => angle
    let along (n : Float32) : Phrase := quantityPhrase (if n < 0 then a.scale (-1) else a)
    let isZero (n : Float32) : Bool := n.abs < Space.epsilon
    if isZero x && isZero y && !isZero z then return along z
    else if isZero y && isZero z && !isZero x then
      return Phrase.words [Phrase.ofString "x", along x]
    else if isZero x && isZero z && !isZero y then
      return Phrase.words [Phrase.ofString "y", along y]
    else return Phrase.words ([x, y, z].map numberPhrase ++ [quantityPhrase a])

/-- Factors that scale a box. The second one is like the first, the third is one. -/
def scale : Reader Phrase :=
  orWord ["none"] do
    let x ← numberOrPercentage
    let y ← attempt numberOrPercentage
    let z ← if y.isSome then orDefault (.number 1) numberOrPercentage else pure (.number 1)
    let y := y.getD x
    let flat := z.value == 1
    return Phrase.words
      ((x :: (if y.value == x.value && flat then [] else [y]) ++ (if flat then [] else [z])).map
        quantityPhrase)

end CompanionStyles.Stylesheet.Value
