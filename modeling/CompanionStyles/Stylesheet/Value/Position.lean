import CompanionStyles.Stylesheet.Value.Box

/-!
Positions: places across and down, given by words, by lengths or by lengths from a side.
-/

namespace CompanionStyles.Stylesheet.Value

open Reader

/-- A place along one axis. -/
inductive AxisPlace where
  | middle
  | at (c : Calc)
  /-- A side, and how far from it. -/
  | side (far : Bool) (offset : Option Calc)
  deriving BEq

/-- The places of an axis are named by its two sides. -/
structure Axis where
  near : String
  far : String

def across : Axis :=
  ⟨"left", "right"⟩

def down : Axis :=
  ⟨"top", "bottom"⟩

namespace AxisPlace

def half : Calc :=
  .value (.percent 0.5)

def isCenter : AxisPlace → Bool
  | middle => true
  | .at c => c == half
  | side _ _ => false

def isZero : AxisPlace → Bool
  | .at c => c.isZero
  | _ => false

/-- The length that a place without an offset stands for. -/
def sideLength (far : Bool) : Phrase :=
  Phrase.ofString (if far then "100%" else "0")

def phrase (axis : Axis) : AxisPlace → Phrase
  | middle => Phrase.ofString "center"
  | .at c => c.phrase
  | side isFar offset =>
    Phrase.words (Phrase.ofString (if isFar then axis.far else axis.near)
      :: (offset.map Calc.phrase).toList)

/-- A length of nothing is written without a unit, a percentage too. -/
def lengthPhrase (c : Calc) : Phrase :=
  if c.isZero then Phrase.ofString "0" else c.phrase

def length? : AxisPlace → Option Phrase
  | middle => some half.phrase
  | .at c => some (lengthPhrase c)
  | side false none => some (Phrase.ofString "0")
  | side false (some c) => some (lengthPhrase c)
  | side true _ => none

end AxisPlace

/-- One of the sides of an axis, and whether it is the far one. -/
def axisSide (axis : Axis) : Reader Bool :=
  (do word axis.near; return false) <|> (do word axis.far; return true)

def center : Reader AxisPlace := do
  word "center"
  return .middle

def axisPlace (axis : Axis) : Reader AxisPlace :=
  center <|> (AxisPlace.at <$> lengthPercentage) <|> do
    let far ← axisSide axis
    return .side far (← attempt lengthPercentage)

/-- A place across and one down. -/
structure Position where
  x : AxisPlace
  y : AxisPlace
  deriving BEq

namespace Position

def isCenter (p : Position) : Bool :=
  p.x.isCenter && p.y.isCenter

def isZero (p : Position) : Bool :=
  p.x.isZero && p.y.isZero

def center : Position :=
  ⟨.middle, .middle⟩

/-- A position; its second part is left out if it is the middle. Next to an offset from a far side the
middle is a word and not a length. -/
def phrase (p : Position) : Phrase :=
  let words := Phrase.words [p.x.phrase across, p.y.phrase down]
  match p.x, p.y with
  | .side true (some o), y =>
    if y.isCenter then
      Phrase.words [(AxisPlace.side true (some o)).phrase across, Phrase.ofString "center"]
    else words
  | x, .side true (some o) =>
    if x.isCenter then
      Phrase.words [Phrase.ofString "center", (AxisPlace.side true (some o)).phrase down]
    else words
  | .side far none, .side lower none =>
    Phrase.words [AxisPlace.sideLength far, AxisPlace.sideLength lower]
  | x, y =>
    if y.isCenter then
      match x with
      | .side far none => AxisPlace.sideLength far
      | .side false (some c) => AxisPlace.lengthPhrase c
      | x => x.phrase across
    else
      match x, y with
      | x, .side lower none =>
        if x.isCenter then (AxisPlace.side lower none).phrase down else inLengths x (.side lower none) words
      | x, y => inLengths x y words
where
  /-- Both parts as lengths, if they are such, and as words otherwise. -/
  inLengths (x y : AxisPlace) (words : Phrase) : Phrase :=
    match x.length?, y.length? with
    | some p, some q => Phrase.words [p, q]
    | _, _ => words

end Position

/-- The place down behind a side across and what may be an offset from it. -/
def placeBehindSide (isFar : Bool) (offset : Option Calc) : Reader Position := do
  if ← found center then return ⟨.side isFar offset, .middle⟩
  match ← attempt (axisSide down) with
  | some d => return ⟨.side isFar offset, .side d (← attempt lengthPercentage)⟩
  | none =>
    return ⟨.side isFar none, match offset with
      | some o => .at o
      | none => .middle⟩

def downFirst : Reader Position := do
  let d ← axisSide down
  let both ← attempt (do
    let offset ← attempt lengthPercentage
    match ← attempt (axisSide across) with
    | some a => return (⟨.side a (← attempt lengthPercentage), .side d offset⟩ : Position)
    | none => return ⟨← center, .side d offset⟩)
  return both.getD ⟨.middle, .side d none⟩

/-- The places across and down, where words may stand in either order. -/
def position : Reader Position := do
  match ← attempt (axisPlace across) with
  | some .middle =>
    match ← attempt (axisPlace down) with
    | some y => return ⟨.middle, y⟩
    | none => return ⟨← orDefault .middle (axisPlace across), .middle⟩
  | some (.at c) =>
    match ← attempt (axisSide down) with
    | some d => return ⟨.at c, .side d none⟩
    | none =>
      return ⟨.at c, ← orDefault .middle ((AxisPlace.at <$> lengthPercentage) <|> center)⟩
  | some (.side far offset) => placeBehindSide far offset
  | none => downFirst

def positions : Reader Phrase :=
  Phrase.list <$> commaSeparated (Position.phrase <$> position)

def axisPlaces (axis : Axis) : Reader Phrase :=
  Phrase.list <$> commaSeparated (AxisPlace.phrase axis <$> axisPlace axis)

end CompanionStyles.Stylesheet.Value
