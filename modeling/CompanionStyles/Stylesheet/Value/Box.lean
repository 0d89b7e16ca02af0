import CompanionStyles.Stylesheet.Value.Loose

/-!
Values for boxes: words, sides, borders, shadows and flexible sizes. What goes without saying is left
out.
-/

namespace CompanionStyles.Stylesheet.Value

open Reader

def oneOf (words : List String) : Reader Phrase := do
  return Phrase.ofChars (← keyword words)

def orWord (words : List String) (read : Reader Phrase) : Reader Phrase :=
  oneOf words <|> read

/-- A size: a word, or a length that may have to be worked out. -/
inductive Size where
  | word (name : List Char)
  | length (c : Calc)
  | quantity (q : Quantity)
  deriving BEq

namespace Size

def phrase : Size → Phrase
  | word name => Phrase.ofChars name
  | length c => c.phrase
  | quantity q => Phrase.ofChars q.text

def isWord (w : String) : Size → Bool
  | word name => name == w.toList
  | _ => false

def ofWord (w : String) : Size :=
  word w.toList

def percent (x : Float32) : Size :=
  .length (.value (.percent x))

end Size

def sizeOr (words : List String) (read : Reader Calc) : Reader Size :=
  (Size.word <$> keyword words) <|> (Size.length <$> read)

def autoLength : Reader Size :=
  sizeOr ["auto"] lengthPercentage

def lengthOrNumber : Reader Size :=
  ((fun n => Size.quantity (.number n)) <$> number) <|> (Size.length <$> length)

def intrinsicSizes : List String :=
  ["min-content", "max-content", "fit-content", "-webkit-min-content", "-moz-min-content",
   "-webkit-max-content", "-moz-max-content", "-webkit-fit-content", "-moz-fit-content",
   "-webkit-fill-available", "-moz-available", "stretch", "contain"]

def fitContent : Reader Phrase :=
  call ["fit-content"] fun name => do
    return .text (name ++ ['(']) :: (← lengthPercentage).phrase ++ Phrase.ofString ")"

def boxSize : Reader Phrase :=
  orWord ("auto" :: intrinsicSizes) ((Calc.phrase <$> lengthPercentage) <|> fitContent)

def maxBoxSize : Reader Phrase :=
  orWord ("none" :: intrinsicSizes) ((Calc.phrase <$> lengthPercentage) <|> fitContent)

/-- Something for each side of a box. -/
structure Sides (α : Type) where
  top : α
  right : α
  bottom : α
  left : α
  deriving BEq

namespace Sides

variable {α : Type}

def all (a : α) : Sides α :=
  ⟨a, a, a, a⟩

/-- Top, right, bottom and left, as few as determine the others. -/
def phrase [BEq α] (write : α → Phrase) (s : Sides α) : Phrase :=
  Phrase.words (List.map write
    (if s.right == s.left then
      if s.top == s.bottom then
        if s.top == s.right then [s.top] else [s.top, s.right]
      else [s.top, s.right, s.bottom]
    else [s.top, s.right, s.bottom, s.left]))

/-- One to four values; a side that is left out is like the opposite one. -/
def read (one : Reader α) : Reader (Sides α) := do
  let top ← one
  let right ← orDefault top one
  let bottom ← orDefault top one
  let left ← orDefault right one
  return ⟨top, right, bottom, left⟩

end Sides

/-- One to four values, as few as determine the others. -/
def sides {α : Type} [BEq α] (write : α → Phrase) (one : Reader α) : Reader Phrase :=
  Sides.phrase write <$> Sides.read one

def twice {α : Type} [BEq α] (write : α → Phrase) (one : Reader α) : Reader Phrase := do
  let a ← one
  let b ← orDefault a one
  return if a == b then write a else Phrase.words [write a, write b]

def borderStyles : List String :=
  ["none", "hidden", "inset", "groove", "outset", "ridge", "dotted", "dashed", "solid", "double"]

def borderStyle : Reader Phrase :=
  oneOf borderStyles

def borderWidth : Reader Size :=
  sizeOr ["thin", "medium", "thick"] length

/-- A part that is to be written, unless it is the word that goes without saying. -/
def besides (initial : String) (part : Option Phrase) : List Phrase :=
  match part with
  | none => []
  | some p => if p = Phrase.ofString initial then [] else [p]

/-- A color that is to be written, unless it is the one of the text. -/
def besidesCurrent (c : Option Color) : List Phrase :=
  match c with
  | none | some .current => []
  | some c => [c.phrase]

/-- The width, style and color of a border. -/
structure Border where
  width : Option Size
  style : Option Phrase
  color : Option Color

def borderParts (styles : Reader Phrase) : Nat → Border → Reader Border
  | 0, b => pure b
  | fuel + 1, b => do
    if b.width.isNone then
      if let some w ← attempt borderWidth then
        return ← borderParts styles fuel { b with width := some w }
    if b.style.isNone then
      if let some s ← attempt styles then
        return ← borderParts styles fuel { b with style := some s }
    if b.color.isNone then
      if let some c ← attempt color then
        return ← borderParts styles fuel { b with color := some c }
    return b

def borderWith (styles : Reader Phrase) : Reader Phrase := do
  let b ← borderParts styles 4 ⟨none, none, none⟩
  if b.width.isNone && b.style.isNone && b.color.isNone then fail .declaration
  let width := b.width.filter fun w => !w.isWord "medium"
  match (width.map Size.phrase).toList ++ besides "none" b.style ++ besidesCurrent b.color with
  | [] => return Phrase.ofString "none"
  | parts => return Phrase.words parts

def border : Reader Phrase :=
  borderWith borderStyle

def outline : Reader Phrase :=
  borderWith (oneOf ("auto" :: borderStyles))

/-- The radii of corners, across and down. -/
structure Radii where
  across : Sides Calc
  down : Sides Calc

def radii : Reader Radii := do
  let across ← Sides.read lengthPercentage
  if ← found (delim '/') then return ⟨across, ← Sides.read lengthPercentage⟩
  else return ⟨across, across⟩

/-- The radii across and, behind a slash, those down if they differ. -/
def Radii.phrase (r : Radii) : Phrase :=
  let across := r.across.phrase Calc.phrase
  if r.across == r.down then across
  else across ++ .text " / ".toList :: r.down.phrase Calc.phrase

def borderRadius : Reader Phrase :=
  Radii.phrase <$> radii

def noLength : Calc :=
  .value (.pixels 0)

/-- A shadow: two offsets, the blur and the spread, a color, and whether it falls inside. -/
structure Shadow where
  inset : Bool
  lengths : Option (Calc × Calc × Calc × Calc)
  color : Option Color

def shadowParts (insets : Bool) : Nat → Shadow → Reader Shadow
  | 0, s => pure s
  | fuel + 1, s => do
    if insets && !s.inset then
      if ← found (word "inset") then return ← shadowParts insets fuel { s with inset := true }
    if s.lengths.isNone then
      let lengths ← attempt (do
        let x ← length
        let y ← length
        let blur ← orDefault noLength length
        return (x, y, blur, ← orDefault noLength length))
      if lengths.isSome then return ← shadowParts insets fuel { s with lengths := lengths }
    if s.color.isNone then
      if let some c ← attempt color then
        return ← shadowParts insets fuel { s with color := some c }
    return s

/-- The lengths of a shadow, as far as they have to be written. -/
def shadowLengths (x y blur spread : Calc) : List Phrase :=
  let more := if spread != noLength then [blur, spread]
    else if blur != noLength then [blur] else []
  (x :: y :: more).map Calc.phrase

def shadow (insets : Bool) : Reader Phrase := do
  let s ← shadowParts insets 4 ⟨false, none, none⟩
  match s.lengths with
  | none => fail .value
  | some (x, y, blur, spread) =>
    let front := if s.inset then [Phrase.ofString "inset"] else []
    return Phrase.words (front ++ shadowLengths x y blur spread ++ besidesCurrent s.color)

def shadows (insets : Bool) : Reader Phrase :=
  Phrase.list <$> commaSeparated (shadow insets)

def numberPhrase (n : Float32) : Phrase :=
  Phrase.ofChars (Single.text false n)

/-- The factors of a flexible size: how it grows and shrinks. -/
def flexFactors : Reader (Float32 × Float32) := do
  let grow ← number
  return (grow, ← orDefault 1 number)

/-- How a size grows and shrinks, and where it starts. -/
def flex : Reader Phrase := do
  if ← found (word "none") then return Phrase.ofString "none"
  let first ← attempt flexFactors
  let basis ← attempt autoLength
  let last ← match first with
    | some factors => pure (some factors)
    | none => attempt flexFactors
  if last.isNone && basis.isNone then fail .declaration
  let (grow, shrink) := last.getD (1, 1)
  let start := basis.getD (.percent 0)
  if grow == 0 && shrink == 0 && start.isWord "auto" then return Phrase.ofString "none"
  let (noLength, noPercentage) := match start with
    | .length (.value q) => (q.isZero && q.unit != ['%'], q.isZero && q.unit == ['%'])
    | _ => (false, false)
  let factors := if grow != 1 || shrink != 1 || noLength || noPercentage then
      numberPhrase grow :: if shrink != 1 || noLength then [numberPhrase shrink] else []
    else []
  return Phrase.words (factors ++ if noPercentage then [] else [start.phrase])

end CompanionStyles.Stylesheet.Value
