import CompanionStyles.Stylesheet.Phrase
import CompanionStyles.Stylesheet.Reader

/-!
Quantities: numbers, percentages, lengths, angles, times and resolutions, the operations on two of
them whose units go together, and how they are written.
-/

namespace CompanionStyles.Stylesheet.Value

open Reader

def lengthUnits : List String :=
  ["px", "em", "rem", "ex", "rex", "ch", "rch", "cap", "rcap", "ic", "ric", "lh", "rlh", "vw", "lvw",
   "svw", "dvw", "cqw", "vh", "lvh", "svh", "dvh", "cqh", "vi", "lvi", "svi", "dvi", "cqi", "vb",
   "lvb", "svb", "dvb", "cqb", "vmin", "lvmin", "svmin", "dvmin", "cqmin", "vmax", "lvmax", "svmax",
   "dvmax", "cqmax", "in", "cm", "mm", "q", "pt", "pc"]

def angleUnits : List String :=
  ["deg", "grad", "rad", "turn"]

def timeUnits : List String :=
  ["s", "ms"]

def resolutionUnits : List String :=
  ["dpi", "dpcm", "dppx", "x"]

def flexUnits : List String :=
  ["fr"]

def isOf (units : List String) (unit : List Char) : Bool :=
  units.any fun u => u.toList == unit

/-- A number with a unit, which is empty for a plain number. A percentage counts as a part of one. -/
structure Quantity where
  value : Float32
  unit : List Char
  deriving BEq, DecidableEq, Repr

namespace Quantity

def isZero (q : Quantity) : Bool :=
  q.value == 0

def number (x : Float32) : Quantity :=
  ⟨x, []⟩

def percent (x : Float32) : Quantity :=
  ⟨x, ['%']⟩

def pixels (x : Float32) : Quantity :=
  ⟨x, "px".toList⟩

def ofToken? : Token → Option Quantity
  | .number n => some (number n.value)
  | .percentage n => some (percent n.value)
  | .dimension n unit => some ⟨n.value, lower unit⟩
  | _ => none

/-- The lengths that a pixel is a fixed part of, and how many pixels they are. -/
def absoluteUnits : List (String × Float32) :=
  [("px", 1), ("in", 96), ("cm", 96 / 2.54), ("mm", 96 / 2.54 / 10), ("q", 96 / 2.54 / 40),
   ("pt", 96 / 72), ("pc", 96 / 6)]

def pixels? (q : Quantity) : Option Float32 :=
  (absoluteUnits.find? fun (unit, _) => unit.toList == q.unit).map fun (_, size) => q.value * size

def degrees (q : Quantity) : Float32 :=
  if q.unit == "turn".toList then q.value * 360
  else if q.unit == "grad".toList then q.value * 180 / 200
  else if q.unit == "rad".toList then q.value * (180 / Single.pi)
  else q.value

def degrees? (q : Quantity) : Option Float32 :=
  if isOf angleUnits q.unit then some q.degrees else none

def radians (q : Quantity) : Float32 :=
  if q.unit == "turn".toList then q.value * 2 * Single.pi
  else if q.unit == "grad".toList then q.value * Single.pi / 200
  else if q.unit == "rad".toList then q.value
  else q.value * (Single.pi / 180)

def timeIn? (unit : List Char) (q : Quantity) : Option Float32 :=
  if !isOf timeUnits q.unit || !isOf timeUnits unit then none
  else if q.unit == unit then some q.value
  else if unit == ['s'] then some (q.value / 1000)
  else some (q.value * 1000)

/-- Applies an operation to two quantities, if their units go together. -/
def combine? (op : Float32 → Float32 → Float32) (p q : Quantity) : Option Quantity :=
  if p.unit == q.unit then some ⟨op p.value q.value, p.unit⟩
  else
    match p.pixels?, q.pixels? with
    | some a, some b => some (pixels (op a b))
    | _, _ =>
      match p.degrees?, q.degrees? with
      | some a, some b => some ⟨op a b, "deg".toList⟩
      | _, _ => (q.timeIn? p.unit).map fun b => ⟨op p.value b, p.unit⟩

/-- Whether one quantity is less than another, if their units go together. -/
def less? (p q : Quantity) : Option Bool :=
  (combine? (fun a b => if a < b then 1 else 0) p q).map fun r => r.value == 1

def scale (factor : Float32) (q : Quantity) : Quantity :=
  { q with value := q.value * factor }

/-- A percentage; below one percent there is no zero in front of the point. -/
def percentText (x : Float32) : List Char :=
  Single.unitText (x * 100) ++ ['%']

/-- Times are written in seconds, if they are a tenth of one or more. -/
def timeText (q : Quantity) : List Char :=
  if q.unit == "ms".toList then
    if q.isZero || q.value ≥ 100 then Single.text false (q.value / 1000) ++ ['s']
    else Single.text false q.value ++ "ms".toList
  else if 0 < q.value && q.value < 0.1 then Single.text false (q.value * 1000) ++ "ms".toList
  else Single.text false q.value ++ ['s']

/-- A unit that could be taken for a power of ten starts with an escape. -/
def unitName (unit : List Char) : List Char :=
  match unit with
  | e :: rest =>
    if (e = 'e' ∨ e = 'E') ∧ (rest = [] ∨ rest.head? = some '-') then
      "\\65 ".toList ++ writeNameRest rest
    else writeName unit
  | [] => []

def unitText (q : Quantity) : List Char :=
  Single.unitText q.value ++ unitName q.unit

/-- A quantity as it is written among others. Angles in radians are written in degrees, and a part
of a resolution is written in the shorter of two units. -/
def text (q : Quantity) : List Char :=
  if q.unit.isEmpty then Single.text false q.value
  else if q.unit == ['%'] then percentText q.value
  else if isOf timeUnits q.unit then q.timeText
  else if q.unit == "rad".toList then Single.unitText q.degrees ++ "deg".toList
  else if q.unit == "dppx".toList then Single.unitText q.value ++ ['x']
  else q.unitText

/-- A quantity as it is written alone: a length of zero has no unit. -/
def textAlone (q : Quantity) : List Char :=
  if q.isZero && isOf lengthUnits q.unit then ['0'] else q.text

end Quantity

def plain (units : List String) : Reader Quantity :=
  expect fun n => do
    let q ← Quantity.ofToken? n.head
    if isOf units q.unit then some q else none

def integer : Reader Int :=
  expect fun
    | .token _ _ (.number n) => n.whole?
    | _ => none

def integerPhrase : Reader Phrase := do
  return Phrase.ofString (toString (← integer))

def resolution : Reader Phrase := do
  return Phrase.ofChars (← plain resolutionUnits).text

end CompanionStyles.Stylesheet.Value
