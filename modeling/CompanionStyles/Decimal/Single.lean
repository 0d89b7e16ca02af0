import CompanionStyles.Decimal.Binary

/-!
Numbers of single precision: the decimals that stand for them, their texts in stylesheets, and the
operations on them that core does not have.
-/

namespace CompanionStyles.Single

def isNegative (x : Float32) : Bool :=
  decide (Nat.pow 2 31 ≤ x.toBits.toNat)

/-- The fraction that the bits of a number write, the sign left out. The bits of an infinity write a
fraction too, the first one beyond the greatest number. -/
def binary (x : Float32) : Binary :=
  let bits := x.toBits.toNat % Nat.pow 2 31
  let power : Nat := bits / Nat.pow 2 23
  let digits : Nat := bits % Nat.pow 2 23
  if power = 0 then ⟨digits, -149⟩ else ⟨digits + Nat.pow 2 23, (power : Int) - 150⟩

/-- The shortest decimal that is rounded to a number. -/
def decimal (x : Float32) : Decimal :=
  { Decimal.ofBinary .single (binary x) with negative := isNegative x }

def text (leadingZero : Bool) (x : Float32) : List Char :=
  (decimal x).text leadingZero

/-- The whole number that a number is, held within 32 bits. -/
def whole? (x : Float32) : Option Int :=
  if x.floor == x && x.isFinite then some x.toInt32.toInt else none

/-- A number in front of a unit: whole ones have all of their digits, and zero has a sign. -/
def unitText (x : Float32) : List Char :=
  match whole? x with
  | some n => if isNegative x && n == 0 then "-0".toList else (toString n).toList
  | none => text false x

/-- A fraction as a number; it has no more digits than a number can have. -/
def ofBinary (b : Binary) : Float32 :=
  let shift := b.significand.log2 - 23
  (Float32.ofNat (b.significand / Nat.pow 2 shift)).scaleB (b.exponent + shift)

/-- What is left of `a` behind the last whole multiple of `b`; the sign is that of `a`. -/
def rem (a b : Float32) : Float32 :=
  if a.isNaN || a.isInf || b.isNaN || b == 0 then 0 / 0
  else if b.isInf then a
  else
    let (p, q) := (binary a, binary b)
    let exponent := min p.exponent q.exponent
    let scaled (x : Binary) : Nat := x.significand * Nat.pow 2 (x.exponent - exponent).toNat
    let rest := ofBinary ⟨scaled p % scaled q, exponent⟩
    if isNegative a then -rest else rest

def mod (a b : Float32) : Float32 :=
  rem (rem a b + b) b

def hypot (a b : Float32) : Float32 :=
  let (x, y) := (a.toFloat, b.toFloat)
  (x * x + y * y).sqrt.toFloat32

def cbrt (x : Float32) : Float32 :=
  x.toFloat.cbrt.toFloat32

/-- The nearest number to the direction of a point, in radians. -/
def atan2 (y x : Float32) : Float32 :=
  (y.toFloat.atan2 x.toFloat).toFloat32

/-- The greatest whole number that is not beyond a number, seen from zero. -/
def trunc (x : Float32) : Float32 :=
  if isNegative x then x.ceil else x.floor

/-- A number held between two others; what is no number stays so. -/
def clamp (low high x : Float32) : Float32 :=
  if x < low then low else if high < x then high else x

def pi : Float32 :=
  3.14159265358979323846

/-- What a number shows of its sign: one, or zero where the number is zero. -/
def sign (x : Float32) : Float32 :=
  if x.isNaN || x == 0 then x else if isNegative x then -1 else 1

end CompanionStyles.Single
