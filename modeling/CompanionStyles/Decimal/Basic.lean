/-!
Decimal numbers as stylesheets write them: a sign, the digits, and the power of ten they count.
-/

namespace CompanionStyles

/-- The number `± digits · 10 ^ exponent`. -/
structure Decimal where
  negative : Bool
  digits : Nat
  exponent : Int
  deriving DecidableEq, Repr, Inhabited

namespace Decimal

/-- Moves zeros at the end of the digits into the exponent; `fuel` bounds their number. -/
def trimZeros : Nat → Nat → Int → Nat × Int
  | 0, digits, exponent => (digits, exponent)
  | fuel + 1, digits, exponent =>
    if digits % 10 = 0 ∧ digits ≠ 0 then trimZeros fuel (digits / 10) (exponent + 1)
    else (digits, exponent)

/-- The form in which the last digit is no zero; zero has the exponent zero. -/
def normal (d : Decimal) : Decimal :=
  if d.digits = 0 then ⟨d.negative, 0, 0⟩
  else
    let (digits, exponent) := trimZeros (d.digits.log2 + 1) d.digits d.exponent
    ⟨d.negative, digits, exponent⟩

def digitsOf (n : Nat) : List Char :=
  Nat.toDigits 10 n

/-- The nearest number with at most `count` digits; a half goes away from zero. -/
def round (count : Nat) (d : Decimal) : Decimal :=
  let extra := (digitsOf d.digits).length - count
  let unit := Nat.pow 10 extra
  normal ⟨d.negative, (d.digits + unit / 2) / unit, d.exponent + extra⟩

def minus (d : Decimal) : List Char :=
  if d.negative then ['-'] else []

def writtenDigits : Nat :=
  6

/-- A number as stylesheets print it: at most six digits, with a power of ten only below a millionth
or from `10 ^ 21` on. Zero has no sign; a zero in front of the point is written on demand. -/
def text (leadingZero : Bool) (d : Decimal) : List Char :=
  let d := d.round writtenDigits
  let ds := digitsOf d.digits
  let point := ds.length + d.exponent
  if d.digits = 0 then ['0']
  else if 0 ≤ d.exponent ∧ point ≤ 21 then
    d.minus ++ ds ++ List.replicate d.exponent.toNat '0'
  else if 0 < point ∧ point ≤ 21 then
    d.minus ++ ds.take point.toNat ++ '.' :: ds.drop point.toNat
  else if -6 < point ∧ point ≤ 0 then
    d.minus ++ (if leadingZero then ['0'] else []) ++ '.' :: List.replicate (-point).toNat '0' ++ ds
  else
    let fraction := match ds.tail with
      | [] => []
      | more => '.' :: more
    d.minus ++ ds.take 1 ++ fraction ++ 'e' :: (toString (point - 1)).toList

end Decimal

end CompanionStyles
