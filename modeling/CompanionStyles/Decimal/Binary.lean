import CompanionStyles.Decimal.Basic

/-!
Binary fractions of single and double precision: the ones that numbers are rounded to, and the
shortest decimals that are rounded to them.
-/

namespace CompanionStyles

/-- How many digits a binary fraction has, and its least exponent. -/
structure Precision where
  bits : Nat
  least : Int
  deriving DecidableEq, Repr

namespace Precision

def single : Precision :=
  ⟨24, -149⟩

def double : Precision :=
  ⟨53, -1074⟩

end Precision

/-- The fraction `significand · 2 ^ exponent`. -/
structure Binary where
  significand : Nat
  exponent : Int
  deriving DecidableEq, Repr

namespace Binary

/-- The nearest whole number to a quotient; a half goes to the even neighbour. -/
def roundDiv (num den : Nat) : Nat :=
  let q := num / den
  let rest := 2 * (num % den)
  if den < rest ∨ (den = rest ∧ q % 2 = 1) then q + 1 else q

/-- The nearest fraction to `num / den` among the multiples of `2 ^ exponent`. -/
def multiple (num den : Nat) (exponent : Int) : Binary :=
  ⟨roundDiv (num * Nat.pow 2 (-exponent).toNat) (den * Nat.pow 2 exponent.toNat), exponent⟩

/-- The nearest fraction to `num / den` of a precision. -/
def nearest (p : Precision) (num den : Nat) : Binary :=
  let low : Int := (num.log2 : Int) - den.log2 - p.bits
  let fits := fun exponent : Int => decide ((multiple num den exponent).significand ≤ Nat.pow 2 p.bits)
  let exponent := max p.least (if fits low then low else if fits (low + 1) then low + 1 else low + 2)
  let b := multiple num den exponent
  if b.significand = Nat.pow 2 p.bits then ⟨Nat.pow 2 (p.bits - 1), exponent + 1⟩ else b

def quotient (b : Binary) : Nat × Nat :=
  (b.significand * Nat.pow 2 b.exponent.toNat, Nat.pow 2 (-b.exponent).toNat)

def mul (p : Precision) (a b : Binary) : Binary :=
  nearest p (a.quotient.1 * b.quotient.1) (a.quotient.2 * b.quotient.2)

def div (p : Precision) (a b : Binary) : Binary :=
  nearest p (a.quotient.1 * b.quotient.2) (a.quotient.2 * b.quotient.1)

def toDecimal (b : Binary) : Decimal :=
  if 0 ≤ b.exponent then ⟨false, b.significand * Nat.pow 2 b.exponent.toNat, 0⟩
  else ⟨false, b.significand * Nat.pow 5 (-b.exponent).toNat, b.exponent⟩

end Binary

namespace Decimal

/-- The nearest fraction of a precision, the sign left out. -/
def toBinary (p : Precision) (d : Decimal) : Binary :=
  .nearest p (d.digits * Nat.pow 10 d.exponent.toNat) (Nat.pow 10 (-d.exponent).toNat)

/-- The first of the roundings to `count` digits and more that is the same fraction. -/
def shortestFrom (p : Precision) (exact : Decimal) (b : Binary) : Nat → Nat → Decimal
  | 0, count => exact.round count
  | fuel + 1, count =>
    let d := exact.round count
    if d.toBinary p = b then d else shortestFrom p exact b fuel (count + 1)

/-- The shortest decimal that is rounded to a fraction. -/
def ofBinary (p : Precision) (b : Binary) : Decimal :=
  if b.significand = 0 then ⟨false, 0, 0⟩
  else shortestFrom p b.toDecimal b (p.bits / 3 + 1) 1

/-- A number with a fraction, or with a power of ten where the point would stand `lead` or more places
in front of the digits or more than sixteen places behind their start. -/
def fractionText (lead : Nat) (d : Decimal) : List Char :=
  let ds := digitsOf d.digits
  let point := ds.length + d.exponent
  if d.digits = 0 then d.minus ++ "0.0".toList
  else if 0 ≤ d.exponent ∧ point ≤ 16 then
    d.minus ++ ds ++ List.replicate d.exponent.toNat '0' ++ ".0".toList
  else if 0 < point ∧ point ≤ 16 then
    d.minus ++ ds.take point.toNat ++ '.' :: ds.drop point.toNat
  else if -(lead : Int) < point ∧ point ≤ 0 then
    d.minus ++ "0.".toList ++ List.replicate (-point).toNat '0' ++ ds
  else
    let fraction := match ds.tail with
      | [] => []
      | more => '.' :: more
    d.minus ++ ds.take 1 ++ fraction ++ 'e' :: (toString (point - 1)).toList

end Decimal

end CompanionStyles
