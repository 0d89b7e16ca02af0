import CompanionStyles.Text.Utf8

/-!
Base 64 without padding: three bytes become four digits, and the last bits are filled up with zeros.
-/

namespace CompanionStyles.Base64

def standardDigits : List Char :=
  "ABCDEFGHIJKLMNOPQRSTUVWXYZabcdefghijklmnopqrstuvwxyz0123456789+/".toList

/-- The digits that names may hold: lower case first, zero last of the decimal ones. -/
def nameDigits : List Char :=
  "abcdefghijklmnopqrstuvwxyzABCDEFGHIJKLMNOPQRSTUVWXYZ1234567890_-".toList

def digit (digits : List Char) (n : Nat) : Char :=
  digits.getD (n % 64) 'A'

def encode (digits : List Char) : Bytes → List Char
  | [] => []
  | [a] =>
    let n := a.toNat * 16
    [digit digits (n / 64), digit digits n]
  | [a, b] =>
    let n := (a.toNat * 256 + b.toNat) * 4
    [digit digits (n / 4096), digit digits (n / 64), digit digits n]
  | a :: b :: c :: rest =>
    let n := a.toNat * 65536 + b.toNat * 256 + c.toNat
    digit digits (n / 262144) :: digit digits (n / 4096) :: digit digits (n / 64) :: digit digits n
      :: encode digits rest

end CompanionStyles.Base64
