import CompanionStyles.Decimal.Binary
import CompanionStyles.Json.Fault

/-!
Numbers of JSON texts: how they are read in double precision, and how they are shown.
-/

namespace CompanionStyles.Json

def digitRun (text : List Char) : List Char × List Char :=
  text.span Char.isDigit

def digitValue (c : Char) : Nat :=
  c.toNat - '0'.toNat

/-- The greatest whole number that is kept exactly while its digits are read. -/
def significandLimit : Nat :=
  Nat.pow 2 64 - 1

/-- The greatest power of ten that is kept exactly while its digits are read. -/
def exponentLimit : Nat :=
  Nat.pow 2 31 - 1

/-- Takes digits into a significand until the next one is too much; with their number. -/
def takeDigits : Nat → Nat → List Char → Nat × Nat × List Char
  | significand, count, c :: rest =>
    if c.isDigit ∧ significand * 10 + digitValue c ≤ significandLimit then
      takeDigits (significand * 10 + digitValue c) (count + 1) rest
    else (significand, count, c :: rest)
  | significand, count, [] => (significand, count, [])

def powerOfTen (n : Nat) : Binary :=
  .nearest .double (Nat.pow 10 n) 1

def overflows (b : Binary) : Bool :=
  decide (Nat.pow 2 1024 * b.quotient.2 ≤ b.quotient.1)

/-- The greatest power of ten that a double is multiplied by at once. -/
def powerLimit : Nat :=
  308

/-- A double divided by a power of ten, in several steps if the power is great. -/
def divided : Nat → Binary → Nat → Binary
  | 0, b, _ => b
  | fuel + 1, b, n =>
    if n ≤ powerLimit then b.div .double (powerOfTen n)
    else if b.significand = 0 then b
    else divided fuel (b.div .double (powerOfTen powerLimit)) (n - powerLimit)

/-- The double that a significand and a power of ten make. -/
def scaled? (significand : Nat) (exponent : Int) : Option Binary :=
  let b := Binary.nearest .double significand 1
  if exponent < 0 then some (divided 4 b (-exponent).toNat)
  else if exponent.toNat ≤ powerLimit then
    let product := b.mul .double (powerOfTen exponent.toNat)
    if overflows product then none else some product
  else if b.significand = 0 then some b
  else none

/-- A number as it has been read. -/
inductive Number where
  | whole (n : Int)
  | fraction (negative : Bool) (b : Binary)
  deriving DecidableEq, Repr

def Number.shown : Number → String
  | whole n => "integer `" ++ toString n ++ "`"
  | fraction negative b =>
    let d := { Decimal.ofBinary .double b with negative := negative }
    "floating point `" ++ String.ofList (d.fractionText 5) ++ "`"

/-- The number that a significand and a power of ten make, in front of what is left. -/
def scaledNumber (negative : Bool) (significand : Nat) (exponent : Int) (rest : List Char) :
    Except Stop (Number × List Char) :=
  match scaled? significand exponent with
  | some b => .ok (.fraction negative b, rest)
  | none => .error (stopAt .numberOutOfRange rest)

/-- Takes the digits of a power of ten; none if there are too many, with what is left behind the first
of them that is too much. -/
def takeExponent : Nat → List Char → Option Nat × List Char
  | n, c :: rest =>
    if c.isDigit then
      if n * 10 + digitValue c ≤ exponentLimit then takeExponent (n * 10 + digitValue c) rest
      else (none, rest)
    else (some n, c :: rest)
  | n, [] => (some n, [])

def readExponent (negative : Bool) (significand : Nat) (exponent : Int) (text : List Char) :
    Except Stop (Number × List Char) :=
  let (down, text) := match text with
    | '+' :: rest => (false, rest)
    | '-' :: rest => (true, rest)
    | rest => (false, rest)
  match text with
  | [] => .error (stopAt .endOfValue [])
  | c :: rest =>
    if c.isDigit then
      match takeExponent (digitValue c) rest with
      | (some n, rest) =>
        scaledNumber negative significand (if down then exponent - n else exponent + n) rest
      | (none, rest) =>
        if significand ≠ 0 ∧ !down then .error (stopAt .numberOutOfRange rest)
        else .ok (.fraction negative (.nearest .double 0 1), (digitRun rest).2)
    else .error (stopPast .number (c :: rest))

def readScale (negative : Bool) (significand : Nat) (exponent : Int) (text : List Char) :
    Except Stop (Number × List Char) :=
  match text with
  | 'e' :: rest => readExponent negative significand exponent rest
  | 'E' :: rest => readExponent negative significand exponent rest
  | rest => scaledNumber negative significand exponent rest

/-- Reads the digits behind a point; those that are too much do not count. -/
def readFraction (negative : Bool) (significand : Nat) (exponent : Int) (text : List Char) :
    Except Stop (Number × List Char) :=
  let (significand, count, rest) := takeDigits significand 0 text
  match digitRun rest with
  | ([], rest) =>
    if count = 0 then
      .error (stopPast (if rest.isEmpty then .endOfValue else .number) rest)
    else readScale negative significand (exponent - count) rest
  | (_, rest) => readScale negative significand (exponent - count) rest

def wholeNumber (negative : Bool) (n : Nat) : Number :=
  if negative then
    if n = 0 ∨ Nat.pow 2 63 < n then .fraction true (.nearest .double n 1) else .whole (-n)
  else .whole n

def readNumber (negative : Bool) (text : List Char) : Except Stop (Number × List Char) :=
  match text with
  | [] => .error (stopAt .endOfValue [])
  | '0' :: rest =>
    match rest with
    | '.' :: rest => readFraction negative 0 0 rest
    | 'e' :: rest => readExponent negative 0 0 rest
    | 'E' :: rest => readExponent negative 0 0 rest
    | c :: rest =>
      if c.isDigit then .error (stopPast .number (c :: rest))
      else .ok (wholeNumber negative 0, c :: rest)
    | [] => .ok (wholeNumber negative 0, [])
  | c :: rest =>
    if c.isDigit then
      let (significand, _, rest) := takeDigits 0 0 (c :: rest)
      match digitRun rest with
      | ([], '.' :: rest) => readFraction negative significand 0 rest
      | ([], 'e' :: rest) => readExponent negative significand 0 rest
      | ([], 'E' :: rest) => readExponent negative significand 0 rest
      | ([], rest) => .ok (wholeNumber negative significand, rest)
      | (more, '.' :: rest) => readFraction negative significand more.length rest
      | (more, rest) => readScale negative significand more.length rest
    else .error (stopPast .number (c :: rest))

def skipExponent (text : List Char) : Except Stop (List Char) :=
  let text := match text with
    | '+' :: rest => rest
    | '-' :: rest => rest
    | rest => rest
  match text with
  | [] => .error (stopAt .number [])
  | c :: rest => if c.isDigit then .ok (digitRun rest).2 else .error (stopPast .number (c :: rest))

def skipNumber (text : List Char) : Except Stop (List Char) :=
  let scale (text : List Char) : Except Stop (List Char) :=
    match text with
    | 'e' :: rest => skipExponent rest
    | 'E' :: rest => skipExponent rest
    | rest => .ok rest
  let fraction (text : List Char) : Except Stop (List Char) :=
    match text with
    | '.' :: rest =>
      match digitRun rest with
      | ([], rest) => .error (stopPast .number rest)
      | (_, rest) => scale rest
    | rest => scale rest
  match text with
  | [] => .error (stopAt .number [])
  | '0' :: c :: rest =>
    if c.isDigit then .error (stopPast .number (c :: rest)) else fraction (c :: rest)
  | c :: rest =>
    if c.isDigit then fraction (digitRun rest).2 else .error (stopPast .number (c :: rest))

end CompanionStyles.Json
