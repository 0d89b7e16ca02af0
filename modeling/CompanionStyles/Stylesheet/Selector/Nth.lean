import CompanionStyles.Stylesheet.Reader

/-!
Steps and offsets: which elements of a row are chosen, as in `2n+1`.
-/

namespace CompanionStyles.Stylesheet.Selector

open Reader

/-- A step and an offset. -/
structure Nth where
  step : Int
  offset : Int
  deriving DecidableEq, Repr

def Nth.text (n : Nth) : List Char :=
  let signed := (if 0 ≤ n.offset then "+" else "").toList ++ (toString n.offset).toList
  if n = ⟨2, 1⟩ then "odd".toList
  else if n.step = 0 then (toString n.offset).toList
  else
    let step := if n.step = 1 then ['n'] else if n.step = -1 then "-n".toList
      else (toString n.step).toList ++ ['n']
    if n.offset = 0 then step else step ++ signed

/-- The number that digits behind a minus sign write, held within 32 bits. -/
def negativeDigits? (digits : List Char) : Option Int :=
  if digits ≠ [] ∧ digits.all Char.isDigit then
    some (-(min (Scanner.valueOf digits) (Nat.pow 2 31) : Nat))
  else none

/-- Reads a node that `accept` takes; of another one it is said behind it that it is unexpected. -/
def expectBehind {α : Type} (read : Reader Node) (accept : Node → Option α) : Reader α := do
  let n ← read
  match accept n with
  | some a => return a
  | none => failAt (← behind n) (.unexpected n.head)

def unsigned : Reader Int :=
  expectBehind next fun
    | .token _ _ (.number n) => if n.signed then none else n.whole?
    | _ => none

/-- The offset behind a step: a signed number, or a sign and a number. -/
def nthOffset : Reader Int := do
  match ← peek with
  | some (.token _ _ (.delim '+')) =>
    let _ ← next
    unsigned
  | some (.token _ _ (.delim '-')) =>
    let _ ← next
    return -(← unsigned)
  | some (.token _ _ (.number n)) =>
    match (if n.signed then n.whole? else none) with
    | some offset =>
      let _ ← next
      return offset
    | none => return 0
  | _ => return 0

/-- Reads what may follow `n`, of which `unit` belongs to the token that has just been read. -/
def nthBehind (step : Int) (unit whole : List Char) : Reader Nth :=
  match lower unit with
  | ['n'] => do return ⟨step, ← nthOffset⟩
  | ['n', '-'] => do return ⟨step, -(← unsigned)⟩
  | 'n' :: '-' :: digits =>
    match negativeDigits? digits with
    | some offset => return ⟨step, offset⟩
    | none => fail (.unexpected (.ident whole))
  | _ => fail (.unexpected (.ident whole))

def nth : Reader Nth := do
  let n ← next
  let unexpected : Reader Nth := do failAt (← behind n) (.unexpected n.head)
  match n with
  | .token _ _ (.number m) =>
    match m.whole? with
    | some offset => return ⟨0, offset⟩
    | none => unexpected
  | .token _ _ (.dimension m unit) =>
    match m.whole? with
    | some step => nthBehind step unit unit
    | none => unexpected
  | .token _ _ (.ident name) =>
    if isWord name "even" then return ⟨2, 0⟩
    else if isWord name "odd" then return ⟨2, 1⟩
    else
      match name with
      | '-' :: rest => nthBehind (-1) rest name
      | rest => nthBehind 1 rest name
  | .token _ _ (.delim '+') =>
    match ← nextRaw with
    | .token _ _ (.ident rest) => nthBehind 1 rest rest
    | m => failAt (← behind m) (.unexpected m.head)
  | _ => unexpected

end CompanionStyles.Stylesheet.Selector
