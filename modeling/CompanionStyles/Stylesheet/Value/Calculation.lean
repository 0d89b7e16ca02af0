import CompanionStyles.Stylesheet.Value.Quantity

/-!
Calculations: sums, products and functions of quantities. What can be worked out is: quantities whose
units go together are added up, and a function of quantities is the quantity that it yields. What
cannot stays a calculation and is written as one.
-/

namespace CompanionStyles.Stylesheet.Value

open Reader

/-- How `round()` rounds. -/
inductive Rounding where
  | nearest
  | up
  | down
  | toZero
  deriving DecidableEq, Repr

def Rounding.word : Rounding → String
  | nearest => "nearest"
  | up => "up"
  | down => "down"
  | toZero => "to-zero"

/-- The functions that can be left in a calculation. -/
inductive MathFunction where
  | calc
  | min
  | max
  | clamp
  | round (how : Rounding)
  | rem
  | mod
  | abs
  | sign
  | hypot
  deriving DecidableEq, Repr

/-- What a function's name and first argument look like. -/
def MathFunction.opening : MathFunction → String
  | .calc => "calc("
  | .min => "min("
  | .max => "max("
  | .clamp => "clamp("
  | .round .nearest => "round("
  | .round how => "round(" ++ how.word ++ ", "
  | .rem => "rem("
  | .mod => "mod("
  | .abs => "abs("
  | .sign => "sign("
  | .hypot => "hypot("

inductive Calc where
  | value (q : Quantity)
  | number (n : Float32)
  | sum (a b : Calc)
  | product (factor : Float32) (c : Calc)
  | function (f : MathFunction) (arguments : List Calc)
  deriving BEq, Repr

namespace Calc

def size : Calc → Nat
  | sum a b => a.size + b.size + 1
  | product _ c => c.size + 1
  | _ => 1

def isZero : Calc → Bool
  | value q => q.isZero
  | _ => false

/-- Whether a calculation is known to be less than zero, or zero with a minus sign. -/
def isNegative? : Calc → Option Bool
  | value q => some (Single.isNegative q.value)
  | number n => some (Single.isNegative n)
  | product n c => c.isNegative?.map (· != Single.isNegative n)
  | _ => none

def scale (factor : Float32) (c : Calc) : Calc :=
  if factor == 1 then c
  else
    match c with
    | value q => value (q.scale factor)
    | number n => number (n * factor)
    | sum a b => sum (a.scale factor) (b.scale factor)
    | product n c => if n * factor == 1 then c else product (n * factor) c
    | function .calc [inner] => function .calc [inner.scale factor]
    | function f arguments => product factor (function f arguments)

/-- A sum of which nothing goes together; zero adds nothing, and what is negative comes last. -/
def sumApart (a b : Calc) : Calc :=
  if a.isZero then b
  else if b.isZero then a
  else if a.isNegative? == some true && b.isNegative? == some false then sum b a
  else sum a b

/-- A sum with a number, which goes together with another number in it. -/
def sumNumber (a b : Calc) (n : Float32) : Calc :=
  match a, b with
  | number m, b => sum (number (m + n)) b
  | a, number m => sum a (number (m + n))
  | a, b => sum (sum a b) (number n)

mutual

/-- The sum of two calculations, if a quantity in one goes together with one in the other. -/
def join? : Nat → Calc → Calc → Option Calc
  | 0, _, _ => none
  | fuel + 1, c, d =>
    match c, d with
    | value p, value q => (p.combine? (· + ·) q).map value
    | sum a b, d =>
      match join? fuel a d with
      | some r => some (addUpTo fuel r b)
      | none => (join? fuel b d).map (addUpTo fuel a)
    | value p, sum a b =>
      match join? fuel (value p) a with
      | some r => some (addUpTo fuel r b)
      | none => (join? fuel (value p) b).map (addUpTo fuel a)
    | _, _ => none

/-- The sum of two calculations; `fuel` is no less than the size of both. -/
def addUpTo : Nat → Calc → Calc → Calc
  | 0, c, d => sum c d
  | fuel + 1, c, d =>
    match c, d with
    | number m, number n => number (m + n)
    | sum a b, number n => sumNumber a b n
    | number _, _ | _, number _ | product _ _, _ | _, product _ _ => sum c d
    | function _ _, _ | _, function _ _ => sum c d
    | c, d => (join? fuel c d).getD (sumApart c d)

end

def add (c d : Calc) : Calc :=
  addUpTo (2 * (c.size + d.size)) c d

/-- A function of one or two numbers, applied to what can be worked out. -/
def combine? (op : Float32 → Float32 → Float32) : Calc → Calc → Option Calc
  | value p, value q => (p.combine? op q).map value
  | number m, number n => some (number (op m n))
  | _, _ => none

/-- A function of one number; what a percentage is a part of is not known here. -/
def map? (op : Float32 → Float32) : Calc → Option Calc
  | value q => if q.unit == ['%'] then none else some (value { q with value := op q.value })
  | number n => some (number (op n))
  | _ => none

/-- Takes an argument of `min()` or `max()` in: one that is known to be beaten is left out. -/
def reduceArgument (least : Bool) (c : Calc) : List Calc → List Calc
  | [] => [c]
  | d :: rest =>
    match c, d with
    | value p, value q =>
      match (if least then p.less? q else q.less? p) with
      | some beats => if beats then c :: rest else d :: rest
      | none => d :: reduceArgument least c rest
    | _, _ => d :: reduceArgument least c rest

def extreme (least : Bool) (arguments : List Calc) : Calc :=
  match arguments.foldl (fun reduced c => reduceArgument least c reduced) [] with
  | [c] => c
  | reduced => function (if least then .min else .max) reduced

/-- Whether one calculation is known to be less than another one, or not to be. -/
def less? : Calc → Calc → Option Bool
  | value p, value q => p.less? q
  | _, _ => none

/-- A calculation held between two others; of these the lower one counts more. -/
def clampBetween (low middle high : Calc) : Calc :=
  let (middle, high) := match high.less? middle with
    | some true => (high, none)
    | some false => (middle, none)
    | none => (middle, some high)
  let (middle, low) := match middle.less? low with
    | some true => (low, none)
    | some false => (middle, none)
    | none => (middle, some low)
  match low, high with
  | none, none => middle
  | some low, none => function .max [low, middle]
  | none, some high => function .min [middle, high]
  | some low, some high => function .clamp [low, middle, high]

def roundTo (how : Rounding) (a b : Float32) : Float32 :=
  let n := a / b
  let n := match how with
    | .nearest => n.round
    | .up => n.ceil
    | .down => n.floor
    | .toZero => Single.trunc n
  n * b

/-- The square root of the sum of squares, as far as it can be worked out. -/
def hypot? : List Calc → Option Calc
  | [] => none
  | [c] => c.map? Float32.abs
  | [c, d] => c.combine? Single.hypot d
  | c :: rest => do
    let square ← c.map? fun x => x * x
    let total ← rest.foldlM (fun total d => total.combine? (fun a b => a + b * b) d) square
    total.map? Float32.sqrt

/-- A product; one with less than the whole is written as a quotient. -/
def productText (n : Float32) (text : List Char) : List Char :=
  if n.abs < 1 then text ++ " / ".toList ++ Single.text false (1 / n)
  else Single.text false n ++ " * ".toList ++ text

mutual

def innerText : Calc → List Char
  | value q => q.text
  | number n => Single.text false n
  | sum a b => innerText a ++ addedText b
  | product n c => productText n (innerText c)
  | function f arguments => f.opening.toList ++ listText arguments ++ [')']

/-- The second part of a sum: what is negative is taken away. -/
def addedText : Calc → List Char
  | value q =>
    if Single.isNegative q.value then " - ".toList ++ (q.scale (-1)).text
    else " + ".toList ++ q.text
  | product n c =>
    if n < 0 then " - ".toList ++ productText (-n) (innerText c)
    else " + ".toList ++ productText n (innerText c)
  | number n => " + ".toList ++ Single.text false n
  | sum a b => " + ".toList ++ innerText a ++ addedText b
  | function f arguments => " + ".toList ++ f.opening.toList ++ listText arguments ++ [')']

def listText : List Calc → List Char
  | [] => []
  | [c] => innerText c
  | c :: rest => innerText c ++ ", ".toList ++ listText rest

end

def text : Calc → List Char
  | value q => q.textAlone
  | c => c.innerText

def phrase (c : Calc) : Phrase :=
  Phrase.ofChars c.text

end Calc

/-- What a calculation consists of: quantities in some units, and names of numbers. -/
structure Vocabulary where
  units : List String
  named : List Char → Option Float32

def Vocabulary.ofUnits (units : List String) : Vocabulary :=
  ⟨units, fun _ => none⟩

def constants : List (String × Float32) :=
  [("e", 2.71828182845904523536), ("pi", Single.pi), ("infinity", 1 / 0), ("-infinity", -1 / 0),
   ("nan", 0 / 0)]

def namedNumber (v : Vocabulary) : Reader Calc :=
  expect fun
    | .token _ _ (.ident name) =>
      match constants.find? fun (known, _) => isWord name known with
      | some (_, n) => some (.number n)
      | none => (v.named name).map .number
    | _ => none

/-- Goes on with a sum as long as operators with a blank in front of them follow. -/
def sumRest (product : Reader Calc) : Nat → Calc → Reader Calc
  | 0, c => pure c
  | fuel + 1, c => do
    let before ← get
    match ← attempt nextRaw with
    | some (.token _ _ (.blank _)) =>
      if (← get).nodes.all isGap then return c
      let n ← next
      match n.head with
      | .delim '+' => sumRest product fuel (c.add (← product))
      | .delim '-' => sumRest product fuel (c.add ((← product).scale (-1)))
      | t => failAt n.place (.unexpected t)
    | _ =>
      set before
      return c

/-- Goes on with a product: one of two factors is a number, and so is a divisor. -/
def productRest (operand : Reader Calc) : Nat → Calc → Reader Calc
  | 0, c => pure c
  | fuel + 1, c => do
    if ← found (delim '*') then
      match c, ← operand with
      | c, .number n => productRest operand fuel (c.scale n)
      | .number n, d => productRest operand fuel (d.scale n)
      | _, _ => fail (.unexpected (.delim '*'))
    else if ← found (delim '/') then
      match ← operand with
      | .number n => if n == 0 then fail .value else productRest operand fuel (c.scale (1 / n))
      | _ => fail .value
    else return c

/-- Two arguments of a function that yields a number, or stays if it cannot be worked out. -/
def twoArguments (inner : Reader Calc) (f : MathFunction) (op : Float32 → Float32 → Float32) :
    Reader Calc := do
  let a ← inner
  comma
  let b ← inner
  return (a.combine? op b).getD (.function f [a, b])

def numeric (inner : Vocabulary → Reader Calc) (v : Vocabulary) : Reader Float32 := do
  match ← inner { v with units := [] } with
  | .number n => return n
  | _ => fail .value

/-- An angle of so many radians, where angles are asked for. -/
def angleResult (v : Vocabulary) (radians : Float32) : Reader Calc :=
  if v.units.contains "rad" then return .value ⟨radians, "rad".toList⟩ else fail .value

/-- The angle of a point given by two quantities of one kind. -/
def pointAngle (inner : Vocabulary → Reader Calc) (v : Vocabulary) : Reader Float32 :=
  let ofUnits (units : List String) : Reader Float32 := do
    let a ← inner { v with units := units }
    comma
    let b ← inner { v with units := units }
    match a.combine? Single.atan2 b with
    | some (.value q) => return q.value
    | some (.number n) => return n
    | _ => fail .value
  ofUnits lengthUnits <|> ofUnits ["%"] <|> ofUnits angleUnits <|> ofUnits timeUnits <|> ofUnits []

def trigonometric (inner : Vocabulary → Reader Calc) (v : Vocabulary) (op : Float32 → Float32) :
    Reader Calc := do
  match ← inner { v with units := angleUnits } with
  | .value q => return .number (op q.radians)
  | .number n => return .number (op n)
  | _ => fail .value

def inverse (inner : Vocabulary → Reader Calc) (v : Vocabulary) (op : Float32 → Float32) :
    Reader Calc := do
  match ← inner { v with units := angleUnits } with
  | .number n =>
    let radians := op n
    if radians.isNaN then return .number radians else angleResult v radians
  | _ => fail .value

def mathNames : List String :=
  ["calc", "min", "max", "clamp", "round", "rem", "mod", "sin", "cos", "tan", "asin", "acos", "atan",
   "atan2", "pow", "log", "sqrt", "exp", "hypot", "abs", "sign"]

def roundings : List Rounding :=
  [.nearest, .up, .down, .toZero]

/-- The way to round that may stand in front of the arguments of `round()`. -/
def rounding : Reader Rounding := do
  match ← attempt (keyword (roundings.map Rounding.word)) with
  | some name =>
    comma
    return (roundings.find? fun r => r.word.toList == name).getD .nearest
  | none => return .nearest

def mathArguments (inner : Vocabulary → Reader Calc) (v : Vocabulary) (name : List Char) :
    Reader Calc :=
  match String.ofList name with
  | "calc" => do
    match ← inner v with
    | .value q => return .value q
    | .number n => return .number n
    | c => return .function .calc [c]
  | "min" => Calc.extreme true <$> commaSeparated (inner v)
  | "max" => Calc.extreme false <$> commaSeparated (inner v)
  | "clamp" => do
    let low ← inner v
    comma
    let middle ← inner v
    comma
    return .clampBetween low middle (← inner v)
  | "round" => do
    let how ← rounding
    twoArguments (inner v) (.round how) (Calc.roundTo how)
  | "rem" => twoArguments (inner v) .rem Single.rem
  | "mod" => twoArguments (inner v) .mod Single.mod
  | "sin" => trigonometric inner v Float32.sin
  | "cos" => trigonometric inner v Float32.cos
  | "tan" => trigonometric inner v Float32.tan
  | "asin" => inverse inner v Float32.asin
  | "acos" => inverse inner v Float32.acos
  | "atan" => inverse inner v Float32.atan
  | "atan2" => do angleResult v (← pointAngle inner v)
  | "pow" => do
    let a ← numeric inner v
    comma
    return .number (a.pow (← numeric inner v))
  | "log" => do
    let a ← numeric inner v
    if ← found comma then return .number (a.log / (← numeric inner v).log)
    else return .number a.log
  | "sqrt" => do return .number (← numeric inner v).sqrt
  | "exp" => do return .number (← numeric inner v).exp
  | "hypot" => do
    let arguments ← commaSeparated (inner v)
    return (Calc.hypot? arguments).getD (.function .hypot arguments)
  | "abs" => do
    let c ← inner v
    return (c.map? Float32.abs).getD (.function .abs [c])
  | _ => do
    let c ← inner v
    match c.map? Single.sign with
    | some (.value q) => return .number q.value
    | some c => return c
    | none => return .function .sign [c]

/-- What stands between operators: a function, brackets, a number or a quantity. -/
def operand (inner : Vocabulary → Reader Calc) (v : Vocabulary) : Reader Calc := do
  match ← attempt (call mathNames (mathArguments inner v)) with
  | some (.function .calc [c]) => return c
  | some c => return c
  | none =>
    block .round (inner v) <|> (do return .number (← plain [""]).value) <|> namedNumber v
      <|> do return .value (← plain v.units)

/-- A sum of products; `depth` bounds how far brackets nest. -/
def calcSum : Nat → Vocabulary → Reader Calc
  | 0, _ => fail .nestingDepth
  | depth + 1, v => do
    let one := operand (calcSum depth) v
    let product : Reader Calc := do productRest one ((← size) + 1) (← one)
    sumRest product ((← size) + 1) (← product)

def calcDepth : Nat :=
  64

def calculation (v : Vocabulary) : Reader Calc :=
  call mathNames (mathArguments (calcSum calcDepth) v)

/-- A quantity in one of some units, or a calculation. -/
def measure (units : List String) : Reader Calc :=
  (do return .value (← plain units)) <|> calculation (.ofUnits units)

/-- A quantity in one of some units, which may have to be worked out. -/
def settled (units : List String) : Reader Quantity := do
  match ← measure units with
  | .value q => return q
  | _ => fail .value

def pixels : Reader Calc := do
  return .value (.pixels (← plain [""]).value)

def length : Reader Calc :=
  measure lengthUnits <|> pixels

def lengthPercentage : Reader Calc :=
  measure ("%" :: lengthUnits) <|> pixels

def percentage : Reader Quantity :=
  settled ["%"]

def number : Reader Float32 := do
  match ← measure [""] with
  | .value q => return q.value
  | .number n => return n
  | _ => fail .value

def numberOrPercentage : Reader Quantity :=
  (Quantity.number <$> number) <|> percentage

def time : Reader Quantity :=
  settled timeUnits

def angle : Reader Quantity :=
  settled angleUnits

def noAngle : Quantity :=
  ⟨0, "deg".toList⟩

def zeroNumber : Reader Unit := do
  if !(← plain [""]).isZero then fail .value

def angleOrZero : Reader Quantity :=
  angle <|> do
    zeroNumber
    return noAngle

end CompanionStyles.Stylesheet.Value
