import CompanionStyles.Stylesheet.Value.Calculation
import CompanionStyles.Stylesheet.Value.ColorNames
import CompanionStyles.Stylesheet.Value.ColorSpace

/-!
Colors. A color that is given by red, green and blue is written as briefly as possible: by a short
name, or in hexadecimal digits.
-/

namespace CompanionStyles.Stylesheet.Value

open Reader

/-- Four parts from 0 to 255. -/
structure Rgba where
  red : Nat
  green : Nat
  blue : Nat
  alpha : Nat
  deriving DecidableEq, Repr

inductive Color where
  | rgba (c : Rgba)
  | current
  | system (name : List Char)
  /-- A color that is written in its space. -/
  | spaced (space : Space) (s : Shade)
  /-- A color that is written by what it is in red, green and blue. -/
  | mixed (space : Space) (s : Shade)
  | lightDark (light dark : Color)
  deriving BEq, Repr

namespace Rgba

/-- A color without transparency from a number of three bytes. -/
def ofNumber (n : Nat) : Rgba :=
  ⟨n / 65536 % 256, n / 256 % 256, n % 256, 255⟩

def transparent : Rgba :=
  ⟨0, 0, 0, 0⟩

/-- One digit for each part, if the two digits of every part are equal. -/
def hexParts (parts : List Nat) : List Char :=
  '#' :: if parts.all fun p => p / 16 == p % 16 then parts.flatMap fun p => Text.hexDigits 1 p
    else parts.flatMap fun p => Text.hexDigits 2 p

def text (c : Rgba) : List Char :=
  if c.alpha = 255 then
    let n := (c.red * 256 + c.green) * 256 + c.blue
    match namedColors.find? fun (name, value) => value = n ∧ name ∈ shortColorNames with
    | some (name, _) => name.toList
    | none => hexParts [c.red, c.green, c.blue]
  else hexParts [c.red, c.green, c.blue, c.alpha]

def ofHex? (digits : List Char) : Option Rgba := do
  let values ← digits.mapM Text.hexValue?
  match values with
  | [r, g, b] => some ⟨17 * r, 17 * g, 17 * b, 255⟩
  | [r, g, b, a] => some ⟨17 * r, 17 * g, 17 * b, 17 * a⟩
  | [r, r', g, g', b, b'] => some ⟨16 * r + r', 16 * g + g', 16 * b + b', 255⟩
  | [r, r', g, g', b, b', a, a'] =>
    some ⟨16 * r + r', 16 * g + g', 16 * b + b', 16 * a + a'⟩
  | _ => none

/-- The part that a share of the whole is rounded to. -/
def part (x : Float32) : Nat :=
  (Single.clamp 0 255 (x * 255).round).toUInt8.toNat

/-- The nearest color of which every part is one of 256. -/
def ofShade (space : Space) (s : Shade) : Rgba :=
  let s := Space.srgb.resolve (Space.convert space .srgb s.resolved)
  ⟨part s.a, part s.b, part s.c, part s.alpha⟩

def toShade (c : Rgba) : Shade :=
  let share (n : Nat) : Float32 := Float32.ofNat n / 255
  ⟨share c.red, share c.green, share c.blue, share c.alpha⟩

end Rgba

namespace Color

def partText (x : Float32) : List Char :=
  if x.isNaN then "none".toList else Single.text false x

/-- What a color is called in its space, and whether its first part is a lightness, of which so much
is all. -/
def spaceName : Space → String × Option Float32
  | .lab => ("lab(", some 100)
  | .lch => ("lch(", some 100)
  | .oklab => ("oklab(", some 1)
  | .oklch => ("oklch(", some 1)
  | .srgb => ("color(srgb ", none)
  | .hsl => ("hsl(", none)
  | .hwb => ("hwb(", none)
  | .srgbLinear => ("color(srgb-linear ", none)
  | .displayP3 => ("color(display-p3 ", none)
  | .a98 => ("color(a98-rgb ", none)
  | .prophoto => ("color(prophoto-rgb ", none)
  | .rec2020 => ("color(rec2020 ", none)
  | .xyzD50 => ("color(xyz-d50 ", none)
  | .xyzD65 => ("color(xyz ", none)

/-- A color in its space; the opacity is written unless it is one. -/
def spacedText (space : Space) (s : Shade) : List Char :=
  let (name, whole?) := spaceName space
  let first := match whole? with
    | some whole => if s.a.isNaN then "none".toList else Quantity.percentText (s.a / whole)
    | none => partText s.a
  let opacity := if s.alpha.isNaN || Space.epsilon < (s.alpha - 1).abs then
      " / ".toList ++ partText s.alpha
    else []
  name.toList ++ first ++ ' ' :: partText s.b ++ ' ' :: partText s.c ++ opacity ++ [')']

def text : Color → List Char
  | rgba c => c.text
  | current => "currentColor".toList
  | system name => name
  | spaced space s => spacedText space s
  | mixed space s => (Rgba.ofShade space s).text
  | lightDark light dark => "light-dark(".toList ++ light.text ++ ", ".toList ++ dark.text ++ [')']

def phrase (c : Color) : Phrase :=
  Phrase.ofChars c.text

/-- The space that a color is given in and what it is there. -/
def shade? : Color → Option (Space × Shade)
  | rgba c => some (.srgb, c.toShade)
  | spaced space s => some (space, s)
  | mixed space s => some (space, s)
  | _ => none

/-- The color of a space that a calculation comes to. -/
def ofShade (space : Space) (s : Shade) : Color :=
  match space with
  | .srgb | .hsl | .hwb => mixed space s
  | space => spaced space s

end Color

/-- The names that the parts of another color have, with the parts. -/
abbrev Channels := List (String × Float32)

def channelNames : Space → String × String × String
  | .hsl => ("h", "s", "l")
  | .hwb => ("h", "w", "b")
  | .lab | .oklab => ("l", "a", "b")
  | .lch | .oklch => ("l", "c", "h")
  | .xyzD50 | .xyzD65 => ("x", "y", "z")
  | _ => ("r", "g", "b")

/-- The parts of a color in a space; `whole` is what counts as all of a part. -/
def channelsOf (space : Space) (whole : Float32) (c : Color) : Option Channels :=
  c.shade?.map fun (source, s) =>
    let s := space.resolve (Space.convertShown source space s)
    let (a, b, c) := channelNames space
    [(a, s.a * whole), (b, s.b * whole), (c, s.c * whole), ("alpha", s.alpha)]

def Channels.number? (channels : Channels) (name : List Char) : Option Float32 :=
  (channels.find? fun (known, _) => isWord name known).map Prod.snd

/-- How the parts of a color are read: the names of another color's parts, if there is one, and whether
a part may be missing. -/
structure PartReading where
  channels : Option Channels
  missing : Bool

namespace PartReading

/-- A part of another color, or a calculation with such parts. -/
def channel (p : PartReading) : Reader Float32 :=
  match p.channels with
  | none => fail .value
  | some channels =>
    (expect fun
      | .token _ _ (.ident name) => channels.number? name
      | _ => none) <|> do
      match ← calculation ⟨[""], channels.number?⟩ with
      | .number n => return n
      | .value q => return q.value
      | _ => fail .value

def none' (p : PartReading) : Reader Float32 := do
  if !p.missing then fail .value
  word "none"
  return 0 / 0

def quantity (p : PartReading) : Reader Quantity :=
  (Quantity.number <$> p.channel) <|> numberOrPercentage <|> (Quantity.number <$> p.none')

def share (p : PartReading) (whole : Float32) : Reader Float32 := do
  let q ← p.quantity
  return if q.unit == ['%'] then q.value * whole else q.value

def hue (p : PartReading) : Reader Float32 :=
  p.channel <|> (Quantity.degrees <$> angle) <|> number <|> p.none'

def opacity (p : PartReading) : Reader Float32 := do
  if ← found (delim '/') then return Single.clamp 0 1 (← p.share 1) else return 1

def commaOpacity (p : PartReading) : Reader Float32 := do
  if (← get).nodes.all isGap then return 1
  comma
  return Single.clamp 0 1 (← p.share 1)

/-- Whether a comma follows the first part, as only where no other color is named. -/
def commas (p : PartReading) (first : Float32) : Reader Bool := do
  if p.channels.isNone && !first.isNaN then found comma else return false

end PartReading

/-- Red, green and blue as parts of one, and whether commas stand between them. -/
def rgbParts (p : PartReading) : Reader (Shade × Bool) := do
  let red ← p.quantity
  let round (x : Float32) : Float32 := (Single.clamp 0 255 x.round) / 255
  if ← p.commas red.value then
    let part : Reader Float32 := if red.unit == ['%'] then do
        return round ((← percentage).value * 255)
      else do return round (← number)
    let green ← part
    comma
    let blue ← part
    return (⟨round (if red.unit == ['%'] then red.value * 255 else red.value), green, blue, 1⟩, true)
  else
    let share (q : Quantity) : Float32 :=
      if q.unit == ['%'] then Single.clamp 0 1 q.value
      else if q.value.isNaN then q.value
      else round q.value
    let green ← p.quantity
    let blue ← p.quantity
    return (⟨share red, share green, share blue, 1⟩, false)

/-- A hue with two shares of the whole, and whether commas stand between them. -/
def hueParts (legacy : Bool) (p : PartReading) : Reader (Shade × Bool) := do
  let h ← p.hue
  let commas ← if legacy then p.commas h else pure false
  let a := Single.clamp 0 100 (← p.share 100)
  if commas then comma
  let b := Single.clamp 0 100 (← p.share 100)
  if commas && (a.isNaN || b.isNaN) then fail .value
  return (⟨h, a, b, 1⟩, commas)

/-- A color of which no part is missing is one of red, green and blue. -/
def completed (space : Space) (s : Shade) : Color :=
  if s.isComplete then .rgba (.ofShade space s) else .mixed space s

def withOpacity (space : Space) (parts : PartReading → Reader (Shade × Bool)) (p : PartReading) :
    Reader Color := do
  let (s, commas) ← parts p
  let alpha ← if commas then p.commaOpacity else p.opacity
  return completed space { s with alpha := alpha }

/-- The parts of a color whose first part is a lightness; `whole` is all of it, and `reach` is what
counts as all of the others. -/
def lightnessParts (space : Space) (whole reach : Float32) (p : PartReading) : Reader Color := do
  let top : Float32 := 3.40282347e38
  let polar := space = .lch || space = .oklch
  let p := if polar then
      { p with channels := p.channels.map fun cs => cs.map fun (name, x) =>
          (name, if name == "h" then Single.mod x 360 else x) }
    else p
  let l := Single.clamp 0 top (← p.share whole)
  if polar then
    let chroma := Single.clamp 0 top (← p.share reach)
    let hue ← p.hue
    return .spaced space ⟨l, chroma, hue, ← p.opacity⟩
  else
    let a ← p.share reach
    let b ← p.share reach
    return .spaced space ⟨l, a, b, ← p.opacity⟩

def spaceWords : List (String × Space) :=
  [("srgb", .srgb), ("srgb-linear", .srgbLinear), ("display-p3", .displayP3), ("a98-rgb", .a98),
   ("prophoto-rgb", .prophoto), ("rec2020", .rec2020), ("xyz-d50", .xyzD50), ("xyz-d65", .xyzD65),
   ("xyz", .xyzD65)]

def spaceWord (words : List (String × Space)) : Reader Space := do
  let name ← keyword (words.map Prod.fst)
  match words.find? fun (w, _) => w.toList == name with
  | some (_, s) => return s
  | none => fail .value

/-- Reads the same with the parts of a color, or of both colors of a pair. -/
def readFrom (channels : Color → Option Channels) (read : PartReading → Reader Color) :
    Color → Reader Color
  | .lightDark light dark => do
    let before ← get
    let a ← readFrom channels read light
    set before
    return .lightDark a (← readFrom channels read dark)
  | c =>
    match channels c with
    | some cs => read ⟨some cs, true⟩
    | none => fail .value

/-- A color in a space, which may be given by the parts of another color. -/
def relative (inner : Reader Color) (space : Space) (whole : Float32)
    (read : PartReading → Reader Color) : Reader Color := do
  if ← found (word "from") then readFrom (channelsOf space whole) read (← inner)
  else read ⟨none, true⟩

def spaceFunction (inner : Reader Color) : Reader Color := do
  let source ← if ← found (word "from") then some <$> inner else pure none
  let space ← spaceWord spaceWords
  let read (p : PartReading) : Reader Color := do
    let a ← p.share 1
    let b ← p.share 1
    let c ← p.share 1
    return .spaced space ⟨a, b, c, ← p.opacity⟩
  match source with
  | some c => readFrom (channelsOf space 1) read c
  | none => read ⟨none, true⟩

def mixSpaceWords : List (String × Space) :=
  [("srgb", .srgb), ("srgb-linear", .srgbLinear), ("hsl", .hsl), ("hwb", .hwb), ("lab", .lab),
   ("lch", .lch), ("oklab", .oklab), ("oklch", .oklch), ("xyz", .xyzD65), ("xyz-d50", .xyzD50),
   ("xyz-d65", .xyzD65)]

def hueWays : List HueWay :=
  [.shorter, .longer, .increasing, .decreasing, .specified]

/-- A color and its share of a mixture, on either side of it. -/
def mixPart (inner : Reader Color) : Reader (Color × Option Float32) := do
  let share : Reader Float32 := do return (← plain ["%"]).value
  let before ← attempt share
  let c ← inner
  match before with
  | some n => return (c, some n)
  | none => return (c, ← attempt share)

/-- A mixture of two colors; pairs of colors are mixed in each surrounding. -/
def mixColors (space : Space) (mix : Space → Shade → Space → Shade → Shade) :
    Color → Color → Option Color
  | .lightDark a b, .lightDark c d => do
    return .lightDark (← mixColors space mix a c) (← mixColors space mix b d)
  | .lightDark a b, c => do
    return .lightDark (← mixColors space mix a c) (← mixColors space mix b c)
  | c, .lightDark a b => do
    return .lightDark (← mixColors space mix c a) (← mixColors space mix c b)
  | c, d => do
    let (p, s) ← c.shade?
    let (q, t) ← d.shade?
    return .ofShade space (mix p s q t)

def mixFunction (inner : Reader Color) : Reader Color := do
  word "in"
  let space ← spaceWord mixSpaceWords
  let polar := [Space.hsl, .hwb, .lch, .oklch].contains space
  let way ← if polar then attempt (keyword (hueWays.map HueWay.word)) else pure none
  if way.isSome then word "hue"
  let way := (hueWays.find? fun w => some w.word.toList == way).getD .shorter
  comma
  let (a, shareA) ← mixPart inner
  comma
  let (b, shareB) ← mixPart inner
  let (x, y) : Float32 × Float32 := match shareA, shareB with
    | none, none => (0.5, 0.5)
    | some x, none => (x, 1 - x)
    | none, some y => (1 - y, y)
    | some x, some y => (x, y)
  if x + y == 0 then fail .value
  let mix (p : Space) (s : Shade) (q : Space) (t : Shade) : Shade :=
    space.mix way (space.mixable p s) x (space.mixable q t) y
  match mixColors space mix a b with
  | some c => return c
  | none => fail .value

/-- A color for light and one for dark surroundings; of a pair one half counts. -/
def lightDarkFunction (inner : Reader Color) : Reader Color := do
  let light ← inner
  comma
  let dark ← inner
  return .lightDark
    (match light with
      | .lightDark c _ => c
      | c => c)
    (match dark with
      | .lightDark _ c => c
      | c => c)

def colorFunctions : List String :=
  ["rgb", "rgba", "hsl", "hsla", "hwb", "lab", "lch", "oklab", "oklch", "color", "color-mix",
   "light-dark"]

def colorFunction (inner : Reader Color) : Reader Color :=
  call colorFunctions fun name =>
    match String.ofList name with
    | "rgb" | "rgba" => relative inner .srgb 255 (withOpacity .srgb rgbParts)
    | "hsl" | "hsla" => relative inner .hsl 1 (withOpacity .hsl (hueParts true))
    | "hwb" => relative inner .hwb 1 (withOpacity .hwb (hueParts false))
    | "lab" => relative inner .lab 1 (lightnessParts .lab 100 125)
    | "lch" => relative inner .lch 1 (lightnessParts .lch 100 150)
    | "oklab" => relative inner .oklab 1 (lightnessParts .oklab 1 0.4)
    | "oklch" => relative inner .oklch 1 (lightnessParts .oklch 1 0.4)
    | "color" => spaceFunction inner
    | "color-mix" => mixFunction inner
    | _ => lightDarkFunction inner

def namedColor : Reader Color :=
  expect fun
    | .token _ _ (.ident name) =>
      let name := lower name
      if name = "currentcolor".toList then some .current
      else if name = "transparent".toList then some (.rgba .transparent)
      else
        match namedColors.find? fun (known, _) => known.toList = name with
        | some (_, value) => some (.rgba (.ofNumber value))
        | none => if name ∈ systemColors.map String.toList then some (.system name) else none
    | _ => none

def hexColor : Reader Color :=
  expect fun n =>
    match n.head with
    | .hash digits | .idHash digits => (Rgba.ofHex? digits).map .rgba
    | _ => none

/-- Reads a color; `fuel` bounds how deep functions nest. -/
def colorUpTo : Nat → Reader Color
  | 0 => fail .value
  | fuel + 1 => hexColor <|> namedColor <|> colorFunction (colorUpTo fuel)

def colorDepth : Nat :=
  32

def color : Reader Color :=
  colorUpTo colorDepth

def unnamedColor : Reader Color :=
  hexColor <|> colorFunction color

end CompanionStyles.Stylesheet.Value
