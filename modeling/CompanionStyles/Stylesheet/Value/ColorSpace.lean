import CompanionStyles.Decimal.Single

/-!
Spaces of colors: what a color in one space is in another one, which colors a space can show, and how
colors are mixed. All spaces hang together as a tree whose root is the space of the three stimuli
under daylight.
-/

namespace CompanionStyles.Stylesheet.Value

inductive Space where
  | srgb
  | hsl
  | hwb
  | srgbLinear
  | displayP3
  | a98
  | prophoto
  | rec2020
  | lab
  | lch
  | oklab
  | oklch
  | xyzD50
  | xyzD65
  deriving DecidableEq, Repr

/-- A color in a space: three parts and the opacity. A part that is missing is no number. -/
structure Shade where
  a : Float32
  b : Float32
  c : Float32
  alpha : Float32
  deriving BEq, Repr

namespace Shade

def map (f : Float32 → Float32) (s : Shade) : Shade :=
  ⟨f s.a, f s.b, f s.c, s.alpha⟩

def resolved (s : Shade) : Shade :=
  let part (x : Float32) : Float32 := if x.isNaN then 0 else x
  ⟨part s.a, part s.b, part s.c, part s.alpha⟩

def isComplete (s : Shade) : Bool :=
  !(s.a.isNaN || s.b.isNaN || s.c.isNaN || s.alpha.isNaN)

def apply (m : List (Float32 × Float32 × Float32)) (s : Shade) : Shade :=
  let row (r : Float32 × Float32 × Float32) : Float32 := s.a * r.1 + s.b * r.2.1 + s.c * r.2.2
  match m.map row with
  | [a, b, c] => ⟨a, b, c, s.alpha⟩
  | _ => s

end Shade

def whiteD50 : Float32 × Float32 × Float32 :=
  (0.3457 / 0.3585, 1, (1 - 0.3457 - 0.3585) / 0.3585)

def cube (x : Float32) : Float32 :=
  x * x * x

def onSize (f : Float32 → Float32) (x : Float32) : Float32 :=
  if x < 0 then -f x.abs else f x.abs

def linearFromSrgb (s : Shade) : Shade :=
  s.map fun x => onSize (fun n => if n < 0.04045 then n / 12.92 else ((n + 0.055) / 1.055).pow 2.4) x

def srgbFromLinear (s : Shade) : Shade :=
  s.map fun x =>
    onSize (fun n => if 0.0031308 < n then 1.055 * n.pow (1 / 2.4) - 0.055 else 12.92 * n) x

def xyzFromLinear (s : Shade) : Shade :=
  s.apply
    [(0.41239079926595934, 0.357584339383878, 0.1804807884018343),
     (0.21263900587151027, 0.715168678767756, 0.07219231536073371),
     (0.01933081871559182, 0.11919477979462598, 0.9505321522496607)]

def linearFromXyz (s : Shade) : Shade :=
  s.apply
    [(3.2409699419045226, -1.537383177570094, -0.4986107602930034),
     (-0.9692436362808796, 1.8759675015077202, 0.04155505740717559),
     (0.05563007969699366, -0.20397695888897652, 1.0569715142428786)]

def xyzFromP3 (s : Shade) : Shade :=
  (linearFromSrgb s).apply
    [(0.4865709486482162, 0.26566769316909306, 0.1982172852343625),
     (0.2289745640697488, 0.6917385218365064, 0.079286914093745),
     (0, 0.04511338185890264, 1.043944368900976)]

def p3FromXyz (s : Shade) : Shade :=
  srgbFromLinear (s.apply
    [(2.493496911941425, -0.9313836179191239, -0.40271078445071684),
     (-0.8294889695615747, 1.7626640603183463, 0.023624685841943577),
     (0.03584583024378447, -0.07617238926804182, 0.9568845240076872)])

def xyzFromA98 (s : Shade) : Shade :=
  (s.map (onSize fun n => n.pow (563 / 256))).apply
    [(0.5766690429101305, 0.1855582379065463, 0.1882286462349947),
     (0.29734497525053605, 0.6273635662554661, 0.07529145849399788),
     (0.02703136138641234, 0.07068885253582723, 0.9913375368376388)]

def a98FromXyz (s : Shade) : Shade :=
  (s.apply
    [(2.0415879038107465, -0.5650069742788596, -0.34473135077832956),
     (-0.9692436362808795, 1.8759675015077202, 0.04155505740717557),
     (0.013444280632031142, -0.11836239223101838, 1.0151749943912054)]).map
    (onSize fun n => n.pow (256 / 563))

def xyzFromProphoto (s : Shade) : Shade :=
  (s.map (onSize fun n => if n ≤ 16 / 512 then n / 16 else n.pow 1.8)).apply
    [(0.7977604896723027, 0.13518583717574031, 0.0313493495815248),
     (0.2880711282292934, 0.7118432178101014, 0.00008565396060525902),
     (0, 0, 0.8251046025104601)]

def prophotoFromXyz (s : Shade) : Shade :=
  (s.apply
    [(1.3457989731028281, -0.25558010007997534, -0.05110628506753401),
     (-0.5446224939028347, 1.5082327413132781, 0.02053603239147973),
     (0, 0, 1.2119675456389454)]).map
    (onSize fun n => if 1 / 512 ≤ n then n.pow (1 / 1.8) else 16 * n)

def rec2020Scale : Float32 :=
  1.09929682680944

def rec2020Step : Float32 :=
  0.018053968510807

def xyzFromRec2020 (s : Shade) : Shade :=
  let linear (n : Float32) : Float32 :=
    if n < rec2020Step * 4.5 then n / 4.5
    else ((n + rec2020Scale - 1) / rec2020Scale).pow (1 / 0.45)
  (s.map (onSize linear)).apply
    [(0.6369580483012914, 0.14461690358620832, 0.1688809751641721),
     (0.2627002120112671, 0.6779980715188708, 0.05930171646986196),
     (0, 0.028072693049087428, 1.060985057710791)]

def rec2020FromXyz (s : Shade) : Shade :=
  let curved (n : Float32) : Float32 :=
    if rec2020Step < n then rec2020Scale * n.pow 0.45 - (rec2020Scale - 1) else 4.5 * n
  (s.apply
    [(1.7166511879712674, -0.35567078377639233, -0.25336628137365974),
     (-0.6666843518324892, 1.6164812366349395, 0.01576854581391113),
     (0.017639857445310783, -0.042770613257808524, 0.9421031212354738)]).map (onSize curved)

def d65FromD50 (s : Shade) : Shade :=
  s.apply
    [(0.9554734527042182, -0.023098536874261423, 0.0632593086610217),
     (-0.028369706963208136, 1.0099954580058226, 0.021041398966943008),
     (0.012314001688319899, -0.020507696433477912, 1.3303659366080753)]

def d50FromD65 (s : Shade) : Shade :=
  s.apply
    [(1.0479298208405488, 0.022946793341019088, -0.05019222954313557),
     (0.029627815688159344, 0.990434484573249, -0.01707382502938514),
     (-0.009243058152591178, 0.015055144896577895, 0.7518742899580008)]

/-- The size of a stimulus up to which its lightness is a multiple of it. -/
def labStep : Float32 :=
  216 / 24389

/-- How many times a small stimulus its lightness is. -/
def labSlope : Float32 :=
  24389 / 27

def d50FromLab (s : Shade) : Shade :=
  let f1 := (s.a + 16) / 116
  let f0 := s.b / 500 + f1
  let f2 := f1 - s.c / 200
  let stimulus (f : Float32) : Float32 :=
    if labStep < cube f then cube f else (116 * f - 16) / labSlope
  let y := if labSlope * labStep < s.a then cube ((s.a + 16) / 116) else s.a / labSlope
  let (wx, wy, wz) := whiteD50
  ⟨stimulus f0 * wx, y * wy, stimulus f2 * wz, s.alpha⟩

def labFromD50 (s : Shade) : Shade :=
  let (wx, wy, wz) := whiteD50
  let f (x : Float32) : Float32 := if labStep < x then Single.cbrt x else (labSlope * x + 16) / 116
  let (f0, f1, f2) := (f (s.a / wx), f (s.b / wy), f (s.c / wz))
  ⟨116 * f1 - 16, 500 * (f0 - f1), 200 * (f1 - f2), s.alpha⟩

def d65FromOklab (s : Shade) : Shade :=
  ((s.apply
    [(0.99999999845051981432, 0.39633779217376785678, 0.21580375806075880339),
     (1.0000000088817607767, -0.1055613423236563494, -0.063854174771705903402),
     (1.0000000546724109177, -0.089484182094965759684, -1.2914855378640917399)]).map cube).apply
    [(1.2268798733741557, -0.5578149965554813, 0.28139105017721583),
     (-0.04057576262431372, 1.1122868293970594, -0.07171106666151701),
     (-0.07637294974672142, -0.4214933239627914, 1.5869240244272418)]

def oklabFromD65 (s : Shade) : Shade :=
  ((s.apply
    [(0.8190224432164319, 0.3619062562801221, -0.12887378261216414),
     (0.0329836671980271, 0.9292868468965546, 0.03614466816999844),
     (0.048177199566046255, 0.26423952494422764, 0.6335478258136937)]).map Single.cbrt).apply
    [(0.2104542553, 0.7936177850, -0.0040720468),
     (1.9779984951, -2.4285922050, 0.4505937099),
     (0.0259040371, 0.7827717662, -0.8086757660)]

def polarFromAxes (s : Shade) : Shade :=
  let chroma := (s.b * s.b + s.c * s.c).sqrt
  let hue := Single.atan2 s.c s.b * 180 / Single.pi
  ⟨s.a, chroma, if hue < 0 then hue + 360 else hue, s.alpha⟩

def axesFromPolar (s : Shade) : Shade :=
  let direction := s.c * Single.pi / 180
  ⟨s.a, s.b * direction.cos, s.b * direction.sin, s.alpha⟩

/-- One part of a color on the circle of hues, of which `third` counts thirds. -/
def huePart (low high third : Float32) : Float32 :=
  let third := if third < 0 then third + 3 else if 3 < third then third - 3 else third
  if third * 2 < 1 then low + (high - low) * third * 2
  else if third * 2 < 3 then high
  else if third < 2 then low + (high - low) * (2 - third) * 2
  else low

def srgbFromHsl (s : Shade) : Shade :=
  let hue := (s.a - 360 * (s.a / 360).floor) / 360
  let (saturation, lightness) := (s.b / 100, s.c / 100)
  let high := if lightness ≤ 0.5 then lightness * (saturation + 1)
    else lightness + saturation - lightness * saturation
  let low := lightness * 2 - high
  let thirds := hue * 3
  ⟨huePart low high (thirds + 1), huePart low high thirds, huePart low high (thirds - 1), s.alpha⟩

def hslFromSrgb (s : Shade) : Shade :=
  let high := max s.a (max s.b s.c)
  let low := min s.a (min s.b s.c)
  let lightness := (low + high) / 2
  let range := high - low
  if range == 0 then ⟨0 / 0, 0, lightness * 100, s.alpha⟩
  else
    let saturation := if lightness == 0 || lightness == 1 then 0
      else (high - lightness) / min lightness (1 - lightness)
    let hue :=
      if high == s.a then (s.b - s.c) / range + (if s.b < s.c then 6 else 0)
      else if high == s.b then (s.c - s.a) / range + 2
      else (s.a - s.b) / range + 4
    ⟨hue * 60, saturation * 100, lightness * 100, s.alpha⟩

def srgbFromHwb (s : Shade) : Shade :=
  let (white, black) := (s.b / 100, s.c / 100)
  if 1 ≤ white + black then
    let gray := white / (white + black)
    ⟨gray, gray, gray, s.alpha⟩
  else (srgbFromHsl ⟨s.a, 100, 50, s.alpha⟩).map fun x => x * (1 - white - black) + white

def hwbFromSrgb (s : Shade) : Shade :=
  ⟨(hslFromSrgb s).a, min s.a (min s.b s.c) * 100, (1 - max s.a (max s.b s.c)) * 100, s.alpha⟩

namespace Space

/-- The next space on the way to the root, what a color is there, and the way back. -/
def parent? : Space → Option (Space × (Shade → Shade) × (Shade → Shade))
  | hsl => some (srgb, srgbFromHsl, hslFromSrgb)
  | hwb => some (srgb, srgbFromHwb, hwbFromSrgb)
  | srgb => some (srgbLinear, linearFromSrgb, srgbFromLinear)
  | srgbLinear => some (xyzD65, xyzFromLinear, linearFromXyz)
  | displayP3 => some (xyzD65, xyzFromP3, p3FromXyz)
  | a98 => some (xyzD65, xyzFromA98, a98FromXyz)
  | rec2020 => some (xyzD65, xyzFromRec2020, rec2020FromXyz)
  | prophoto => some (xyzD50, xyzFromProphoto, prophotoFromXyz)
  | lch => some (lab, axesFromPolar, polarFromAxes)
  | lab => some (xyzD50, d50FromLab, labFromD50)
  | oklch => some (oklab, axesFromPolar, polarFromAxes)
  | oklab => some (xyzD65, d65FromOklab, oklabFromD65)
  | xyzD50 => some (xyzD65, d65FromD50, d50FromD65)
  | xyzD65 => none

def height : Nat :=
  4

def chain : Nat → Space → List Space
  | 0, s => [s]
  | fuel + 1, s =>
    match s.parent? with
    | some (p, _) => s :: chain fuel p
    | none => [s]

/-- Whether a space shows only colors whose parts lie between zero and one. -/
def isUnit : Space → Bool
  | srgb | srgbLinear | displayP3 | a98 | prophoto | rec2020 => true
  | _ => false

/-- Whether the last two parts are percentages of a whole. -/
def isHueFirst : Space → Bool
  | hsl | hwb => true
  | _ => false

def shows (space : Space) (s : Shade) : Bool :=
  let within (high x : Float32) : Bool := 0 ≤ x && x ≤ high
  if space.isUnit then within 1 s.a && within 1 s.b && within 1 s.c
  else if space.isHueFirst then within 100 s.b && within 100 s.c
  else true

/-- The nearest color that a space can show, part by part. -/
def clip (space : Space) (s : Shade) : Shade :=
  if space.isUnit then s.map (Single.clamp 0 1)
  else if space.isHueFirst then { s with b := Single.clamp 0 100 s.b, c := Single.clamp 0 100 s.c }
  else s

/-- A color on its way from the root, through the spaces of a list. -/
def descend (s : Shade) : List Space → Shade
  | [] => s
  | target :: rest =>
    match target.parent? with
    | some (_, _, back) => descend (back s.resolved) rest
    | none => descend s rest

/-- A color on its way to the root, through the spaces of a list. -/
def ascend (s : Shade) : List Space → Shade
  | [] => s
  | source :: rest =>
    match source.parent? with
    | some (_, up, _) => ascend (up s.resolved) rest
    | none => ascend s rest

/-- What a color is in another space: the way leads only as far to the root as it has to. -/
def convert (source target : Space) (s : Shade) : Shade :=
  let ups := chain height source
  let downs := chain height target
  let top := ups.filter fun p => !downs.contains p
  let bottom := downs.filter fun p => !ups.contains p
  descend (ascend s top) bottom.reverse

def difference (p q : Shade) : Float32 :=
  let (x, y, z) := (p.a - q.a, p.b - q.b, p.c - q.c)
  (x * x + y * y + z * z).sqrt

def noticeable : Float32 :=
  0.02

def accuracy : Float32 :=
  0.00001

/-- Searches for the greatest chroma that a space can show or whose clipped color looks the same. -/
def searchChroma (space : Space) : Nat → Float32 → Float32 → Shade → Shade
  | 0, _, _, current => convert oklch space current
  | fuel + 1, low, high, current =>
    if accuracy < high - low then
      let chroma := (low + high) / 2
      let current := { current with b := chroma }
      let converted := convert oklch space current
      if space.shows converted then searchChroma space fuel chroma high current
      else
        let clipped := space.clip converted
        if difference (convert space oklab clipped) (convert oklch oklab current) < noticeable then
          clipped
        else searchChroma space fuel low chroma current
    else convert oklch space current

/-- The color that a space shows for one that it cannot show: of the same hue and lightness. -/
def mapInto (space : Space) (s : Shade) : Shade :=
  let current := convert space oklch s
  let gray (lightness : Float32) : Shade := convert oklch space ⟨lightness, 0, 0, current.alpha⟩
  if (current.a - 1).abs < accuracy || 1 < current.a then gray 1
  else if current.a < accuracy then gray 0
  else searchChroma space 64 0 current.b current

/-- A color with no part missing, which the space shows. -/
def resolve (space : Space) (s : Shade) : Shade :=
  let s := s.resolved
  if space.shows s then s else space.mapInto s

/-- What a color is in another space, where those by hue are taken from what red, green and blue can
show. -/
def convertShown (source target : Space) (s : Shade) : Shade :=
  if source ≠ target && target.isHueFirst && source ≠ .srgb then
    convert srgb target (srgb.resolve (convert source srgb s))
  else if source = .srgb && target.isHueFirst then convert srgb target (srgb.resolve s)
  else convert source target s

def epsilon : Float32 :=
  1.1920929e-7

/-- A color in which parts that say nothing are missing. -/
def dropPowerless (space : Space) (s : Shade) : Shade :=
  let missing : Float32 := 0 / 0
  let isZero (x : Float32) : Bool := x.abs < epsilon
  match space with
  | lab | oklab => if isZero s.a then { s with b := missing, c := missing } else s
  | lch | oklch =>
    let s := if isZero s.b then { s with c := missing } else s
    if isZero s.a then { s with b := missing, c := missing } else s
  | hsl =>
    let s := if isZero s.b then { s with a := missing } else s
    if isZero s.c || isZero (s.c - 100) then { s with a := missing, b := missing } else s
  | hwb => if isZero (s.b + s.c - 100) then { s with a := missing } else s
  | _ => s

end Space

/-- The way around the circle from one hue to another. -/
inductive HueWay where
  | shorter
  | longer
  | increasing
  | decreasing
  | specified
  deriving DecidableEq, Repr

def HueWay.word : HueWay → String
  | shorter => "shorter"
  | longer => "longer"
  | increasing => "increasing"
  | decreasing => "decreasing"
  | specified => "specified"

/-- Two hues between which the straight way is the one that is asked for. -/
def HueWay.straighten (way : HueWay) (a b : Float32) : Float32 × Float32 :=
  let around (x : Float32) : Float32 := Single.rem (Single.rem x 360 + 360) 360
  let (a, b) := if way = .specified then (a, b) else (around a, around b)
  match way with
  | .shorter => if 180 < b - a then (a + 360, b) else if b - a < -180 then (a, b + 360) else (a, b)
  | .longer =>
    if 0 < b - a && b - a < 180 then (a + 360, b)
    else if -180 < b - a && b - a ≤ 0 then (a, b + 360)
    else (a, b)
  | .increasing => (a, if b < a then b + 360 else b)
  | .decreasing => (if a < b then a + 360 else a, b)
  | .specified => (a, b)

namespace Space

def straightenHues (space : Space) (way : HueWay) (p q : Shade) : Shade × Shade :=
  match space with
  | hsl | hwb =>
    let (a, b) := way.straighten p.a q.a
    ({ p with a := a }, { q with a := b })
  | lch | oklch =>
    let (a, b) := way.straighten p.c q.c
    ({ p with c := a }, { q with c := b })
  | _ => (p, q)

def mapParts (space : Space) (f : Float32 → Float32) (s : Shade) : Shade :=
  match space with
  | hsl | hwb => { s with b := f s.b, c := f s.c }
  | lch | oklch => { s with a := f s.a, b := f s.b }
  | _ => s.map f

/-- A color as it takes part in a mixture: what it cannot show and what says nothing is left out if it
comes from another space. -/
def mixable (space source : Space) (s : Shade) : Shade :=
  if source = space then s
  else
    let s := convertShown source space s
    let s := if space.shows s then s else space.mapInto s
    space.dropPowerless s

/-- What is missing in one color is taken from the other one. -/
def fill (s other : Shade) : Shade :=
  let part (x y : Float32) : Float32 := if x.isNaN then y else x
  ⟨part s.a other.a, part s.b other.b, part s.c other.c, part s.alpha other.alpha⟩

/-- A mixture of two colors of a space, each with its share and counted by its opacity. -/
def mix (space : Space) (way : HueWay) (p : Shade) (shareP : Float32) (q : Shade)
    (shareQ : Float32) : Shade :=
  let first := fill p q
  let second := fill q first
  let (first, second) := space.straightenHues way first second
  let weighted (s : Shade) : Shade := if s.alpha.isNaN then s else space.mapParts (· * s.alpha) s
  let (first, second) := (weighted first, weighted second)
  let total := shareP + shareQ
  let (x, y) := if total == 1 then (shareP, shareQ) else (shareP / total, shareQ / total)
  let part (m n : Float32) : Float32 := m * x + n * y
  let mixed : Shade := ⟨part first.a second.a, part first.b second.b, part first.c second.c,
    part first.alpha second.alpha⟩
  if mixed.alpha.isNaN || mixed.alpha == 0 then mixed
  else
    { space.mapParts (· / mixed.alpha) mixed with
      alpha := mixed.alpha * (if 1 < total then 1 else total) }

end Space

end CompanionStyles.Stylesheet.Value
