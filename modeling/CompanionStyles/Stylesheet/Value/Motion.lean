import CompanionStyles.Stylesheet.Value.Box
import CompanionStyles.Stylesheet.Value.PropertyName

/-!
Values for motion: easing, transitions and animations, and the timelines that animations follow. The
name of an animation belongs to the stylesheet.
-/

namespace CompanionStyles.Stylesheet.Value

open Reader

def easingWords : List String :=
  ["linear", "ease", "ease-in", "ease-out", "ease-in-out", "step-start", "step-end"]

def namedCurves : List (List Float32 × String) :=
  [([0.25, 0.1, 0.25, 1], "ease"), ([0.42, 0, 1, 1], "ease-in"), ([0, 0, 0.58, 1], "ease-out"),
   ([0.42, 0, 0.58, 1], "ease-in-out")]

def cubicBezier : Reader Phrase :=
  call ["cubic-bezier"] fun name => do
    let a ← number
    comma
    let b ← number
    comma
    let c ← number
    comma
    let d ← number
    match namedCurves.find? fun (curve, _) => curve == [a, b, c, d] with
    | some (_, known) => return Phrase.ofString known
    | none =>
      return .text (name ++ ['(']) :: Phrase.list ([a, b, c, d].map numberPhrase)
        ++ Phrase.ofString ")"

def stepPositions : List String :=
  ["start", "end", "jump-start", "jump-end", "jump-none", "jump-both"]

def steps : Reader Phrase :=
  call ["steps"] fun name => do
    let n ← integer
    let position ← orDefault "end".toList (do
      comma
      keyword stepPositions)
    let short := if position = "jump-start".toList then "start".toList
      else if position = "jump-end".toList then "end".toList
      else position
    if n = 1 ∧ short = "start".toList then return Phrase.ofString "step-start"
    else if n = 1 ∧ short = "end".toList then return Phrase.ofString "step-end"
    else
      let more := if short = "end".toList then [] else ", ".toList ++ short
      return Phrase.ofChars (name ++ '(' :: (toString n).toList ++ more ++ [')'])

def easing : Reader Phrase :=
  orWord easingWords (cubicBezier <|> steps)

/-- The parts of a motion: two times and words. -/
structure Motion where
  duration : Option Quantity
  delay : Option Quantity
  easing : Option Phrase
  name : Option Phrase

def Motion.empty : Motion :=
  ⟨none, none, none, none⟩

def isLasting (q : Option Quantity) : Bool :=
  q.any fun q => !q.isZero

def timePhrase (q : Quantity) : Phrase :=
  Phrase.ofChars q.text

/-- A duration, which has to be written if there is a delay. -/
def Motion.durationPart (m : Motion) : List Phrase :=
  if isLasting m.duration || isLasting m.delay then [timePhrase (m.duration.getD ⟨0, ['s']⟩)] else []

def Motion.delayPart (m : Motion) : List Phrase :=
  if isLasting m.delay then m.delay.toList.map timePhrase else []

def propertyName : Reader Phrase := do
  let (front, short) := splitKnown (← ident)
  return Phrase.ofChars (front.toList ++ short)

def transitionParts : Nat → Motion → Reader Motion
  | 0, m => pure m
  | fuel + 1, m => do
    if m.duration.isNone then
      if let some q ← attempt time then
        return ← transitionParts fuel { m with duration := some q }
    if m.easing.isNone then
      if let some p ← attempt easing then return ← transitionParts fuel { m with easing := some p }
    if m.delay.isNone then
      if let some q ← attempt time then return ← transitionParts fuel { m with delay := some q }
    if m.name.isNone then
      if let some p ← attempt propertyName then return ← transitionParts fuel { m with name := some p }
    return m

/-- A transition: the property, how long it takes, how it runs and when it starts. -/
def transition : Reader Phrase := do
  let m ← transitionParts 8 .empty
  let name := m.name.getD (Phrase.ofString "all")
  return Phrase.words
    (name :: m.durationPart ++ besides "ease" m.easing ++ m.delayPart)

/-- The name of an animation; a quoted one is written without quotes unless it means something else
then. -/
def animationName : Reader Phrase :=
  orWord ["none"] ((do return [.name (← customName)]) <|> do
    let s ← string
    if ("none" :: wideWords).any (isWord s ·) then return [.mention s, .text (writeString s)]
    else return [.name s])

/-- The axis of a box that scrolls; the one along which blocks follow each other goes without
saying. -/
def scrollAxis : Reader Phrase :=
  oneOf ["block", "inline", "x", "y"]

def eitherOrder {α β : Type} (first : Reader α) (second : Reader β) :
    Reader (Option α × Option β) := do
  let a ← attempt first
  let b ← attempt second
  match a, b with
  | none, some b => return (← attempt first, some b)
  | a, b => return (a, b)

/-- The progress of a box that scrolls, or of a box in the part of it that shows. -/
def progress : Reader Phrase :=
  (call ["scroll"] fun _ => do
    let (scroller, axis) ← eitherOrder (oneOf ["root", "nearest", "self"]) scrollAxis
    return .text "scroll(".toList :: Phrase.words (besides "nearest" scroller ++ besides "block" axis)
      ++ Phrase.ofString ")")
  <|> call ["view"] fun _ => do
    let (axis, inset) ← eitherOrder scrollAxis (twice Size.phrase autoLength)
    return .text "view(".toList :: Phrase.words (besides "block" axis ++ besides "auto" inset)
      ++ Phrase.ofString ")"

def timeline : Reader Phrase :=
  orWord ["auto", "none"] ((do return [.dashed (← dashedName) .sheet]) <|> progress)

def rangeNames : List String :=
  ["cover", "contain", "entry", "exit", "entry-crossing", "exit-crossing"]

/-- An end of the part of a timeline that counts. -/
inductive RangeEnd where
  | normal
  | length (c : Calc)
  /-- A named part of the timeline, and a place in it. -/
  | within (name : List Char) (offset : Calc)
  deriving BEq

namespace RangeEnd

def part (x : Float32) : Calc :=
  .value (.percent x)

/-- An end in words; a place in a named part that is `implied` is left out. -/
def phrase (implied : Float32) : RangeEnd → Phrase
  | normal => Phrase.ofString "normal"
  | length c => c.phrase
  | within name offset =>
    Phrase.words (Phrase.ofChars name :: if offset == part implied then [] else [offset.phrase])

/-- Reads an end; without a place in it, a named part is meant from `implied` on. -/
def read (implied : Float32) : Reader RangeEnd :=
  (do
    word "normal"
    return .normal)
  <|> (RangeEnd.length <$> lengthPercentage) <|> do
    let name ← keyword rangeNames
    return .within name (← orDefault (part implied) lengthPercentage)

end RangeEnd

def rangeEnd (implied : Float32) : Reader Phrase :=
  RangeEnd.phrase implied <$> RangeEnd.read implied

/-- Where the part of a timeline that counts starts and stops. The stop is left out if it is the usual
one, or the end of the named part that the start lies in. -/
def range : Reader Phrase := do
  let start ← RangeEnd.read 0
  let usual := match start with
    | .within name _ => .within name (RangeEnd.part 1)
    | _ => RangeEnd.normal
  let stop ← orDefault usual (RangeEnd.read 0)
  let omits := stop == usual || stop == .normal
  return Phrase.words (start.phrase 0 :: if omits then [] else [stop.phrase 1])

/-- The parts of an animation that are neither times nor an easing nor the name. -/
structure Play where
  motion : Motion
  count : Option Phrase
  direction : Option Phrase
  fill : Option Phrase
  state : Option Phrase
  timeline : Option Phrase

def directions : List String :=
  ["normal", "reverse", "alternate", "alternate-reverse"]

def fillModes : List String :=
  ["none", "forwards", "backwards", "both"]

def playStates : List String :=
  ["running", "paused"]

def iterationCount : Reader Phrase :=
  orWord ["infinite"] (numberPhrase <$> number)

def playParts : Nat → Play → Reader Play
  | 0, p => pure p
  | fuel + 1, p => do
    if p.motion.duration.isNone then
      if let some q ← attempt time then
        return ← playParts fuel { p with motion := { p.motion with duration := some q } }
    if p.motion.easing.isNone then
      if let some e ← attempt easing then
        return ← playParts fuel { p with motion := { p.motion with easing := some e } }
    if p.motion.delay.isNone then
      if let some q ← attempt time then
        return ← playParts fuel { p with motion := { p.motion with delay := some q } }
    if p.count.isNone then
      if let some c ← attempt iterationCount then return ← playParts fuel { p with count := some c }
    if p.direction.isNone then
      if let some d ← attempt (oneOf directions) then
        return ← playParts fuel { p with direction := some d }
    if p.fill.isNone then
      if let some f ← attempt (oneOf fillModes) then return ← playParts fuel { p with fill := some f }
    if p.state.isNone then
      if let some s ← attempt (oneOf playStates) then
        return ← playParts fuel { p with state := some s }
    if p.motion.name.isNone then
      if let some n ← attempt animationName then
        return ← playParts fuel { p with motion := { p.motion with name := some n } }
    if p.timeline.isNone then
      if let some t ← attempt Value.timeline then
        return ← playParts fuel { p with timeline := some t }
    return p

/-- Whether a name could be taken for one of some words. -/
def couldBe (words : List String) (name : Phrase) : Bool :=
  match name with
  | [.name n] => words.any (isWord n ·)
  | _ => false

/-- A part, which is written also if it goes without saying where the name could be taken for it. -/
def part (initial : String) (words : List String) (name : Phrase) (value : Option Phrase) :
    List Phrase :=
  match besides initial value with
  | [] => if couldBe words name then [Phrase.ofString initial] else []
  | written => written

/-- An animation: its times and how it runs, its name and the timeline that it follows. -/
def animation : Reader Phrase := do
  let p ← playParts 16 ⟨.empty, none, none, none, none, none⟩
  let m := p.motion
  let name := m.name.getD (Phrase.ofString "none")
  if name = Phrase.ofString "none" then return name
  return Phrase.words
    (m.durationPart ++ part "ease" easingWords name m.easing ++ m.delayPart
      ++ part "1" ["infinite"] name p.count ++ part "normal" directions name p.direction
      ++ part "none" ["forwards", "backwards", "both"] name p.fill
      ++ part "running" playStates name p.state ++ name :: besides "auto" p.timeline)

end CompanionStyles.Stylesheet.Value
