import CompanionStyles.Stylesheet.Value.Font

/-!
Backgrounds: layers of images, the last of them with a color. The parts of a layer are written in a
fixed order.
-/

namespace CompanionStyles.Stylesheet.Value

open Reader

def repeatWords : List String :=
  ["repeat", "space", "round", "no-repeat"]

def backgroundRepeat : Reader Phrase :=
  orWord ["repeat-x", "repeat-y"] do
    let x ← keyword repeatWords
    let y ← orDefault x (keyword repeatWords)
    return if x = "repeat".toList ∧ y = "no-repeat".toList then Phrase.ofString "repeat-x"
      else if x = "no-repeat".toList ∧ y = "repeat".toList then Phrase.ofString "repeat-y"
      else if x = y then Phrase.ofChars x
      else Phrase.words [Phrase.ofChars x, Phrase.ofChars y]

/-- The size of an image; a height that is automatic goes without saying. -/
def backgroundSize : Reader Phrase :=
  orWord ["cover", "contain"] do
    let a ← autoLength
    let b ← orDefault (.ofWord "auto") autoLength
    return Phrase.words (a.phrase :: if b.isWord "auto" then [] else [b.phrase])

/-- A layer of a background. -/
structure Layer where
  color : Option Color
  image : Option Phrase
  /-- The position, and the size behind a slash. -/
  position : Option (Position × Option Phrase)
  tiling : Option Phrase
  attachment : Option Phrase
  origin : Option Phrase
  clip : Option Phrase

def attachments : List String :=
  ["scroll", "fixed", "local"]

def backgroundBoxes : List String :=
  ["border-box", "padding-box", "content-box"]

def backgroundClips : List String :=
  ["border-box", "padding-box", "content-box", "border", "text"]

def layerPosition : Reader (Position × Option Phrase) := do
  let p ← position
  if ← found (delim '/') then return (p, some (← backgroundSize)) else return (p, none)

def layerParts : Nat → Layer → Reader Layer
  | 0, l => pure l
  | fuel + 1, l => do
    if l.color.isNone then
      if let some c ← attempt color then return ← layerParts fuel { l with color := some c }
    if l.position.isNone then
      if let some p ← attempt layerPosition then
        return ← layerParts fuel { l with position := some p }
    if l.image.isNone then
      if let some i ← attempt image then
        return ← layerParts fuel { l with image := some i }
    if l.tiling.isNone then
      if let some r ← attempt backgroundRepeat then
        return ← layerParts fuel { l with tiling := some r }
    if l.attachment.isNone then
      if let some a ← attempt (oneOf attachments) then
        return ← layerParts fuel { l with attachment := some a }
    if l.origin.isNone then
      if let some o ← attempt (oneOf backgroundBoxes) then
        return ← layerParts fuel { l with origin := some o }
    if l.clip.isNone then
      if let some c ← attempt (oneOf backgroundClips) then
        return ← layerParts fuel { l with clip := some c }
    return l

/-- The boxes that a layer starts at and ends at; one alone stands for both. -/
def Layer.boxes (l : Layer) : List Phrase :=
  let padding := Phrase.ofString "padding-box"
  let border := Phrase.ofString "border-box"
  let origin := l.origin.getD padding
  let clip := match l.clip with
    | some c => c
    | none => l.origin.getD border
  let isBox := backgroundBoxes.any fun b => clip = Phrase.ofString b
  let shows := origin ≠ padding ∨ (clip ≠ border ∧ isBox)
  (if shows then [origin] else [])
    ++ (if (shows ∧ clip ≠ origin) ∨ clip ≠ border then [clip] else [])

/-- A position with the size behind it, unless both go without saying. -/
def placeParts (implied : Position → Bool) (place : Option (Position × Option Phrase)) :
    List Phrase :=
  match place with
  | none => []
  | some (p, size) =>
    match besides "auto" size with
    | [] => if implied p then [] else [p.phrase]
    | s => [Phrase.join (Phrase.ofString " / ") (p.phrase :: s)]

def Layer.phrase (l : Layer) : Phrase :=
  let color := l.color.filter fun c => c != .rgba .transparent
  match (color.map Color.phrase).toList ++ besides "none" l.image
    ++ placeParts Position.isZero l.position ++ besides "repeat" l.tiling
    ++ besides "scroll" l.attachment ++ l.boxes with
  | [] => Phrase.ofString "none"
  | parts => Phrase.words parts

def layer : Reader Layer := do
  let before := (← get).nodes.length
  let l ← layerParts 8 ⟨none, none, none, none, none, none, none⟩
  if (← get).nodes.length = before then fail .declaration else return l

def background : Reader Phrase := do
  let layers ← commaSeparated layer
  if layers.dropLast.any fun l => l.color.isSome then fail .declaration
  return Phrase.list (layers.map Layer.phrase)

def backgroundImages : Reader Phrase :=
  Phrase.list <$> commaSeparated image

end CompanionStyles.Stylesheet.Value
