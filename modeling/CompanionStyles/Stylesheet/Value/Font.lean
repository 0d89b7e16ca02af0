import CompanionStyles.Manifest
import CompanionStyles.Stylesheet.Value.Image

/-!
Values for fonts, and the values that name what a stylesheet defines elsewhere: list styles,
containers and transitions between views.
-/

namespace CompanionStyles.Stylesheet.Value

open Reader

def genericFamilies : List String :=
  ["serif", "sans-serif", "cursive", "fantasy", "monospace", "system-ui", "emoji", "math", "fangsong",
   "ui-serif", "ui-sans-serif", "ui-monospace", "ui-rounded", "initial", "inherit", "unset",
   "default", "revert", "revert-layer"]

def hasWideGap (name : List Char) : Bool :=
  (name.zip name.tail).contains (' ', ' ')

/-- A family's name without quotes, if that is shorter and keeps its blanks. -/
def writeFamily (name : List Char) : List Char :=
  let bare := Manifest.joinWords ((Text.splitOn ' ' name).map writeName)
  if name ≠ [] ∧ !genericFamilies.any (isWord name ·) ∧ !hasWideGap name
      ∧ bare.length < name.length + 2 then bare
  else writeString name

/-- A generic family, a quoted name or a name of several words. -/
def fontFamily : Reader Phrase :=
  (do
    let p ← oneOf genericFamilies
    if (← get).nodes.all isGap then return p else fail .declaration)
  <|> ((fun s => Phrase.ofChars (writeFamily s)) <$> string)
  <|> do
    let names ← many1 ident
    return Phrase.ofChars (writeFamily (Manifest.joinWords names))

def fontFamilies : Reader Phrase :=
  Phrase.list <$> commaSeparated fontFamily

def fontSizes : List String :=
  ["xx-small", "x-small", "small", "medium", "large", "x-large", "xx-large", "xxx-large", "smaller",
   "larger"]

def fontSize : Reader Phrase :=
  orWord fontSizes (Calc.phrase <$> lengthPercentage)

def fontWeight : Reader Phrase :=
  orWord ["normal", "bold", "bolder", "lighter"] (numberPhrase <$> number)

def quantityPhrase (q : Quantity) : Phrase :=
  Phrase.ofChars q.text

/-- The slant of a font that is known without saying. -/
def usualSlant : Quantity :=
  ⟨14, "deg".toList⟩

def fontStyle : Reader Phrase :=
  orWord ["normal", "italic"] do
    word "oblique"
    let a ← orDefault usualSlant angle
    return Phrase.words
      (Phrase.ofString "oblique" :: if a == usualSlant then [] else [quantityPhrase a])

def fontStretches : List String :=
  ["ultra-condensed", "extra-condensed", "condensed", "semi-condensed", "semi-expanded", "expanded",
   "extra-expanded", "ultra-expanded"]

def lineHeight : Reader Phrase :=
  orWord ["normal"] ((numberPhrase <$> number) <|> (Calc.phrase <$> lengthPercentage))

def fontStretch : Reader Phrase :=
  orWord ("normal" :: fontStretches) (quantityPhrase <$> percentage)

/-- The style, capitals, weight and width of a font. -/
structure Face where
  style : Option Phrase
  capitals : Option Phrase
  weight : Option Phrase
  stretch : Option Phrase

def faceParts : Nat → Face → Reader Face
  | 0, f => pure f
  | fuel + 1, f => do
    if ← found (word "normal") then return ← faceParts fuel f
    if f.style.isNone then
      if let some p ← attempt fontStyle then
        return ← faceParts fuel { f with style := some p }
    if f.weight.isNone then
      if let some p ← attempt fontWeight then return ← faceParts fuel { f with weight := some p }
    if f.capitals.isNone then
      if let some p ← attempt (oneOf ["small-caps"]) then
        return ← faceParts fuel { f with capitals := some p }
    if f.stretch.isNone then
      if let some p ← attempt (oneOf fontStretches) then
        return ← faceParts fuel { f with stretch := some p }
    return f

/-- A font: its face, its size, the height of its lines and its families. -/
def font : Reader Phrase := do
  let f ← faceParts 8 ⟨none, none, none, none⟩
  let size ← fontSize
  let height ← if ← found (delim '/') then do pure (some (← lineHeight)) else pure none
  let families ← fontFamilies
  let sized := match height with
    | some h => if h = Phrase.ofString "normal" then size else size ++ .text " / ".toList :: h
    | none => size
  return Phrase.words
    (f.style.toList ++ f.capitals.toList ++ f.weight.toList ++ f.stretch.toList ++ [sized, families])

def counterStyles : List String :=
  ["decimal", "decimal-leading-zero", "arabic-indic", "armenian", "upper-armenian", "lower-armenian",
   "bengali", "cambodian", "khmer", "cjk-decimal", "devanagari", "georgian", "gujarati", "gurmukhi",
   "hebrew", "kannada", "lao", "malayalam", "mongolian", "myanmar", "oriya", "persian", "lower-roman",
   "upper-roman", "tamil", "telugu", "thai", "tibetan", "lower-alpha", "lower-latin", "upper-alpha",
   "upper-latin", "lower-greek", "hiragana", "hiragana-iroha", "katakana", "katakana-iroha", "disc",
   "circle", "square", "disclosure-open", "disclosure-closed", "cjk-earthly-branch",
   "cjk-heavenly-stem", "japanese-informal", "japanese-formal", "korean-hangul-formal",
   "korean-hanja-informal", "korean-hanja-formal", "simp-chinese-informal", "simp-chinese-formal",
   "trad-chinese-informal", "trad-chinese-formal", "ethiopic-numeric"]

def listStyleType : Reader Phrase :=
  orWord ("none" :: counterStyles)
    (((fun s => Phrase.ofChars (writeString s)) <$> string) <|> do return [.name (← customName)])

def listStylePosition : Reader Phrase :=
  oneOf ["inside", "outside"]

/-- The marker of list items. The word `none` may stand for its image or for its type. -/
structure Marker where
  position : Option Phrase
  image : Option Phrase
  type : Option Phrase
  nones : Nat

def markerParts : Nat → Marker → Reader Marker
  | 0, m => pure m
  | fuel + 1, m => do
    if ← found (word "none") then return ← markerParts fuel { m with nones := m.nones + 1 }
    if m.position.isNone then
      if let some p ← attempt listStylePosition then
        return ← markerParts fuel { m with position := some p }
    if m.image.isNone then
      if let some p ← attempt image then return ← markerParts fuel { m with image := some p }
    if m.type.isNone then
      if let some p ← attempt listStyleType then return ← markerParts fuel { m with type := some p }
    return m

/-- The position of a marker, its image and its type. What `none` stands for is what is not given
otherwise; outside with a disc goes without saying. -/
def listStyle : Reader Phrase := do
  let m ← markerParts 6 ⟨none, none, none, 0⟩
  if m.position.isNone && m.image.isNone && m.type.isNone && m.nones = 0 then fail .declaration
  let missing := (if m.image.isNone then 1 else 0) + (if m.type.isNone then 1 else 0)
  if missing < m.nones then fail .declaration
  let type := if m.nones = 0 then m.type else some (m.type.getD (Phrase.ofString "none"))
  match besides "outside" m.position ++ m.image.toList ++ besides "disc" type with
  | [] => return Phrase.ofString "outside"
  | parts => return Phrase.words parts

def containerTypes : List String :=
  ["normal", "inline-size", "size", "scroll-state"]

def containerNames : Reader Phrase :=
  orWord ["none"] do
    let names ← many1 (do
      let name ← customName
      if ["none", "and", "not", "or"].any (isWord name ·) then fail .declaration
      return [Piece.name name])
    return Phrase.words names

/-- The names of a container and what can be asked about it. -/
def container : Reader Phrase := do
  let names ← containerNames
  if ← found (delim '/') then
    let type ← oneOf containerTypes
    if type = Phrase.ofString "normal" then return names
    else return names ++ .text " / ".toList :: type
  else return names

def viewTransitionName : Reader Phrase :=
  orWord ["none", "auto"] do return [.name (← customName)]

def viewTransitionClass : Reader Phrase :=
  orWord ["none"] do
    let names ← many1 customName
    return Phrase.words (names.map fun n => [.name n])

def viewTransitionGroup : Reader Phrase :=
  orWord ["normal", "contain", "nearest"] do return [.name (← customName)]

end CompanionStyles.Stylesheet.Value
