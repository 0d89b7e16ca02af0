import CompanionStyles.Stylesheet.Value.Font
import CompanionStyles.Text.Hex

/-!
The descriptors of fonts that a stylesheet brings along: where their files are, in which formats,
and which characters they have.
-/

namespace CompanionStyles.Stylesheet.Value

open Reader

def fontFormats : List String :=
  ["woff", "woff2", "truetype", "opentype", "embedded-opentype", "collection", "svg"]

def fontFormat : Reader (List Char) := do
  let name ← ident <|> string
  return writeString (if fontFormats.any (isWord name ·) then lower name else name)

def fontTechnologies : List String :=
  ["features-opentype", "features-aat", "features-graphite", "color-colrv0", "color-colrv1",
   "color-svg", "color-sbix", "color-cbdt", "variations", "palettes", "incremental"]

/-- A file with what it needs, or a font of the reader's system. -/
def fontSource : Reader Phrase :=
  (do
    let address ← url
    let format ← match ← peek with
      | some (.block _ _ (.function name) ..) =>
        if isWord name "format" then
          call ["format"] fun _ => return " format(".toList ++ (← fontFormat) ++ [')']
        else pure []
      | _ => pure []
    let tech ← attempt (call ["tech"] fun _ => commaSeparated (oneOf fontTechnologies))
    let needs : Phrase := match tech with
      | some ts => .text " tech(".toList :: Phrase.list ts ++ Phrase.ofString ")"
      | none => []
    return .text (writeUrl address ++ format) :: needs)
  <|> call ["local"] fun _ =>
    return .text "local(".toList :: (← fontFamily) ++ Phrase.ofString ")"

def codeDigits (text : List Char) : List Char × List Char :=
  let digits := (text.takeWhile fun c => (Text.hexValue? c).isSome).take 6
  (digits, text.drop digits.length)

def writeCode (n : Nat) : List Char :=
  (Text.hex n).map Char.toUpper

/-- The number of digits that stand for any digit, if a range consists of all of their values. -/
def wildDigits? (first last : Nat) : Option Nat :=
  if first = last then none
  else [1, 2, 3, 4, 5, 6].find? fun n =>
    first % Nat.pow 16 n == 0 && last == first + (Nat.pow 16 n - 1)

def writeRange (first last : Nat) : List Char :=
  "U+".toList ++
    if first = last then writeCode first
    else match wildDigits? first last with
      | some n => (if first = 0 then [] else writeCode (first / Nat.pow 16 n)) ++ List.replicate n '?'
      | none => writeCode first ++ '-' :: writeCode last

def rangeOf? (text : List Char) : Option (List Char) := do
  let body ← Text.dropFront? ['+'] (← Text.dropFront? ['u'] (lower text))
  let (digits, rest) := codeDigits body
  let wild := rest.takeWhile (· == '?')
  let (first, last, rest) ←
    if wild.isEmpty then
      if digits.isEmpty then none
      else match rest with
        | '-' :: more =>
          let (end_, rest) := codeDigits more
          if end_.isEmpty then none
          else some (Text.digitsValue 16 digits, Text.digitsValue 16 end_, rest)
        | rest => some (Text.digitsValue 16 digits, Text.digitsValue 16 digits, rest)
    else
      let first := Text.digitsValue 16 digits * Nat.pow 16 wild.length
      some (first, first + (Nat.pow 16 wild.length - 1), rest.drop wild.length)
  if rest.isEmpty && digits.length + wild.length ≤ 6 && first ≤ last && last ≤ 0x10FFFF then
    some (writeRange first last)
  else none

/-- Ranges are told from their text: their parts are no tokens. -/
def unicodeRange : Reader Phrase := do
  skipBlanks
  let nodes := (← get).nodes.takeWhile fun n => !isGap n
  match rangeOf? (nodes.flatMap Node.raw) with
  | some range =>
    modify fun c => { c with nodes := c.nodes.drop nodes.length }
    return Phrase.ofChars range
  | none => fail .value

/-- The slant of a font, or the slants between which it can vary. -/
def faceStyle : Reader Phrase :=
  orWord ["normal", "italic"] do
    word "oblique"
    let a ← orDefault usualSlant angle
    let b ← orDefault a angle
    let slants := if a == b then (if a == usualSlant then [] else [a]) else [a, b]
    return Phrase.words (Phrase.ofString "oblique" :: slants.map quantityPhrase)

def shortNumber : Reader Phrase := do
  let n ← integer
  if n < 0 then fail .value
  return Phrase.ofString (toString (n % Nat.pow 2 16))

/-- A color of a palette, behind its number; it is not the color of the text. -/
def paletteColor : Reader Phrase := do
  let n ← shortNumber
  let c ← color
  if c == .current then fail .value
  return Phrase.words [n, c.phrase]

/-- How descriptors are read, by their names. Those that are not known are kept as they are. -/
abbrev DescriptorReaders := List (String × Reader Phrase)

def fontFaceReaders : DescriptorReaders :=
  [("src", Phrase.list <$> commaSeparated fontSource), ("font-family", fontFamily),
   ("font-weight", twice id fontWeight), ("font-style", faceStyle),
   ("font-stretch", twice id fontStretch),
   ("unicode-range", Phrase.list <$> commaSeparated unicodeRange)]

def paletteReaders : DescriptorReaders :=
  [("font-family", fontFamily), ("base-palette", orWord ["light", "dark"] shortNumber),
   ("override-colors", Phrase.list <$> commaSeparated paletteColor)]

def transitionReaders : DescriptorReaders :=
  [("navigation", oneOf ["none", "auto"]),
   ("types",
    orWord ["none"] do
      let names ← many1 customName
      return Phrase.words (names.map fun n => [.name n]))]

end CompanionStyles.Stylesheet.Value
