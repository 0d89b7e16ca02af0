import CompanionStyles.Stylesheet.Value.Color

/-!
Loose values: any nodes at all. They are printed as they come, blanks and comments as one blank;
numbers, colors, addresses and references to dashed names have their usual forms.
-/

namespace CompanionStyles.Stylesheet.Value

open Reader

def wideWords : List String :=
  ["initial", "inherit", "unset", "default", "revert", "revert-layer"]

def customName : Reader (List Char) :=
  expect fun
    | .token _ _ (.ident name) => if wideWords.any (isWord name ·) then none else some name
    | _ => none

/-- A name that starts with two dashes; they are left out. -/
def dashedName : Reader (List Char) :=
  expect fun
    | .token _ _ (.ident ('-' :: '-' :: name)) => some name
    | _ => none

/-- Where the names in front belong, behind the word `from`. -/
def specifier : Reader Origin :=
  (Origin.file <$> string) <|> (do
    word "global"
    return .everywhere)

def origin : Reader Origin := do
  if ← found (word "from") then specifier else return .sheet

def writeUrl (address : List Char) : List Char :=
  "url(".toList ++ writeString address ++ [')']

/-- An address, written as a function or with quotes inside one. -/
def url : Reader (List Char) :=
  (expect fun
    | .token _ _ (.url address) => some address
    | _ => none) <|> (call ["url"] fun _ => string)

def systemVariables : List String :=
  ["safe-area-inset-top", "safe-area-inset-right", "safe-area-inset-bottom", "safe-area-inset-left",
   "viewport-segment-width", "viewport-segment-height", "viewport-segment-top",
   "viewport-segment-left", "viewport-segment-bottom", "viewport-segment-right"]

/-- A number as it is written: a plus sign stays, and so does a point behind a whole number. -/
def numeralText (n : Numeral) (value : Float32) : List Char :=
  let sign := if n.signed && !Single.isNegative value then ['+'] else []
  let text := if value == 0 && Single.isNegative value then "-0".toList else Single.text true value
  let isPlain := !text.contains '.' && !text.contains 'e' && text != "-0".toList
  let point := if n.whole?.isNone && (Single.whole? value).isSome && isPlain then ".0" else ""
  sign ++ text ++ point.toList

def percentageText (n : Numeral) : List Char :=
  numeralText n (n.value * 100) ++ ['%']

def tokenText : Token → List Char
  | .ident name => writeName name
  | .atKeyword name => '@' :: writeName name
  | .hash name => '#' :: writeNameRest name
  | .idHash name => '#' :: writeName name
  | .string text => writeString text
  | .url address => writeUrl address
  | .delim c => [c]
  | .number n => Single.text false n.value
  | .percentage n => percentageText n
  | .dimension n unit =>
    let known := isOf (lengthUnits ++ angleUnits ++ timeUnits ++ resolutionUnits) (lower unit)
    Quantity.text ⟨n.value, if known then lower unit else unit⟩
  | .blank _ | .comment _ => [' ']
  | .colon => [':']
  | .semicolon => [';']
  | .comma => [',']
  | .includeMatch => ['~', '=']
  | .dashMatch => ['|', '=']
  | .prefixMatch => ['^', '=']
  | .suffixMatch => ['$', '=']
  | .substringMatch => ['*', '=']
  | .commentOpen => "<!--".toList
  | .commentClose => "-->".toList
  | .function name => writeName name ++ ['(']
  | .opening .round => ['(']
  | .opening .square => ['[']
  | .opening .curly => ['\x7b']
  | .closing .round => [')']
  | .closing .square => [']']
  | .closing .curly => ['\x7d']
  | .badUrl _ | .badString _ => []

/-- Drops one blank at each end, unless the blank is all. -/
def trimBlank (pieces : List (Phrase × Bool)) : Phrase :=
  let blank (p : Phrase × Bool) := p.2
  let trimmed :=
    match pieces with
    | [] => []
    | [p] => if blank p then [] else [p]
    | ps =>
      let ps := if ps.head?.any blank then ps.tail else ps
      if ps.getLast?.any blank then ps.dropLast else ps
  trimmed.flatMap Prod.fst

/-- A color in a space with commas nowhere, read from its own parts or from those of another color. -/
def openParts (space : Space) (whole : Float32) (parts : PartReading → Reader (Shade × Bool)) :
    Reader Shade := do
  let channels ← if ← found (word "from") then do
      match channelsOf space whole (← color) with
      | some cs => pure (some cs)
      | none => fail .value
    else pure none
  let (s, commas) ← parts ⟨channels, false⟩
  if commas then fail .value
  return s

/-- The parts of a color in front of an opacity that is not known. -/
def rgbOpenParts : Reader (List Char) := do
  let s ← openParts .srgb 255 rgbParts
  let part (x : Float32) : List Char := (toString (Rgba.part x)).toList
  return "rgb(".toList ++ part s.a ++ ' ' :: part s.b ++ ' ' :: part s.c ++ " / ".toList

def hslOpenParts : Reader (List Char) := do
  let s ← openParts .hsl 1 (hueParts true)
  let share (x : Float32) : List Char := Quantity.percentText (x / 100)
  return "hsl(".toList ++ Single.text false s.a ++ ' ' :: share s.b ++ ' ' :: share s.c
    ++ " / ".toList

mutual

/-- Reads all nodes that are left; a blank is marked as one. -/
def loosePieces (dashed : Bool) : Nat → Nat → Reader (List (Phrase × Bool))
  | 0, _ => pure []
  | _ + 1, 0 => pure []
  | depth + 1, count + 1 => do
    let c ← get
    match c.nodes with
    | [] => return []
    | n :: rest =>
      if isGap n then
        set { c with nodes := rest.dropWhile isGap }
        return (Phrase.ofString " ", true) :: (← loosePieces dashed (depth + 1) count)
      else
        let p ← looseNode dashed depth
        return (p, false) :: (← loosePieces dashed (depth + 1) count)

def looseNode (dashed : Bool) : Nat → Reader Phrase
  | 0 => fail .nestingDepth
  | depth + 1 => do
    match ← attempt unnamedColor with
    | some c => return c.phrase
    | none =>
    match ← attempt (openColor dashed depth) with
    | some p => return p
    | none =>
    match ← attempt url with
    | some address => return Phrase.ofChars (writeUrl address)
    | none =>
    match ← attempt dashedName with
    | some name => return [.dashed name .sheet]
    | none =>
    match ← nextRaw with
    | .block _ _ (.function name) inner last =>
      if name = "var".toList then
        inside inner last do
          let v ← dashedName
          let from_ ← if dashed then origin else pure Origin.sheet
          let fallback ← looseFallback dashed depth
          return .text "var(".toList :: .dashed v from_ :: fallback ++ Phrase.ofString ")"
      else if name = "env".toList then inside inner last (environment dashed depth)
      else
        inside inner last do
          let arguments ← loosePieces dashed depth ((← size) + 1)
          return Phrase.ofChars (writeName name ++ ['(']) ++ trimBlank arguments ++ Phrase.ofString ")"
    | .block _ _ (.opening b) inner last =>
      inside inner last do
        let pieces ← loosePieces dashed depth ((← size) + 1)
        return .text (tokenText (.opening b)) :: pieces.flatMap Prod.fst
          ++ Phrase.ofChars (tokenText (.closing b))
    | n =>
      if n.head.isBad then failAt n.place (.unexpected n.head)
      else return Phrase.ofChars (tokenText n.head)

/-- A variable of the reader's system, or one that the stylesheet names. -/
def environment (dashed : Bool) : Nat → Reader Phrase
  | 0 => fail .nestingDepth
  | depth + 1 => do
    let v ← ident
    let indices ← many integer
    let shownName : Piece := match v with
      | '-' :: '-' :: name => .dashed name .sheet
      | name => if systemVariables.any (isWord name ·) then .text (lower name) else .name name
    let indexText := indices.flatMap fun i => ' ' :: (toString i).toList
    let fallback ← looseFallback dashed depth
    return .text "env(".toList :: shownName :: .text indexText :: fallback ++ Phrase.ofString ")"

/-- A color of which some part is not known: its opacity, or both colors of a pair. -/
def openColor (dashed : Bool) : Nat → Reader Phrase
  | 0 => fail .nestingDepth
  | depth + 1 =>
    call ["rgb", "hsl", "light-dark"] fun name => do
      let any : Reader Phrase := do return trimBlank (← loosePieces dashed depth ((← size) + 1))
      if name = "light-dark".toList then
        let light ← until_ (· == .comma) any
        comma
        return .text "light-dark(".toList :: light ++ .text ", ".toList :: (← any)
          ++ Phrase.ofString ")"
      let parts ← if name = "rgb".toList then rgbOpenParts else hslOpenParts
      delim '/'
      return .text parts :: (← any) ++ Phrase.ofString ")"

/-- What stands in for a variable that is not set, behind a comma. -/
def looseFallback (dashed : Bool) : Nat → Reader Phrase
  | 0 => pure []
  | depth + 1 => do
    if ← found comma then
      let pieces ← loosePieces dashed depth ((← size) + 1)
      return Phrase.ofString ", " ++ trimBlank pieces
    else return []

end

/-- How deep a loose value may nest: two steps for each bracket. -/
def looseDepth : Nat :=
  1002

def loose (dashed : Bool) : Reader Phrase := do
  let pieces ← loosePieces dashed looseDepth ((← size) + 1)
  return trimBlank pieces

end CompanionStyles.Stylesheet.Value
