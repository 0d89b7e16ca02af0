import CompanionStyles.Stylesheet.Value.Box

/-!
Values for grids. Lines and areas have names of their own, which belong to the stylesheet.
-/

namespace CompanionStyles.Stylesheet.Value

open Reader

/-- A line of a grid. -/
inductive GridLine where
  | auto
  | area (name : List Char)
  | line (index : Int) (name : Option (List Char))
  | span (index : Int) (name : Option (List Char))
  deriving DecidableEq

def gridName (name : List Char) : Phrase :=
  [.gridName name]

def indexPhrase (i : Int) : Phrase :=
  Phrase.ofString (toString i)

def GridLine.phrase : GridLine → Phrase
  | auto => Phrase.ofString "auto"
  | area name => gridName name
  | line i name => Phrase.words (indexPhrase i :: (name.map gridName).toList)
  | span i name =>
    let index := if i ≠ 1 ∨ name.isNone then [indexPhrase i] else []
    Phrase.words (Phrase.ofString "span" :: index ++ (name.map gridName).toList)

def lineIndex : Reader Int := do
  let i ← integer
  if i = 0 then fail .declaration else return i

/-- A number and a name in any order, at least one of them. -/
def indexAndName : Reader (Option Int × Option (List Char)) := do
  match ← attempt lineIndex with
  | some i => return (some i, ← attempt customName)
  | none =>
    let name ← customName
    return (← attempt lineIndex, some name)

def gridLine : Reader GridLine := do
  if ← found (word "auto") then return .auto
  if ← found (word "span") then
    let (i, name) ← indexAndName
    return .span (i.getD 1) name
  match ← indexAndName with
  | (none, some name) => return .area name
  | (i, name) => return .line (i.getD 1) name

/-- What a line is if it is not given: the same area as the opposite one, or automatic. -/
def GridLine.implied : GridLine → GridLine
  | area name => area name
  | _ => auto

def slash : Reader Unit :=
  delim '/'

/-- The line behind a slash, or the one implied by the line opposite to it. -/
def lineAfter (opposite : GridLine) : Reader GridLine := do
  if ← found slash then gridLine else return opposite.implied

def gridLinePhrase : Reader Phrase := do
  return (← gridLine).phrase

def slashed (lines : List GridLine) : Phrase :=
  Phrase.join (Phrase.ofString " / ") (lines.map GridLine.phrase)

/-- Two lines; the second one is left out if it is implied. -/
def gridLines : Reader Phrase := do
  let start ← gridLine
  let last ← lineAfter start
  return slashed (if last = start.implied then [start] else [start, last])

/-- The four lines around an area: those that are implied by the ones in front are left out. -/
def gridArea : Reader Phrase := do
  let rowStart ← gridLine
  let columnStart ← lineAfter rowStart
  let rowEnd ← lineAfter rowStart
  let columnEnd ← lineAfter columnStart
  let noColumnEnd := columnEnd = columnStart.implied
  let noRowEnd := noColumnEnd ∧ rowEnd = rowStart.implied
  let noColumnStart := noRowEnd ∧ columnStart = rowStart.implied
  return slashed
    (rowStart :: (if noColumnStart then [] else [columnStart])
      ++ (if noRowEnd then [] else [rowEnd]) ++ (if noColumnEnd then [] else [columnEnd]))

/-- The cells of a row of areas; a run of dots is an unnamed cell. Each step takes at least one
character. -/
def areaCells : Nat → List Char → Option (List (Option (List Char)))
  | 0, _ => some []
  | fuel + 1, text =>
    match text.dropWhile Scanner.isBlank with
    | [] => some []
    | '.' :: rest => do
      let more ← areaCells fuel (rest.dropWhile (· == '.'))
      return none :: more
    | c :: rest => do
      let name := (c :: rest).takeWhile Scanner.isNamePart
      if name = [] then none
      let more ← areaCells fuel ((c :: rest).drop name.length)
      return some name :: more

def cellPhrase (cell : Option (List Char)) : Phrase :=
  match cell with
  | some name => gridName name
  | none => Phrase.ofString "."

def rowPhrase (cells : List (Option (List Char))) : Phrase :=
  .text ['"'] :: Phrase.words (cells.map cellPhrase) ++ Phrase.ofString "\""

def areaRows : Reader (List (List (Option (List Char)))) := do
  let rows ← many1 (do
    let text ← string
    match areaCells (text.length + 1) text with
    | some (c :: cells) => return c :: cells
    | _ => fail .declaration)
  match rows with
  | first :: rest =>
    if rest.all fun r => r.length == first.length then return rows else fail .declaration
  | [] => fail .declaration

/-- Rows of areas, one below the other behind the name of the property. -/
def gridTemplateAreas : Reader Phrase :=
  orWord ["none"] do
    let rows ← areaRows
    return Phrase.join [.lineBreak "grid-template-areas: ".length] (rows.map rowPhrase)

def lineNames : Reader Phrase :=
  block .square do
    let names ← many customName
    return .text ['['] :: Phrase.words (names.map gridName) ++ Phrase.ofString "]"

def flexShare : Reader Phrase := do
  let q ← plain flexUnits
  if Single.isNegative q.value then fail .value
  return Phrase.ofChars q.text

/-- The breadth of a track that does not depend on the space that is left. -/
def fixedBreadth : Reader Phrase :=
  orWord ["auto", "min-content", "max-content"] (Calc.phrase <$> lengthPercentage)

def trackBreadth : Reader Phrase :=
  fixedBreadth <|> flexShare

def minmax : Reader Phrase :=
  call ["minmax"] fun name => do
    let low ← fixedBreadth
    comma
    let high ← trackBreadth
    return .text (name ++ ['(']) :: Phrase.list [low, high] ++ Phrase.ofString ")"

def trackSize : Reader Phrase :=
  trackBreadth <|> minmax <|> fitContent

def tracks (track : Reader Phrase) : Reader Phrase := do
  let items ← many1 (lineNames <|> track)
  return Phrase.words items

def trackRepeat : Reader Phrase :=
  call ["repeat"] fun name => do
    let count ← orWord ["auto-fill", "auto-fit"] integerPhrase
    comma
    let inner ← tracks trackSize
    return .text (name ++ ['(']) :: Phrase.list [count, inner] ++ Phrase.ofString ")"

def gridTemplateTracks : Reader Phrase :=
  orWord ["none"] (tracks (trackRepeat <|> trackSize))

def gridAutoTracks : Reader Phrase :=
  Phrase.words <$> many1 trackSize

def gridAutoFlow : Reader Phrase := do
  let dense := word "dense"
  let front ← found dense
  let d ← attempt (oneOf ["row", "column"])
  let behind ← if front then pure false else found dense
  if d.isNone && !front && !behind then fail .value
  return Phrase.words
    (d.getD (Phrase.ofString "row") :: if front || behind then [Phrase.ofString "dense"] else [])

def namesInBrackets (names : List (List Char)) : List Phrase :=
  if names.isEmpty then []
  else [.text ['['] :: Phrase.words (names.map gridName) ++ Phrase.ofString "]"]

/-- The names of a line, which may be spread over several brackets. -/
def lineNameList : Reader (List (List Char)) := do
  return (← many (block .square (many customName))).flatten

/-- A row of areas with its height and the names of the line behind it. -/
structure TemplateRow where
  cells : List (Option (List Char))
  size : Option Phrase
  names : List (List Char)

def templateRow : Reader TemplateRow := do
  let text ← string
  match areaCells (text.length + 1) text with
  | some (c :: cells) =>
    let size ← attempt trackSize
    return ⟨c :: cells, size.filter fun p => p ≠ Phrase.ofString "auto", ← lineNameList⟩
  | _ => fail .declaration

/-- The lines of rows that are written, each behind the names of the line in front of it. Of several
names of one line the first one stays in the row above. -/
def templateLines : List (List Char) → List TemplateRow → List Phrase
  | _, [] => []
  | names, r :: rows =>
    let (above, below) := match rows, r.names with
      | _ :: _, a :: b :: more => ([a], b :: more)
      | _ :: _, names => ([], names)
      | [], names => (names, [])
    Phrase.words (namesInBrackets names ++ [rowPhrase r.cells] ++ r.size.toList
      ++ namesInBrackets above) :: templateLines below rows

/-- Rows of areas and the widths of their columns, one below the other behind the property's name. -/
def areaTemplate (column : Nat) : Reader Phrase := do
  let names ← lineNameList
  let rows ← many1 templateRow
  match rows with
  | first :: rest =>
    if !rest.all fun r => r.cells.length == first.cells.length then fail .declaration
  | [] => fail .declaration
  let columns ← attempt (do
    slash
    tracks trackSize)
  let behind := match columns with
    | some p => [.text "/ ".toList :: p]
    | none => []
  return Phrase.join [.lineBreak column] (templateLines names rows ++ behind)

def trackTemplate : Reader Phrase := do
  let rows ← gridTemplateTracks
  slash
  let columns ← gridTemplateTracks
  let none_ := Phrase.ofString "none"
  if rows = none_ ∧ columns = none_ then return none_
  else return Phrase.join (Phrase.ofString " / ") [rows, columns]

def onlyNone : Reader Phrase := do
  let p ← oneOf ["none"]
  if (← get).nodes.all isGap then return p else fail .value

def templateAt (column : Nat) : Reader Phrase :=
  onlyNone <|> areaTemplate column <|> trackTemplate

def gridTemplate : Reader Phrase :=
  templateAt "grid-template: ".length

def autoFlow : Reader Phrase := do
  let front ← found (word "dense")
  word "auto-flow"
  let behind ← if front then pure false else found (word "dense")
  return Phrase.ofString (if front || behind then "auto-flow dense" else "auto-flow")

/-- A template, or a grid of which one direction fills itself. -/
def grid : Reader Phrase :=
  let flow : Reader Phrase := do
    let f ← autoFlow
    let sizes ← attempt gridAutoTracks
    return Phrase.words (f :: (sizes.filter fun p => p ≠ Phrase.ofString "auto").toList)
  let both (a b : Reader Phrase) : Reader Phrase := do
    let p ← a
    slash
    return Phrase.join (Phrase.ofString " / ") [p, ← b]
  templateAt "grid: ".length <|> both gridTemplateTracks flow <|> both flow gridTemplateTracks

end CompanionStyles.Stylesheet.Value
