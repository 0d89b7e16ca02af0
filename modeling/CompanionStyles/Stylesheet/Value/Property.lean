import CompanionStyles.Stylesheet.Value.Align
import CompanionStyles.Stylesheet.Value.Decoration
import CompanionStyles.Stylesheet.Value.Effect
import CompanionStyles.Stylesheet.Value.Grid
import CompanionStyles.Stylesheet.Value.Motion

/-!
Properties: how their values are read.
-/

namespace CompanionStyles.Stylesheet.Value

open Reader

def allWords : List String :=
  ["initial", "inherit", "unset", "revert", "revert-layer"]

def commaList (read : Reader Phrase) : Reader Phrase :=
  Phrase.list <$> commaSeparated read

def lengthPhrase : Reader Phrase :=
  Calc.phrase <$> length

def lengthPercentagePhrase : Reader Phrase :=
  Calc.phrase <$> lengthPercentage

def colorPhrase : Reader Phrase :=
  Color.phrase <$> color

def gapSize : Reader Size :=
  sizeOr ["normal"] lengthPercentage

def zIndex : Reader Phrase :=
  orWord ["auto"] integerPhrase

def caretShapes : List String :=
  ["auto", "bar", "block", "underscore"]

/-- The color and the shape of a caret, in any order. -/
def caret : Reader Phrase := do
  let (c, shape) ← eitherOrder (orWord ["auto"] colorPhrase) (oneOf caretShapes)
  if c.isNone && shape.isNone then fail .declaration
  return Phrase.words (c.getD (Phrase.ofString "auto") :: besides "auto" shape)

/-- What a shape is painted with; behind an address stands what replaces it. -/
def paint : Reader Phrase :=
  orWord ["none", "context-fill", "context-stroke"] ((do
    let address ← urlPhrase
    let fallback ← attempt (orWord ["none"] colorPhrase)
    return Phrase.words (address :: fallback.toList)) <|> colorPhrase)

def appearances : List String :=
  ["none", "auto", "textfield", "menulist-button", "button", "checkbox", "listbox", "menulist",
   "meter", "progress-bar", "push-button", "radio", "searchfield", "slider-horizontal",
   "square-button", "textarea"]

/-- The control that a box looks like; a name that is not known is written as it is. -/
def appearance : Reader Phrase :=
  orWord appearances (Phrase.ofChars <$> ident)

def overflowWords : List String :=
  ["visible", "hidden", "clip", "scroll", "auto"]

def wordValues : List (String × List String) :=
  [("visibility", ["visible", "hidden", "collapse"]),
   ("position", ["static", "relative", "absolute", "fixed", "sticky", "-webkit-sticky"]),
   ("box-sizing", ["content-box", "border-box"]),
   ("text-overflow", ["clip", "ellipsis"]),
   ("white-space", ["normal", "pre", "nowrap", "pre-wrap", "break-spaces", "pre-line"]),
   ("word-break", ["normal", "keep-all", "break-all", "break-word"]),
   ("line-break", ["auto", "loose", "normal", "strict", "anywhere"]),
   ("hyphens", ["none", "manual", "auto"]),
   ("overflow-wrap", ["normal", "anywhere", "break-word"]),
   ("word-wrap", ["normal", "anywhere", "break-word"]),
   ("text-align",
    ["start", "end", "left", "right", "center", "justify", "match-parent", "justify-all"]),
   ("text-align-last",
    ["auto", "start", "end", "left", "right", "center", "justify", "match-parent"]),
   ("text-justify", ["auto", "none", "inter-word", "inter-character"]),
   ("direction", ["ltr", "rtl"]),
   ("unicode-bidi",
    ["normal", "embed", "isolate", "bidi-override", "isolate-override", "plaintext"]),
   ("box-decoration-break", ["slice", "clone"]),
   ("resize", ["none", "both", "horizontal", "vertical", "block", "inline"]),
   ("user-select", ["auto", "text", "none", "contain", "all"]),
   ("caret-shape", caretShapes),
   ("backface-visibility", ["visible", "hidden"]),
   ("transform-style", ["flat", "preserve-3d"]),
   ("transform-box", ["content-box", "border-box", "fill-box", "stroke-box", "view-box"]),
   ("text-decoration-style", decorationStyles),
   ("text-decoration-skip-ink", ["auto", "none", "all"]),
   ("font-variant-caps",
    ["normal", "small-caps", "all-small-caps", "petite-caps", "all-petite-caps", "unicase",
     "titling-caps"]),
   ("flex-direction", ["row", "row-reverse", "column", "column-reverse"]),
   ("flex-wrap", ["nowrap", "wrap", "wrap-reverse"]),
   ("fill-rule", ["nonzero", "evenodd"]), ("clip-rule", ["nonzero", "evenodd"]),
   ("stroke-linecap", ["butt", "round", "square"]),
   ("stroke-linejoin", ["miter", "miter-clip", "round", "bevel", "arcs"]),
   ("color-interpolation", ["auto", "srgb", "linearrgb"]),
   ("color-interpolation-filters", ["auto", "srgb", "linearrgb"]),
   ("color-rendering", ["auto", "optimizespeed", "optimizequality"]),
   ("shape-rendering", ["auto", "optimizespeed", "crispedges", "geometricprecision"]),
   ("text-rendering", ["auto", "optimizespeed", "optimizelegibility", "geometricprecision"]),
   ("image-rendering", ["auto", "optimizespeed", "optimizequality"]),
   ("mask-type", ["luminance", "alpha"]), ("marker-side", ["match-self", "match-parent"]),
   ("print-color-adjust", ["economy", "exact"]), ("mask-border-mode", ["luminance", "alpha"]),
   ("mix-blend-mode",
    ["normal", "multiply", "screen", "overlay", "darken", "lighten", "color-dodge", "color-burn",
     "hard-light", "soft-light", "difference", "exclusion", "hue", "saturation", "color",
     "luminosity", "plus-darker", "plus-lighter"]),
   ("box-orient", ["horizontal", "vertical", "inline-axis", "block-axis"]),
   ("box-direction", ["normal", "reverse"]),
   ("box-align", ["start", "end", "center", "baseline", "stretch"]),
   ("box-pack", ["start", "end", "center", "justify"]), ("box-lines", ["single", "multiple"]),
   ("flex-pack", ["start", "end", "center", "justify", "distribute"]),
   ("flex-align", ["start", "end", "center", "baseline", "stretch"]),
   ("flex-item-align", ["auto", "start", "end", "center", "baseline", "stretch"]),
   ("flex-line-pack", ["start", "end", "center", "justify", "distribute", "stretch"])]

/-- Properties whose values are words with commas between them. -/
def wordListValues : List (String × List String) :=
  [("background-attachment", attachments), ("background-origin", backgroundBoxes),
   ("background-clip", backgroundClips), ("animation-direction", directions),
   ("animation-fill-mode", fillModes), ("animation-play-state", playStates),
   ("animation-composition", ["replace", "add", "accumulate"]), ("mask-mode", maskModes),
   ("mask-composite", maskComposites), ("mask-origin", geometryBoxes),
   ("mask-clip", geometryBoxes ++ ["no-clip"]),
   ("-webkit-mask-composite",
    ["clear", "copy", "source-over", "source-in", "source-out", "source-atop", "destination-over",
     "destination-in", "destination-out", "destination-atop", "xor"]),
   ("mask-source-type", ["auto", "luminance", "alpha"])]

/-- How the value of a property is read that consists of words. -/
def wordReader? (name : String) : Option (Reader Phrase) :=
  match wordValues.lookup name with
  | some words => some (oneOf words)
  | none => (wordListValues.lookup name).map fun words => commaList (oneOf words)

/-- A length of a dash; pixels are written without a unit. -/
def dash : Reader Phrase := do
  let c ← lengthPercentage
  match c with
  | .value q => return if q.unit == "px".toList then numberPhrase q.value else c.phrase
  | c => return c.phrase

/-- The lengths of dashes and of the gaps between them, with or without commas. -/
def dashes : Reader Phrase :=
  orWord ["none"] do
    let first ← dash
    let rest ← many (do
      let _ ← attempt comma
      dash)
    return Phrase.words (first :: rest)

/-- How the value of a property is read that does not consist of words alone. -/
def valueReader? (name : String) : Option (Reader Phrase) :=
  match name with
  | "top" | "right" | "bottom" | "left" | "margin-top" | "margin-right" | "margin-bottom"
  | "margin-left" | "padding-top" | "padding-right" | "padding-bottom" | "padding-left"
  | "margin-block-start" | "margin-block-end" | "margin-inline-start" | "margin-inline-end"
  | "padding-block-start" | "padding-block-end" | "padding-inline-start" | "padding-inline-end"
  | "inset-block-start" | "inset-block-end" | "inset-inline-start" | "inset-inline-end"
  | "scroll-padding-top" | "scroll-padding-right" | "scroll-padding-bottom"
  | "scroll-padding-left" | "scroll-padding-block-start" | "scroll-padding-block-end"
  | "scroll-padding-inline-start" | "scroll-padding-inline-end" | "flex-basis"
  | "flex-preferred-size" => some (Size.phrase <$> autoLength)
  | "margin" | "padding" | "inset" | "scroll-padding" => some (sides Size.phrase autoLength)
  | "margin-block" | "margin-inline" | "padding-block" | "padding-inline" | "inset-block"
  | "inset-inline" | "scroll-padding-block" | "scroll-padding-inline" =>
    some (twice Size.phrase autoLength)
  | "scroll-margin" => some (sides Calc.phrase length)
  | "scroll-margin-block" | "scroll-margin-inline" => some (twice Calc.phrase length)
  | "scroll-margin-top" | "scroll-margin-right" | "scroll-margin-bottom" | "scroll-margin-left"
  | "scroll-margin-block-start" | "scroll-margin-block-end" | "scroll-margin-inline-start"
  | "scroll-margin-inline-end" => some lengthPhrase
  | "width" | "height" | "min-width" | "min-height" | "block-size" | "inline-size"
  | "min-block-size" | "min-inline-size" => some boxSize
  | "max-width" | "max-height" | "max-block-size" | "max-inline-size" => some maxBoxSize
  | "color" | "background-color" | "border-top-color" | "border-right-color"
  | "border-bottom-color" | "border-left-color" | "outline-color" | "text-decoration-color"
  | "text-emphasis-color" | "border-block-start-color" | "border-block-end-color"
  | "border-inline-start-color" | "border-inline-end-color" => some colorPhrase
  | "caret-color" | "accent-color" => some (orWord ["auto"] colorPhrase)
  | "caret" => some caret
  | "appearance" => some appearance
  | "fill" | "stroke" => some paint
  | "marker" | "marker-start" | "marker-mid" | "marker-end" => some (orWord ["none"] urlPhrase)
  | "border-color" => some (sides Color.phrase color)
  | "border-style" => some (sides id borderStyle)
  | "border-width" => some (sides Size.phrase borderWidth)
  | "border-block-color" | "border-inline-color" => some (twice Color.phrase color)
  | "border-block-style" | "border-inline-style" => some (twice id borderStyle)
  | "border-block-width" | "border-inline-width" => some (twice Size.phrase borderWidth)
  | "border-top-style" | "border-right-style" | "border-bottom-style" | "border-left-style"
  | "border-block-start-style" | "border-block-end-style" | "border-inline-start-style"
  | "border-inline-end-style" => some borderStyle
  | "outline-style" => some (oneOf ("auto" :: borderStyles))
  | "border-top-width" | "border-right-width" | "border-bottom-width" | "border-left-width"
  | "border-block-start-width" | "border-block-end-width" | "border-inline-start-width"
  | "border-inline-end-width" | "outline-width" => some (Size.phrase <$> borderWidth)
  | "border" | "border-top" | "border-right" | "border-bottom" | "border-left" | "border-block"
  | "border-inline" | "border-block-start" | "border-block-end" | "border-inline-start"
  | "border-inline-end" => some border
  | "outline" => some outline
  | "border-radius" => some borderRadius
  | "border-top-left-radius" | "border-top-right-radius" | "border-bottom-left-radius"
  | "border-bottom-right-radius" | "border-start-start-radius" | "border-start-end-radius"
  | "border-end-start-radius" | "border-end-end-radius" =>
    some (twice Calc.phrase lengthPercentage)
  | "border-spacing" => some (twice Calc.phrase length)
  | "box-shadow" => some (shadows true)
  | "text-shadow" => some (shadows false)
  | "opacity" | "fill-opacity" | "stroke-opacity" => some (numberPhrase <$> factor)
  | "order" | "flex-order" | "box-ordinal-group" | "box-flex-group" => some integerPhrase
  | "z-index" => some zIndex
  | "flex-grow" | "flex-shrink" | "flex-positive" | "flex-negative" | "box-flex"
  | "stroke-miterlimit" => some (numberPhrase <$> number)
  | "flex" => some flex
  | "gap" => some (twice Size.phrase gapSize)
  | "row-gap" | "column-gap" => some (Size.phrase <$> gapSize)
  | "display" => some display
  | "aspect-ratio" => some aspectRatio
  | "flex-flow" => some flexFlow
  | "align-content" => some alignContent
  | "justify-content" => some justifyContent
  | "place-content" => some placeContent
  | "align-self" => some alignSelf
  | "justify-self" => some justifySelf
  | "place-self" => some placeSelf
  | "align-items" => some alignItems
  | "justify-items" => some justifyItems
  | "place-items" => some placeItems
  | "overflow" => some (twice id (oneOf overflowWords))
  | "overflow-x" | "overflow-y" => some (oneOf overflowWords)
  | "text-transform" =>
    some (oneOf ["none", "uppercase", "lowercase", "capitalize", "full-width", "full-size-kana"])
  | "background" => some background
  | "background-image" => some backgroundImages
  | "background-position" => some positions
  | "background-position-x" | "mask-position-x" => some (axisPlaces across)
  | "background-position-y" | "mask-position-y" => some (axisPlaces down)
  | "background-size" => some (commaList backgroundSize)
  | "background-repeat" => some (commaList backgroundRepeat)
  | "font-family" => some fontFamilies
  | "font-size" => some fontSize
  | "font" => some font
  | "line-height" => some lineHeight
  | "letter-spacing" | "word-spacing" => some (orWord ["normal"] lengthPhrase)
  | "text-indent" => some textIndent
  | "tab-size" => some (Size.phrase <$> lengthOrNumber)
  | "vertical-align" => some (orWord verticalAligns lengthPercentagePhrase)
  | "text-decoration" => some textDecoration
  | "text-decoration-line" => some decorationLine
  | "text-decoration-thickness" => some decorationThickness
  | "text-emphasis" => some textEmphasis
  | "text-emphasis-style" => some emphasisStyle
  | "text-emphasis-position" => some emphasisPosition
  | "text-size-adjust" => some (orWord ["auto", "none"] (quantityPhrase <$> percentage))
  | "color-scheme" => some colorScheme
  | "font-weight" => some fontWeight
  | "font-style" => some fontStyle
  | "font-stretch" => some fontStretch
  | "transform" => some transform
  | "transform-origin" | "perspective-origin" => some (Position.phrase <$> position)
  | "perspective" => some (orWord ["none"] lengthPhrase)
  | "translate" => some translate
  | "rotate" => some rotate
  | "scale" => some scale
  | "filter" | "backdrop-filter" => some filters
  | "clip-path" => some clipPath
  | "cursor" => some cursor
  | "mask" => some mask
  | "mask-image" => some backgroundImages
  | "mask-position" => some positions
  | "mask-size" => some (commaList backgroundSize)
  | "mask-repeat" => some (commaList backgroundRepeat)
  | "mask-border" => some maskBorder
  | "border-image" | "mask-box-image" => some borderImage
  | "border-image-source" | "mask-border-source" | "mask-box-image-source" => some image
  | "border-image-slice" | "mask-border-slice" | "mask-box-image-slice" => some borderImageSlice
  | "border-image-width" | "mask-border-width" | "mask-box-image-width" =>
    some (sides Size.phrase borderImageWidth)
  | "border-image-outset" | "mask-border-outset" | "mask-box-image-outset" =>
    some (sides Size.phrase lengthOrNumber)
  | "border-image-repeat" | "mask-border-repeat" | "mask-box-image-repeat" =>
    some borderImageRepeat
  | "stroke-width" | "stroke-dashoffset" => some lengthPercentagePhrase
  | "stroke-dasharray" => some dashes
  | "transition" => some (commaList transition)
  | "transition-property" => some (commaList propertyName)
  | "transition-duration" | "transition-delay" | "animation-duration" | "animation-delay" =>
    some (commaList (timePhrase <$> time))
  | "transition-timing-function" | "animation-timing-function" => some (commaList easing)
  | "animation" => some (commaList animation)
  | "animation-name" => some (commaList animationName)
  | "animation-iteration-count" => some (commaList iterationCount)
  | "animation-timeline" => some (commaList timeline)
  | "animation-range" => some (commaList range)
  | "animation-range-start" => some (commaList (rangeEnd 0))
  | "animation-range-end" => some (commaList (rangeEnd 1))
  | "grid-area" => some gridArea
  | "grid-row" | "grid-column" => some gridLines
  | "grid-row-start" | "grid-row-end" | "grid-column-start" | "grid-column-end" =>
    some gridLinePhrase
  | "grid-template-areas" => some gridTemplateAreas
  | "grid-template" => some gridTemplate
  | "grid" => some grid
  | "grid-auto-flow" => some gridAutoFlow
  | "grid-template-columns" | "grid-template-rows" => some gridTemplateTracks
  | "grid-auto-columns" | "grid-auto-rows" => some gridAutoTracks
  | "list-style" => some listStyle
  | "list-style-type" => some listStyleType
  | "list-style-image" => some image
  | "list-style-position" => some listStylePosition
  | "container" => some container
  | "container-name" => some containerNames
  | "container-type" => some (oneOf containerTypes)
  | "view-transition-name" => some viewTransitionName
  | "view-transition-class" => some viewTransitionClass
  | "view-transition-group" => some viewTransitionGroup
  | _ => none

/-- How the value of a property is read, unless it is kept as it is. -/
def reader? (name : String) : Option (Reader Phrase) :=
  wordReader? name <|> valueReader? name

end CompanionStyles.Stylesheet.Value
