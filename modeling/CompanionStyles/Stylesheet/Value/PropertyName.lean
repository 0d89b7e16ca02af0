import CompanionStyles.Stylesheet.Reader
import CompanionStyles.Text.Words

/-!
The names of properties: which of them are known, and which prefixes browsers know them under.
-/

namespace CompanionStyles.Stylesheet.Value

open Reader

/-- The properties that are known: their names are written in lower case. -/
def knownProperties : List String :=
  ["background-color", "background-image", "background-position-x", "background-position-y",
   "background-position", "background-size", "background-repeat", "background-attachment",
   "background-clip", "background-origin", "background", "box-shadow", "opacity", "color",
   "display", "visibility", "width", "height", "min-width", "min-height", "max-width",
   "max-height", "block-size", "inline-size", "min-block-size", "min-inline-size",
   "max-block-size", "max-inline-size", "box-sizing", "aspect-ratio", "overflow", "overflow-x",
   "overflow-y", "text-overflow", "position", "top", "bottom", "left", "right",
   "inset-block-start", "inset-block-end", "inset-inline-start", "inset-inline-end", "inset-block",
   "inset-inline", "inset", "border-spacing", "border-top-color", "border-bottom-color",
   "border-left-color", "border-right-color", "border-block-start-color", "border-block-end-color",
   "border-inline-start-color", "border-inline-end-color", "border-top-style",
   "border-bottom-style", "border-left-style", "border-right-style", "border-block-start-style",
   "border-block-end-style", "border-inline-start-style", "border-inline-end-style",
   "border-top-width", "border-bottom-width", "border-left-width", "border-right-width",
   "border-block-start-width", "border-block-end-width", "border-inline-start-width",
   "border-inline-end-width", "border-top-left-radius", "border-top-right-radius",
   "border-bottom-left-radius", "border-bottom-right-radius", "border-start-start-radius",
   "border-start-end-radius", "border-end-start-radius", "border-end-end-radius", "border-radius",
   "border-image-source", "border-image-outset", "border-image-repeat", "border-image-width",
   "border-image-slice", "border-image", "border-color", "border-style", "border-width",
   "border-block-color", "border-block-style", "border-block-width", "border-inline-color",
   "border-inline-style", "border-inline-width", "border", "border-top", "border-bottom",
   "border-left", "border-right", "border-block", "border-block-start", "border-block-end",
   "border-inline", "border-inline-start", "border-inline-end", "outline", "outline-color",
   "outline-style", "outline-width", "flex-direction", "flex-wrap", "flex-flow", "flex-grow",
   "flex-shrink", "flex-basis", "flex", "order", "align-content", "justify-content",
   "place-content", "align-self", "justify-self", "place-self", "align-items", "justify-items",
   "place-items", "row-gap", "column-gap", "gap", "grid-template-columns", "grid-template-rows",
   "grid-auto-columns", "grid-auto-rows", "grid-auto-flow", "grid-template-areas", "grid-template",
   "grid", "grid-row-start", "grid-row-end", "grid-column-start", "grid-column-end", "grid-row",
   "grid-column", "grid-area", "margin-top", "margin-bottom", "margin-left", "margin-right",
   "margin-block-start", "margin-block-end", "margin-inline-start", "margin-inline-end",
   "margin-block", "margin-inline", "margin", "padding-top", "padding-bottom", "padding-left",
   "padding-right", "padding-block-start", "padding-block-end", "padding-inline-start",
   "padding-inline-end", "padding-block", "padding-inline", "padding", "scroll-margin-top",
   "scroll-margin-bottom", "scroll-margin-left", "scroll-margin-right",
   "scroll-margin-block-start", "scroll-margin-block-end", "scroll-margin-inline-start",
   "scroll-margin-inline-end", "scroll-margin-block", "scroll-margin-inline", "scroll-margin",
   "scroll-padding-top", "scroll-padding-bottom", "scroll-padding-left", "scroll-padding-right",
   "scroll-padding-block-start", "scroll-padding-block-end", "scroll-padding-inline-start",
   "scroll-padding-inline-end", "scroll-padding-block", "scroll-padding-inline", "scroll-padding", "font-weight", "font-size", "font-stretch", "font-family", "font-style",
   "font-variant-caps", "line-height", "font", "font-palette", "vertical-align",
   "transition-property", "transition-duration", "transition-delay", "transition-timing-function",
   "transition", "animation-name", "animation-duration", "animation-timing-function",
   "animation-iteration-count", "animation-direction", "animation-play-state", "animation-delay",
   "animation-fill-mode", "animation-composition", "animation-timeline", "animation-range-start",
   "animation-range-end", "animation-range", "animation", "transform", "transform-origin",
   "transform-style", "transform-box", "backface-visibility", "perspective", "perspective-origin",
   "translate", "rotate", "scale", "text-transform", "white-space", "tab-size", "word-break",
   "line-break", "hyphens", "overflow-wrap", "word-wrap", "text-align", "text-align-last",
   "text-justify", "word-spacing", "letter-spacing", "text-indent", "text-decoration-line",
   "text-decoration-style", "text-decoration-color", "text-decoration-thickness",
   "text-decoration", "text-decoration-skip-ink", "text-emphasis-style", "text-emphasis-color",
   "text-emphasis", "text-emphasis-position", "text-shadow", "text-size-adjust", "direction",
   "unicode-bidi", "box-decoration-break", "resize", "cursor", "caret-color", "caret-shape",
   "caret", "user-select", "accent-color", "appearance", "list-style-type", "list-style-image",
   "list-style-position", "list-style", "marker-side", "composes", "fill", "fill-rule",
   "fill-opacity", "stroke", "stroke-opacity", "stroke-width", "stroke-linecap", "stroke-linejoin",
   "stroke-miterlimit", "stroke-dasharray", "stroke-dashoffset", "marker-start", "marker-mid",
   "marker-end", "marker", "color-interpolation", "color-interpolation-filters", "color-rendering",
   "shape-rendering", "text-rendering", "image-rendering", "clip-path", "clip-rule", "mask-image",
   "mask-mode", "mask-repeat", "mask-position-x", "mask-position-y", "mask-position", "mask-clip",
   "mask-origin", "mask-size", "mask-composite", "mask-type", "mask", "mask-border-source",
   "mask-border-mode", "mask-border-slice", "mask-border-width", "mask-border-outset",
   "mask-border-repeat", "mask-border", "-webkit-mask-composite", "filter", "backdrop-filter",
   "mix-blend-mode", "all",
   "z-index", "container-type", "container-name", "container", "view-transition-name",
   "view-transition-class", "view-transition-group", "color-scheme", "print-color-adjust"]

/-- Prefixes of properties that browsers know under names of their own. -/
def vendorPrefixes : List String :=
  ["-webkit-", "-moz-", "-ms-", "-o-"]

/-- The prefixes under which some properties are known. -/
def prefixedProperties : List (List String × List String) :=
  [(["-webkit-"],
    ["flex-grow", "flex-shrink", "flex-basis", "order", "align-content", "justify-content",
     "align-self", "align-items", "text-decoration-skip-ink", "text-emphasis-style",
     "text-emphasis-color", "text-emphasis", "text-emphasis-position", "box-decoration-break",
     "clip-path", "mask-image", "mask-repeat", "mask-position", "mask-clip", "mask-origin",
     "mask-size", "mask", "mask-source-type", "mask-box-image", "mask-box-image-source",
     "mask-box-image-slice", "mask-box-image-width", "mask-box-image-outset",
     "mask-box-image-repeat", "box-flex-group", "filter", "backdrop-filter",
     "print-color-adjust"]),
   (["-webkit-", "-moz-"],
    ["background-clip", "box-shadow", "box-sizing", "border-top-left-radius",
     "border-top-right-radius", "border-bottom-left-radius", "border-bottom-right-radius",
     "border-radius", "transform-style", "backface-visibility", "perspective",
     "perspective-origin", "text-decoration-line", "text-decoration-style",
     "text-decoration-color", "text-decoration", "box-orient", "box-direction",
     "box-ordinal-group", "box-align", "box-flex", "box-pack", "box-lines"]),
   (["-webkit-", "-ms-"], ["flex-direction", "flex-wrap", "flex-flow", "flex"]),
   (["-webkit-", "-moz-", "-ms-"],
    ["transition-property", "transition-duration", "transition-delay",
     "transition-timing-function", "transition", "hyphens", "text-size-adjust", "user-select",
     "appearance"]),
   (["-webkit-", "-moz-", "-o-"],
    ["border-image", "animation-name", "animation-duration", "animation-timing-function",
     "animation-iteration-count", "animation-direction", "animation-play-state",
     "animation-delay", "animation-fill-mode", "animation"]),
   (["-webkit-", "-moz-", "-ms-", "-o-"], ["transform", "transform-origin"]),
   (["-moz-"], ["text-align-last"]), (["-moz-", "-o-"], ["tab-size"]), (["-o-"], ["text-overflow"]),
   (["-ms-"],
    ["flex-pack", "flex-order", "flex-align", "flex-item-align", "flex-line-pack", "flex-positive",
     "flex-negative", "flex-preferred-size"])]

def isPrefixed (front : String) (short : List Char) : Bool :=
  prefixedProperties.any fun (fronts, names) =>
    fronts.contains front && names.any fun n => n.toList == short

/-- The prefix and the name of a property, in lower case, if it is known. -/
def known? (name : List Char) : Option (String × List Char) :=
  let small := lower name
  if knownProperties.any fun k => k.toList == small then some ("", small)
  else vendorPrefixes.findSome? fun front =>
    (Text.dropFront? front.toList small).bind fun short =>
      if isPrefixed front short then some (front, short) else none

/-- The prefix and the name of a property. The name of one that is not known has no prefix and keeps
its case. -/
def splitKnown (name : List Char) : String × List Char :=
  (known? name).getD ("", name)

end CompanionStyles.Stylesheet.Value
