import CompanionStyles.Stylesheet.Reader

/-!
The names of pseudo-classes and pseudo-elements. Those that are known are written in lower case.
-/

namespace CompanionStyles.Stylesheet.Selector

open Reader

def isIn (names : List String) (name : List Char) : Bool :=
  names.any (isWord name ·)

/-- Pseudo-classes that say what a user does with an element. -/
def userActions : List String :=
  ["hover", "active", "focus", "focus-visible", "focus-within"]

def scrollbarClasses : List String :=
  ["horizontal", "vertical", "decrement", "increment", "start", "end", "double-button",
   "single-button", "no-button", "corner-present", "window-inactive"]

/-- Pseudo-classes that may stand behind a part of a scroll bar. -/
def afterScrollbar : List String :=
  scrollbarClasses ++ ["enabled", "disabled", "hover", "active"]

def knownClasses : List String :=
  userActions ++ scrollbarClasses ++
  ["current", "past", "future", "playing", "paused", "seeking", "buffering", "stalled", "muted",
   "volume-locked", "fullscreen", "-webkit-full-screen", "-moz-full-screen", "-ms-fullscreen", "open",
   "closed", "modal", "picture-in-picture", "popover-open", "defined", "any-link",
   "-webkit-any-link", "-moz-any-link", "link", "local-link", "target", "target-within", "visited",
   "enabled", "disabled", "read-only", "-moz-read-only", "read-write", "-moz-read-write",
   "placeholder-shown", "default", "checked", "indeterminate", "blank", "valid", "invalid",
   "in-range", "out-of-range", "required", "optional", "user-valid", "user-invalid", "autofill",
   "-webkit-autofill", "-o-autofill", "active-view-transition"]

/-- Names that some browsers have for a pseudo-class, and how they are written. -/
def classAliases : List (String × String) :=
  [("-moz-placeholder", "-moz-placeholder-shown"), ("-moz-placeholder-shown", "-moz-placeholder-shown"),
   ("-ms-input-placeholder", "-ms-placeholder-shown")]

/-- A pseudo-class without arguments as it is written. -/
def classText (name : List Char) : List Char :=
  match classAliases.find? fun (known, _) => isWord name known with
  | some (_, written) => written.toList
  | none => if isIn knownClasses name then lower name else name

/-- Pseudo-classes that depend on where an element stands. -/
def structuralClasses : List String :=
  ["first-child", "last-child", "only-child", "first-of-type", "last-of-type", "only-of-type", "root",
   "empty", "scope", "host"]

/-- Pseudo-elements that a single colon may introduce, and is written for. -/
def singleColonElements : List String :=
  ["before", "after", "first-line", "first-letter"]

def scrollbarElements : List String :=
  ["-webkit-scrollbar", "-webkit-scrollbar-button", "-webkit-scrollbar-track",
   "-webkit-scrollbar-track-piece", "-webkit-scrollbar-thumb", "-webkit-scrollbar-corner",
   "-webkit-resizer"]

/-- Pseudo-elements that an element in a slot may have. -/
def slottedElements : List String :=
  ["before", "after", "marker", "placeholder", "-webkit-input-placeholder", "-moz-placeholder",
   "-ms-input-placeholder", "file-selector-button", "-webkit-file-upload-button", "-ms-browse"]

def knownElements : List String :=
  singleColonElements ++ scrollbarElements ++ slottedElements ++
  ["cue", "cue-region", "selection", "-moz-selection", "backdrop", "-webkit-backdrop",
   "grammar-error", "spelling-error", "target-text", "search-text", "view-transition",
   "details-content", "picker-icon", "checkmark"]

/-- A pseudo-element without arguments as it is written. -/
def elementText (name : List Char) : List Char :=
  if isIn singleColonElements name then ':' :: lower name
  else ':' :: ':' :: if isIn knownElements name then lower name else name

/-- Pseudo-elements for the parts of a transition between views. -/
def transitionElements : List String :=
  ["view-transition-group", "view-transition-image-pair", "view-transition-old",
   "view-transition-new"]

end CompanionStyles.Stylesheet.Selector
