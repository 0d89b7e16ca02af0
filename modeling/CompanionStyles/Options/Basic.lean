import CompanionStyles.Style.Compile

/-!
Options: which modules are components, how the style of a component is found, and how its names are
scoped.
-/

namespace CompanionStyles

/-- What a callback is asked about a module: whether it is a component. -/
structure ComponentQuery where
  fileName : List Char
  path : Path
  deriving DecidableEq, Repr

/-- What a callback is asked about a component: which style it has. -/
structure StyleQuery where
  /-- The file name of the component without its extension. -/
  componentName : List Char
  directory : Path
  component : Path
  deriving DecidableEq, Repr

abbrev ComponentTest := ComponentQuery → Bool

abbrev StyleResolver := StyleQuery → Option Style.Candidate

/-- The options that can be written down. -/
structure Settings where
  /-- Whether every style is a module. -/
  allStylesAsModules : Bool
  /-- Whether the name of a style has to start with that of its component. -/
  matchComponentName : Bool
  componentExtensions : Option (List (List Char))
  /-- Comes before the extensions of styles. -/
  styleGlob : Option (List Char)
  styleExtensions : Option (List (List Char))
  modules : Style.ModuleOptions
  deriving DecidableEq, Repr

/-- Settings with callbacks, which come before the settings for the same purpose. -/
structure Options where
  settings : Settings
  componentTest : Option ComponentTest
  styleResolver : Option StyleResolver

namespace Settings

def default : Settings where
  allStylesAsModules := false
  matchComponentName := true
  componentExtensions := some [".tsx".toList, ".jsx".toList]
  styleGlob := none
  styleExtensions := some [".css".toList, ".scss".toList, ".less".toList]
  modules := .default

end Settings

namespace Options

def ofSettings (s : Settings) : Options :=
  ⟨s, none, none⟩

def shownOption {α : Type} (shown : α → String) : Option α → String
  | none => "None"
  | some value => "Some(" ++ shown value ++ ")"

def shownText (text : List Char) : String :=
  String.ofList (Text.shown text)

def shownTexts (texts : List (List Char)) : String :=
  "[" ++ ", ".intercalate (texts.map shownText) ++ "]"

def shownRecord (name : String) (fields : List (String × String)) : String :=
  name ++ " \x7b " ++ ", ".intercalate (fields.map fun (key, value) => key ++ ": " ++ value) ++ " \x7d"

def shownModules (o : Style.ModuleOptions) : String :=
  shownRecord "CssModulesOptions" [
    ("pattern", shownOption shownText o.pattern),
    ("dashed_idents", toString o.dashedIdents),
    ("get_json", toString o.hook.isSome)]

/-- How options are shown; of callbacks only whether there are any. -/
def shown (o : Options) : String :=
  let s := o.settings
  shownRecord "PluginOptions" [
    ("resolve_all_styles_as_modules", toString s.allStylesAsModules),
    ("match_component_name", toString s.matchComponentName),
    ("component_extensions", shownOption shownTexts s.componentExtensions),
    ("style_glob", shownOption shownText s.styleGlob),
    ("style_extensions", shownOption shownTexts s.styleExtensions),
    ("css_modules", shownModules s.modules),
    ("should_transform_component", toString o.componentTest.isSome),
    ("resolve_style_for_component", toString o.styleResolver.isSome)]

end Options

end CompanionStyles
