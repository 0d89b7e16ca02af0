import CompanionStyles.Json.Reader
import CompanionStyles.Json.Writer
import CompanionStyles.Options.Basic

/-!
Settings as JSON texts. What a text does not give keeps its default, and `null` stands for no value.
-/

namespace CompanionStyles

open Json

namespace Style.ModuleOptions

def fields : List (RecordField ModuleOptions) := [
  ⟨"pattern", fun o text => (readOption readString text).map fun (v, rest) =>
    ({ o with pattern := v }, rest)⟩,
  ⟨"dashedIdents", fun o text => (readBool text).map fun (v, rest) =>
    ({ o with dashedIdents := v }, rest)⟩]

def read : Reader ModuleOptions :=
  readRecord "struct CssModulesOptions" fields default

end Style.ModuleOptions

namespace Settings

def fields : List (RecordField Settings) := [
  ⟨"resolveAllStylesAsModules", fun s text => (readBool text).map fun (v, rest) =>
    ({ s with allStylesAsModules := v }, rest)⟩,
  ⟨"matchComponentName", fun s text => (readBool text).map fun (v, rest) =>
    ({ s with matchComponentName := v }, rest)⟩,
  ⟨"componentExtensions", fun s text => (readOption (readList readString) text).map fun (v, rest) =>
    ({ s with componentExtensions := v }, rest)⟩,
  ⟨"styleGlob", fun s text => (readOption readString text).map fun (v, rest) =>
    ({ s with styleGlob := v }, rest)⟩,
  ⟨"styleExtensions", fun s text => (readOption (readList readString) text).map fun (v, rest) =>
    ({ s with styleExtensions := v }, rest)⟩,
  ⟨"cssModules", fun s text => (Style.ModuleOptions.read text).map fun (v, rest) =>
    ({ s with modules := v }, rest)⟩]

def read : Reader Settings :=
  readRecord "struct PluginOptions" fields default

def ofJson (text : List Char) : Except Failure Settings :=
  (Json.parse read text).mapError fun fault => .configuration (.options fault)

def writeBool (b : Bool) : List Char :=
  (if b then "true" else "false").toList

def writeOption {α : Type} (write : α → List Char) : Option α → List Char
  | none => "null".toList
  | some value => write value

def commaSeparated : List (List Char) → List Char
  | [] => []
  | [text] => text
  | text :: texts => text ++ ',' :: commaSeparated texts

def writeList (texts : List (List Char)) : List Char :=
  '[' :: commaSeparated (texts.map quote) ++ [']']

def writeObject (members : List (String × List Char)) : List Char :=
  '\x7b' :: commaSeparated (members.map fun (name, value) => quote name.toList ++ ':' :: value)
    ++ ['\x7d']

def toJson (s : Settings) : List Char :=
  writeObject [
    ("resolveAllStylesAsModules", writeBool s.allStylesAsModules),
    ("matchComponentName", writeBool s.matchComponentName),
    ("componentExtensions", writeOption writeList s.componentExtensions),
    ("styleGlob", writeOption quote s.styleGlob),
    ("styleExtensions", writeOption writeList s.styleExtensions),
    ("cssModules", writeObject [
      ("pattern", writeOption quote s.modules.pattern),
      ("dashedIdents", writeBool s.modules.dashedIdents)])]

end Settings

end CompanionStyles
