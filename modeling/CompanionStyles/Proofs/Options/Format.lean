import CompanionStyles.Proofs.Json.Reading

/-!
Settings that are written down and read again. Nothing of them gets lost but a hook, which has no text. An object
that gives some of them, in any order and spelling, sets these, and leaves the others at their defaults.
-/

namespace CompanionStyles

open Json

/-- One of the settings of style modules, as an object gives it. -/
inductive Style.ModuleSetting where
  | pattern (value : Option (List Char))
  | dashedIdents (value : Bool)

namespace Style.ModuleSetting

def name : ModuleSetting → String
  | pattern _ => "pattern"
  | dashedIdents _ => "dashedIdents"

def set : ModuleSetting → ModuleOptions → ModuleOptions
  | pattern value, o => { o with pattern := value }
  | dashedIdents value, o => { o with dashedIdents := value }

/-- The texts of a setting's value. -/
def Spells : ModuleSetting → List Char → Prop
  | pattern value => SpellsOption SpellsString value
  | dashedIdents value => SpellsBool value

def write : ModuleSetting → List Char
  | pattern value => Settings.writeOption quote value
  | dashedIdents value => Settings.writeBool value

/-- The default options with some settings replaced. -/
def setAll (given : List ModuleSetting) : ModuleOptions :=
  given.foldl (fun o setting => setting.set o) .default

end Style.ModuleSetting

/-- One of the settings, as an object gives it; those of style modules are an object of their own. -/
inductive Setting where
  | allStylesAsModules (value : Bool)
  | matchComponentName (value : Bool)
  | componentExtensions (value : Option (List (List Char)))
  | styleGlob (value : Option (List Char))
  | styleExtensions (value : Option (List (List Char)))
  | modules (given : List Style.ModuleSetting)

namespace Setting

def name : Setting → String
  | allStylesAsModules _ => "resolveAllStylesAsModules"
  | matchComponentName _ => "matchComponentName"
  | componentExtensions _ => "componentExtensions"
  | styleGlob _ => "styleGlob"
  | styleExtensions _ => "styleExtensions"
  | modules _ => "cssModules"

def set : Setting → Settings → Settings
  | allStylesAsModules value, s => { s with allStylesAsModules := value }
  | matchComponentName value, s => { s with matchComponentName := value }
  | componentExtensions value, s => { s with componentExtensions := value }
  | styleGlob value, s => { s with styleGlob := value }
  | styleExtensions value, s => { s with styleExtensions := value }
  | modules given, s => { s with modules := Style.ModuleSetting.setAll given }

/-- The texts of a setting's value. -/
def Spells : Setting → List Char → Prop
  | allStylesAsModules value => SpellsBool value
  | matchComponentName value => SpellsBool value
  | componentExtensions value => SpellsOption (SpellsList SpellsString) value
  | styleGlob value => SpellsOption SpellsString value
  | styleExtensions value => SpellsOption (SpellsList SpellsString) value
  | modules given => SpellsRecord Style.ModuleSetting.name Style.ModuleSetting.Spells given

def write : Setting → List Char
  | allStylesAsModules value => Settings.writeBool value
  | matchComponentName value => Settings.writeBool value
  | componentExtensions value => Settings.writeOption Settings.writeList value
  | styleGlob value => Settings.writeOption quote value
  | styleExtensions value => Settings.writeOption Settings.writeList value
  | modules given => Settings.writeObject (given.map fun setting => (setting.name, setting.write))

/-- The default settings with some of them replaced. -/
def setAll (given : List Setting) : Settings :=
  given.foldl (fun s setting => setting.set s) .default

/-- The texts that give some settings, each of them once, and nothing else. -/
def SpellsAll (given : List Setting) (text : List Char) : Prop :=
  SpellsDocument (SpellsRecord name Spells) given text

end Setting

theorem Style.ModuleSetting.spells_write (setting : ModuleSetting) : setting.Spells setting.write := by
  cases setting with
  | pattern value => exact spellsOption_writeOption spellsString_quote value
  | dashedIdents value => exact spellsBool_writeBool value

theorem reads_text? {value : Option (List Char)} {text : List Char} (spelled : SpellsOption SpellsString value text) :
    Reads (readOption readString) text value := by
  refine reads_option (fun value text spelled => ⟨reads_string spelled, ?_⟩) spelled
  obtain ⟨body, _, rfl⟩ := spelled
  exact fun null => absurd (Option.some.inj null) (by decide)

theorem reads_texts? {value : Option (List (List Char))} {text : List Char}
    (spelled : SpellsOption (SpellsList SpellsString) value text) :
    Reads (readOption (readList readString)) text value := by
  refine reads_option (fun value text spelled => ⟨reads_list (fun _ _ text => reads_string text) spelled, ?_⟩) spelled
  obtain ⟨body, _, rfl⟩ := spelled
  exact fun null => absurd (Option.some.inj null) (by decide)

/-- The value of each setting of style modules is read into its own field. -/
theorem Style.ModuleSetting.fits (setting : ModuleSetting) (text : List Char) (spelled : setting.Spells text) :
    ∃ field, (ModuleOptions.fields.find? fun f => f.name.toList = field.name.toList) = some field
      ∧ field.name = setting.name ∧ ∀ o, Reads (field.read o) text (setting.set o) := by
  cases setting with
  | pattern value =>
    exact ⟨ModuleOptions.fields[0], rfl, rfl, fun o => (reads_text? spelled).map fun v => (pattern v).set o⟩
  | dashedIdents value =>
    exact ⟨ModuleOptions.fields[1], rfl, rfl, fun o => (reads_bool spelled).map fun v => (dashedIdents v).set o⟩

theorem Style.ModuleSetting.reads {given : List ModuleSetting} {text : List Char}
    (spelled : SpellsRecord name Spells given text) : Reads ModuleOptions.read text (setAll given) :=
  reads_record fits "struct CssModulesOptions" .default spelled

/-- The value of each setting is read into its own field. -/
theorem Setting.fits (setting : Setting) (text : List Char) (spelled : setting.Spells text) :
    ∃ field, (Settings.fields.find? fun f => f.name.toList = field.name.toList) = some field
      ∧ field.name = setting.name ∧ ∀ s, Reads (field.read s) text (setting.set s) := by
  cases setting with
  | allStylesAsModules value =>
    exact ⟨Settings.fields[0], rfl, rfl, fun s => (reads_bool spelled).map fun v => (allStylesAsModules v).set s⟩
  | matchComponentName value =>
    exact ⟨Settings.fields[1], rfl, rfl, fun s => (reads_bool spelled).map fun v => (matchComponentName v).set s⟩
  | componentExtensions value =>
    exact ⟨Settings.fields[2], rfl, rfl, fun s =>
      (reads_texts? spelled).map fun v => (componentExtensions v).set s⟩
  | styleGlob value =>
    exact ⟨Settings.fields[3], rfl, rfl, fun s => (reads_text? spelled).map fun v => (styleGlob v).set s⟩
  | styleExtensions value =>
    exact ⟨Settings.fields[4], rfl, rfl, fun s => (reads_texts? spelled).map fun v => (styleExtensions v).set s⟩
  | modules given =>
    exact ⟨Settings.fields[5], rfl, rfl, fun s =>
      (Style.ModuleSetting.reads spelled).map fun v => ({ s with modules := v } : Settings)⟩

namespace Settings

/-- All settings, as an object gives them. -/
def all (s : Settings) : List Setting :=
  [.allStylesAsModules s.allStylesAsModules, .matchComponentName s.matchComponentName,
    .componentExtensions s.componentExtensions, .styleGlob s.styleGlob, .styleExtensions s.styleExtensions,
    .modules [.pattern s.modules.pattern, .dashedIdents s.modules.dashedIdents]]

theorem setAll_all (s : Settings) :
    Setting.setAll s.all = { s with modules := { s.modules with hook := none } } :=
  rfl

/-- Settings are written as an object that gives all of them, those that are missing as null. -/
theorem spellsAll_toJson (s : Settings) : Setting.SpellsAll s.all s.toJson := by
  have modules : SpellsRecord Style.ModuleSetting.name Style.ModuleSetting.Spells
      [.pattern s.modules.pattern, .dashedIdents s.modules.dashedIdents]
      (Setting.modules [.pattern s.modules.pattern, .dashedIdents s.modules.dashedIdents]).write :=
    spellsRecord_writeObject (fun setting _ => setting.spells_write) (by simp [Style.ModuleSetting.name])
  have spelled : ∀ setting ∈ s.all, setting.Spells setting.write := by
    intro setting among
    cases setting with
    | modules given =>
      have same : given = [.pattern s.modules.pattern, .dashedIdents s.modules.dashedIdents] := by
        simpa [all] using among
      exact same ▸ modules
    | allStylesAsModules value => exact spellsBool_writeBool value
    | matchComponentName value => exact spellsBool_writeBool value
    | componentExtensions value => exact spellsOption_writeOption spellsList_writeList value
    | styleGlob value => exact spellsOption_writeOption spellsString_quote value
    | styleExtensions value => exact spellsOption_writeOption spellsList_writeList value
  have distinct : (s.all.map Setting.name).Nodup := by simp [all, Setting.name]
  have object := spellsRecord_writeObject spelled distinct
  exact ⟨[], s.toJson, [], blanks_nil, blanks_nil, object, (List.append_nil _).symm⟩

theorem ofJson_of_spellsAll {given : List Setting} {text : List Char} (spelled : Setting.SpellsAll given text) :
    ofJson text = .ok (Setting.setAll given) := by
  have read : Json.parse read text = .ok (Setting.setAll given) :=
    parse_document (fun body spelled => reads_record Setting.fits "struct PluginOptions" .default spelled) spelled
  rw [ofJson, read]
  rfl

/-- Settings are read back as they were written, but for a hook, which is not written. And whatever text gives some
of the settings, each once and with a value of its type, is read as the default settings with these replaced, where
null stands for no value. -/
theorem json_faithful :
    (∀ s : Settings, ofJson s.toJson = .ok { s with modules := { s.modules with hook := none } })
    ∧ ∀ (given : List Setting) (text : List Char), Setting.SpellsAll given text →
      ofJson text = .ok (Setting.setAll given) := by
  refine ⟨fun s => ?_, fun given text spelled => ofJson_of_spellsAll spelled⟩
  rw [ofJson_of_spellsAll s.spellsAll_toJson, setAll_all]

/-- Three of the settings in an order of their own: one is turned off, one has no value, and of those of style modules
the pattern is given. -/
def someGiven : List Setting :=
  [.modules [.pattern (some "/[local]".toList)], .matchComponentName false, .componentExtensions none]

/-- A text with blanks, and with escapes in a name and in a value. -/
def someText : List Char :=
  ("\n\x7b \"cssModules\" : \x7b\"pattern\":\"\\/[local]\"\x7d , \"\\u006DatchComponentName\":false,"
    ++ "\"componentExtensions\":null\x7d ").toList

theorem spellsAll_someText : Setting.SpellsAll someGiven someText := by
  have newline : Blanks "\n".toList := List.all_eq_true.mp (by decide)
  have blank : Blanks " ".toList := List.all_eq_true.mp (by decide)
  have slash : ('/', '/') ∈ escapeLetters := by decide
  have local_ : SpellsString "/[local]".toList "\"\\/[local]\"".toList :=
    ⟨"\\/[local]".toList, .cons (.letter slash) (spellsChars_escaped "[local]".toList), rfl⟩
  have pattern : SpellsParts SpellsMember [("pattern", "\"\\/[local]\"".toList)] _ :=
    .first blanks_nil (.colon (spellsString_quote _) blanks_nil blanks_nil) (.done blanks_nil)
  have modules : Setting.Spells (.modules [.pattern (some "/[local]".toList)])
      "\x7b\"pattern\":\"\\/[local]\"\x7d".toList :=
    ⟨_, .cons ⟨rfl, .some local_⟩ .nil, by decide, _, pattern, by decide⟩
  have off : Setting.Spells (.matchComponentName false) "false".toList := rfl
  have missing : Setting.Spells (.componentExtensions none) "null".toList := .none
  have unit : SpellsUnit 'm'.toNat "006D".toList := ⟨0, 0, 6, 13, by decide, rfl⟩
  have escaped : SpellsString "matchComponentName".toList "\"\\u006DatchComponentName\"".toList :=
    ⟨"\\u006DatchComponentName".toList, .cons (.unit unit) (spellsChars_escaped "atchComponentName".toList), rfl⟩
  have parts : SpellsParts SpellsMember [("cssModules", "\x7b\"pattern\":\"\\/[local]\"\x7d".toList),
      ("matchComponentName", "false".toList), ("componentExtensions", "null".toList)] _ :=
    .first blank (.colon (spellsString_quote _) blank blank)
      (.next blank blank (.colon escaped blanks_nil blanks_nil)
        (.next blanks_nil blanks_nil (.colon (spellsString_quote _) blanks_nil blanks_nil) (.done blanks_nil)))
  have object : SpellsRecord Setting.name Setting.Spells someGiven _ :=
    ⟨_, .cons ⟨rfl, modules⟩ (.cons ⟨rfl, off⟩ (.cons ⟨rfl, missing⟩ .nil)), by decide, _, parts, rfl⟩
  exact ⟨"\n".toList, _, " ".toList, newline, blank, object, by decide +kernel⟩

/-- Settings without extensions of styles are read back without them. What a text does not give is as it is by
default. -/
theorem json_faithful_some :
    ofJson { Settings.default with styleExtensions := none }.toJson
      = .ok { Settings.default with styleExtensions := none }
    ∧ ofJson someText = .ok ⟨false, false, none, none,
      some [".css".toList, ".scss".toList, ".less".toList], ⟨some "/[local]".toList, false, none⟩⟩ :=
  ⟨json_faithful.1 _, json_faithful.2 someGiven someText spellsAll_someText⟩

end Settings

end CompanionStyles
