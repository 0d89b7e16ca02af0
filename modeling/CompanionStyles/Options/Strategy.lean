import CompanionStyles.Options.Basic

/-!
Strategies: options once they have been checked. A filter tells components, and exactly one way to find
styles is left: a callback before a glob before extensions.
-/

namespace CompanionStyles

/-- The name of a path's file as text; none is empty. -/
def Path.fileNameText (p : Path) : List Char :=
  Utf8.decodeLossy (p.fileName.getD [])

inductive ComponentFilter where
  | callback (test : ComponentTest)
  | extensions (extensions : List (List Char))

namespace ComponentFilter

def ofOptions (o : Options) : Except Failure ComponentFilter :=
  match o.componentTest, o.settings.componentExtensions with
  | some test, _ => .ok (.callback test)
  | none, some exts => .ok (.extensions exts)
  | none, none => .error (.configuration .noComponentFilter)

/-- Whether a file name has an extension and more in front of it. -/
def hasExtension (fileName extension : List Char) : Bool :=
  match Text.dropBack? extension fileName with
  | some front => !front.isEmpty
  | none => false

def accepts (f : ComponentFilter) (path : Path) : Traced Bool :=
  let fileName := path.fileNameText
  match f with
  | callback test => do
    Traced.call (.filter fileName path)
    return test ⟨fileName, path⟩
  | extensions exts => pure (exts.any (hasExtension fileName))

def shown : ComponentFilter → String
  | callback _ => "Callback"
  | extensions exts => "Extensions(" ++ Options.shownTexts exts ++ ")"

end ComponentFilter

/-- A glob that reads as a pattern of file names. -/
structure StyleGlob where
  text : List Char
  tokens : List Glob.Token

def StyleGlob.parse (text : List Char) : Except Failure StyleGlob :=
  match Glob.parse text with
  | .ok tokens => .ok ⟨text, tokens⟩
  | .error cause => .error (.configuration (.styleGlob text cause))

inductive StyleStrategy where
  | callback (resolver : StyleResolver)
  | glob (glob : StyleGlob) (alwaysModule : Bool)
  | extensions (extensions : List (List Char)) (matchComponentName alwaysModule : Bool)

namespace StyleStrategy

def ofOptions (o : Options) : Except Failure StyleStrategy :=
  let s := o.settings
  match o.styleResolver, s.styleGlob, s.styleExtensions with
  | some resolver, _, _ => .ok (.callback resolver)
  | none, some text, _ => (StyleGlob.parse text).map (.glob · s.allStylesAsModules)
  | none, none, some exts => .ok (.extensions exts s.matchComponentName s.allStylesAsModules)
  | none, none, none => .error (.configuration .noStyleStrategy)

def shown : StyleStrategy → String
  | callback _ => "Callback"
  | glob g alwaysModule =>
    Options.shownRecord "ExplicitGlob"
      [("pattern", Options.shownText g.text), ("always_module", toString alwaysModule)]
  | extensions exts matchComponentName alwaysModule =>
    Options.shownRecord "ExtensionDerived" [
      ("extensions", Options.shownTexts exts),
      ("match_component_name", toString matchComponentName),
      ("always_module", toString alwaysModule)]

end StyleStrategy

/-- Options that have been checked. -/
structure ResolvedOptions where
  filter : ComponentFilter
  strategy : StyleStrategy

def Options.resolve (o : Options) : Except Failure ResolvedOptions := do
  return ⟨← ComponentFilter.ofOptions o, ← StyleStrategy.ofOptions o⟩

end CompanionStyles
