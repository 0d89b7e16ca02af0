import CompanionStyles.Component.Rewrite
import CompanionStyles.FileTree.Basic
import CompanionStyles.Reload.Tracker
import CompanionStyles.Style.Resolve
import CompanionStyles.VirtualModule.Registry

/-!
The plugin of a build tool. `create` checks the options; `transform` binds a component to its style and
imports the style as a virtual module; `load` serves such modules; `watch` tells which components an
event of a watched file asks to reload. A call that fails leaves the plugin as it was.
-/

namespace CompanionStyles

/-- What the host decides once its own configuration is final. -/
structure HostConfig where
  /-- Whether components are reloaded while they are worked on. -/
  dev : Bool
  modules : Option Style.ModuleOptions
  deriving DecidableEq, Repr

/-- Callbacks of the host, which replace those of the options. -/
structure HostCallbacks where
  componentTest : Option ComponentTest
  styleResolver : Option StyleResolver
  hook : Option ManifestHook
  preprocessors : List (Style.Dialect × Style.Preprocessor)

/-- Options with the callbacks of the host in place of their own. -/
def Options.withCallbacks (o : Options) (c : HostCallbacks) : Options :=
  { settings :=
      { o.settings with modules := { o.settings.modules with hook := c.hook <|> o.settings.modules.hook } }
    componentTest := c.componentTest <|> o.componentTest
    styleResolver := c.styleResolver <|> o.styleResolver }

structure Plugin where
  options : Options
  resolved : ResolvedOptions
  compiler : Style.Compiler
  host : Option HostConfig
  registry : Registry
  tracker : Tracker

/-- A component that has been bound to a style. -/
structure TransformOutput where
  code : String
  map : String
  style : Path
  warnings : List String
  deriving DecidableEq, Repr

namespace Plugin

def name : String :=
  "auto-css-modules"

/-- The message after options have been checked. -/
def configuredText (r : ResolvedOptions) : String :=
  name ++ " configured: filter " ++ r.filter.shown ++ ", strategy " ++ r.strategy.shown

/-- A plugin with checked options. -/
def create (o : Options) : Traced Plugin := do
  let resolved ← Traced.ofExcept o.resolve
  let _ ← Traced.ofExcept o.settings.modules.parsedPattern
  Traced.debug (configuredText resolved)
  return ⟨o, resolved, .empty, none, .empty, .empty⟩

def withPreprocessor (p : Plugin) (dialect : Style.Dialect) (preprocessor : Style.Preprocessor) :
    Plugin :=
  { p with compiler := p.compiler.register dialect preprocessor }

/-- A plugin with callbacks of the host. -/
def createWithCallbacks (o : Options) (c : HostCallbacks) : Traced Plugin := do
  let p ← create (o.withCallbacks c)
  return c.preprocessors.foldl (fun p (dialect, preprocessor) => p.withPreprocessor dialect preprocessor) p

/-- Takes the configuration of the host, once it is right. Only the first one counts. -/
def configResolved (p : Plugin) (config : HostConfig) : Traced Plugin := do
  match config.modules with
  | some modules => let _ ← Traced.ofExcept modules.parsedPattern
  | none => pure ()
  match p.host with
  | some _ =>
    Traced.debug (name ++ ": host config already resolved, ignoring")
    return p
  | none => return { p with host := some config }

def isDev (p : Plugin) : Bool :=
  match p.host with
  | some config => config.dev
  | none => false

/-- How names are scoped; the host's options come before the plugin's own, all of them together. -/
def moduleOptions (p : Plugin) : Style.ModuleOptions :=
  match p.host with
  | some ⟨_, some modules⟩ => modules
  | _ => p.options.settings.modules

/-- The text of a virtual module; other modules are not served. -/
def load (p : Plugin) (id : List Char) : Except Failure (Option (List Char)) :=
  if VirtualModule.isVirtual id then (p.registry.resolveContent id).map some else .ok none

/-- Whether the id belongs to a module that others have resolved, or to a virtual one. -/
def isForeign (id : List Char) : Bool :=
  id.head? == some VirtualModule.resolvedMark || VirtualModule.isVirtual id

/-- The files beside a component, if its directory is there. -/
def listing (p : Plugin) (tree : FileTree) (id : List Char) (directory : Path) :
    Traced (Option (List Path)) :=
  match p.resolved.strategy with
  | .callback _ => pure (some [])
  | _ =>
    match tree.listDirectory directory with
    | .ok paths => pure (some paths)
    | .error .missing | .error .nulInPath => do
      Traced.debug (name ++ ": no directory for " ++ String.ofList id)
      return none
    | .error fault => Traced.fail (.access directory fault)

/-- The warning about several candidates. -/
def warnings (id : List Char) : List Style.Candidate → List String
  | first :: second :: rest =>
    let names := (first :: second :: rest).map fun c => c.path.lossy
    ["Multiple style files match " ++ String.ofList id ++ ": " ++ ", ".intercalate names ++ ". Using "
      ++ first.path.lossy]
  | _ => []

/-- The first candidate, with a warning if there are more. -/
def pick (id : List Char) (candidates : List Style.Candidate) : Traced (Option Style.Candidate) := do
  Traced.write ((warnings id candidates).map (⟨.warn, ·⟩))
  match candidates with
  | first :: _ => return some first
  | [] =>
    Traced.debug (name ++ ": no style file for " ++ String.ofList id)
    return none

/-- The path that a style is registered under: without the mark of modules, its separators slashes. -/
def registryKey (style : Path) : List Char :=
  (Utf8.decodeLossy (Style.normalizedPath style).bytes).map fun c => if c = '\\' then '/' else c

/-- The text and the names of a style file. -/
def styleOf (p : Plugin) (tree : FileTree) (c : Style.Candidate) : Traced Style.Compiled := do
  let source ← Traced.ofExcept ((tree.readText c.path).mapError (.access c.path))
  if c.isModule then p.compiler.compile c.path source p.moduleOptions
  else return Style.passThrough source

/-- A component's source with the import of its style and its classes renamed. -/
def rewritten (code id : List Char) (manifest : Manifest) (styleId : List Char) : Traced PatchOutput := do
  let rewriting := Component.rewrite code id manifest styleId
  Traced.write rewriting.log
  match rewriting.output with
  | some (some output) => return output
  | _ => Traced.fail (.component id "invalid syntax")

/-- The plugin after a component has been bound to a style. -/
def bound (p : Plugin) (id : List Char) (directory style : Path) (css : List Char) : Plugin :=
  { p with
    registry := p.registry.register (registryKey style) css
    tracker := if p.isDev then p.tracker.record id directory style else p.tracker }

/-- The message after a component has been bound. -/
def boundText (id : List Char) (c : Style.Candidate) : String :=
  name ++ ": " ++ String.ofList id ++ " -> " ++ c.path.lossy ++ " ("
    ++ (if c.isModule then "module" else "plain") ++ ")"

/-- Binds a component to one of some candidates. -/
def bind (p : Plugin) (tree : FileTree) (code id : List Char) (directory : Path)
    (candidates : List Style.Candidate) : Traced (Plugin × Option TransformOutput) := do
  match ← pick id candidates with
  | none => return (p, none)
  | some candidate =>
    let style ← p.styleOf tree candidate
    let styleId := VirtualModule.virtualId (registryKey candidate.path) (some style.css)
    let output ← rewritten code id style.manifest styleId
    Traced.debug (boundText id candidate)
    return (p.bound id directory candidate.path style.css,
      some ⟨output.code, output.map, candidate.path, warnings id candidates⟩)

/-- Binds a component to its style. A module that is no component, or has no style, stays as it is. -/
def transform (p : Plugin) (tree : FileTree) (code id : List Char) :
    Traced (Plugin × Option TransformOutput) := do
  if isForeign id then return (p, none)
  else
    let component := Path.ofText (modulePath id)
    let accepted ← p.resolved.filter.accepts component
    match accepted, component.parent with
    | true, some directory =>
      match ← p.listing tree id directory with
      | none => return (p, none)
      | some paths =>
        let candidates ← Style.resolve component paths p.resolved.strategy
        p.bind tree code id directory candidates
    | _, _ => return (p, none)

/-- The ids that an event asks to reload; none unless components are worked on. -/
def reloads (p : Plugin) (e : WatchEvent) : List (List Char) :=
  if p.isDev then p.tracker.affected e else []

/-- Takes an event of a watched file. -/
def watch (p : Plugin) (e : WatchEvent) : Traced (Plugin × List (List Char)) :=
  if p.isDev then do
    Traced.write (p.tracker.eventLog e)
    return ({ p with tracker := p.tracker.after e }, p.reloads e)
  else return (p, [])

end Plugin

end CompanionStyles
