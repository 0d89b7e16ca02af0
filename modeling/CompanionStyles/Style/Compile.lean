import CompanionStyles.Scope.Writing
import CompanionStyles.Stylesheet.Layout
import CompanionStyles.Traced

/-!
Compiling style files: a preprocessor makes CSS of another dialect, the names of a module are scoped, and
a plain stylesheet stays as it is.
-/

namespace CompanionStyles.Style

/-- The pattern of scoped names where none is given. -/
def defaultPattern : List Char :=
  "[hash]_[local]".toList

/-- How the names of modules are scoped. -/
structure ModuleOptions where
  pattern : Option (List Char)
  /-- Whether names that start with two dashes are scoped as well. -/
  dashedIdents : Bool
  hook : Option ManifestHook
  deriving DecidableEq, Repr

namespace ModuleOptions

def default : ModuleOptions :=
  ⟨none, false, none⟩

def effectivePattern (o : ModuleOptions) : List Char :=
  o.pattern.getD defaultPattern

/-- The pattern as it reads. -/
def parsedPattern (o : ModuleOptions) : Except Failure Scope.Pattern :=
  (Scope.Pattern.parse o.effectivePattern).mapError fun fault =>
    .configuration (.scopePattern o.effectivePattern fault)

end ModuleOptions

/-- Makes CSS of the text of a style file. -/
abbrev Preprocessor :=
  Path → List Char → Except StyleFault (List Char)

/-- The preprocessors in the order of their registration. -/
structure Compiler where
  preprocessors : List (Dialect × Preprocessor)

/-- A compiled style: its text, and what its names are called. -/
structure Compiled where
  css : List Char
  manifest : Manifest
  deriving DecidableEq, Repr

/-- A plain stylesheet scopes nothing. -/
def passThrough (source : List Char) : Compiled :=
  ⟨source, .empty⟩

namespace Compiler

def empty : Compiler :=
  ⟨[]⟩

def register (c : Compiler) (dialect : Dialect) (preprocessor : Preprocessor) : Compiler :=
  ⟨c.preprocessors ++ [(dialect, preprocessor)]⟩

/-- The preprocessor of a dialect, the one registered last. -/
def preprocessor? (c : Compiler) (dialect : Dialect) : Option Preprocessor :=
  (c.preprocessors.reverse.find? fun entry => entry.1 == dialect).map (·.2)

def dialectShown : Dialect → String
  | .css => "Css"
  | .scss => "Scss"
  | .less => "Less"

/-- How a compiler is shown: the dialects that it has preprocessors for. -/
def shown (c : Compiler) : String :=
  let dialects := (c.preprocessors.map (·.1)).eraseDups
  "StyleCompiler \x7b preprocessors: [" ++ ", ".intercalate (dialects.map dialectShown) ++ "] \x7d"

/-- The CSS of a style file. -/
def preprocess (c : Compiler) (path : Path) (source : List Char) : Traced (List Char) :=
  let dialect := Dialect.ofPath path
  match c.preprocessor? dialect with
  | none => pure source
  | some preprocessor => do
    Traced.call (.preprocess dialect path source)
    Traced.ofExcept ((preprocessor path source).mapError .style)

end Compiler

/-- A fault of a stylesheet as a fault of its file. -/
def faultIn (file : List Char) (fault : Stylesheet.Fault) : StyleFault :=
  match fault.place with
  | some place => ⟨file, place.line, place.column, fault.cause.message⟩
  | none => .unplaced file fault.cause.message

/-- A stylesheet with its names scoped, and the names that this makes known. -/
def scopeSheet (file : List Char) (pattern : Scope.Pattern) (dashed : Bool) (css : List Char) :
    Except Stylesheet.Fault Scope.Written := do
  let sheet ← Stylesheet.Sheet.parse dashed css
  Scope.Written.empty.phrase (.ofSheet pattern dashed file css) sheet.phrase

/-- The messages after a stylesheet has been compiled. -/
def compiledLog (file : List Char) (table : Scope.Exports) : List LogLine :=
  table.warnings file ++
    [⟨.debug, s!"compiled {String.ofList file} ({table.manifest.size} scoped names)"⟩]

/-- Compiles a style file as a module. -/
def Compiler.compile (c : Compiler) (path : Path) (source : List Char) (options : ModuleOptions) :
    Traced Compiled := do
  let file := Utf8.decodeLossy path.bytes
  let css ← c.preprocess path source
  let pattern ← Traced.ofExcept options.parsedPattern
  let written ← Traced.ofExcept
    ((scopeSheet file pattern options.dashedIdents css).mapError fun f => .style (faultIn file f))
  let manifest := written.table.manifest
  Traced.write (compiledLog file written.table)
  match options.hook with
  | some hook => Traced.call (.manifestHook hook path manifest)
  | none => pure ()
  return ⟨written.text, manifest⟩

end CompanionStyles.Style
