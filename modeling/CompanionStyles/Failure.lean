import CompanionStyles.Glob.Basic
import CompanionStyles.Json.Fault
import CompanionStyles.Path.Basic
import CompanionStyles.Scope.Pattern

/-!
Failures: what an operation can end with instead of a result, and how it is said.
-/

namespace CompanionStyles

/-- What is wrong with a configuration. -/
inductive Misconfiguration where
  | scopePattern (text : List Char) (fault : Scope.PatternFault)
  | styleGlob (text : List Char) (cause : Glob.Cause)
  | options (fault : Json.Fault)
  | noComponentFilter
  | noStyleStrategy
  | other (text : String)
  deriving DecidableEq, Repr

def Misconfiguration.message : Misconfiguration → String
  | scopePattern text fault =>
    "Invalid CSS modules pattern '" ++ String.ofList text ++ "': " ++ fault.message
  | styleGlob text cause =>
    "Invalid style glob '" ++ String.ofList text ++ "': error parsing glob '" ++ String.ofList text
      ++ "': " ++ cause.message
  | options fault => "Invalid plugin options: " ++ fault.message
  | noComponentFilter => "Either 'shouldTransformComponent' or 'componentExtensions' is required"
  | noStyleStrategy =>
    "One of 'resolveStyleForComponent', 'styleGlob' or 'styleExtensions' is required"
  | other text => text

/-- What is wrong with a stylesheet, at a line and a column that are counted from one. -/
structure StyleFault where
  file : List Char
  line : Nat
  column : Nat
  reason : String
  deriving DecidableEq, Repr

namespace StyleFault

/-- A fault without a place shows at the start. -/
def unplaced (file : List Char) (reason : String) : StyleFault :=
  ⟨file, 1, 1, reason⟩

def message (f : StyleFault) : String :=
  String.ofList f.file ++ ":" ++ toString f.line ++ ":" ++ toString f.column ++ ": " ++ f.reason

end StyleFault

/-- Why a file or a directory cannot be read. -/
inductive AccessFault where
  | missing
  | notDirectory
  | isDirectory
  | nameTooLong
  | notText
  | nulInPath
  | other (text : String)
  deriving DecidableEq, Repr

def AccessFault.message : AccessFault → String
  | missing => "No such file or directory (os error 2)"
  | notDirectory => "Not a directory (os error 20)"
  | isDirectory => "Is a directory (os error 21)"
  | nameTooLong => "File name too long (os error 36)"
  | notText => "stream did not contain valid UTF-8"
  | nulInPath => "file name contained an unexpected NUL byte"
  | other text => text

inductive Failure where
  | configuration (fault : Misconfiguration)
  | style (fault : StyleFault)
  /-- No virtual module of that name. -/
  | moduleNotFound (name : List Char)
  | component (id : List Char) (reason : String)
  | access (path : Path) (fault : AccessFault)
  deriving DecidableEq, Repr

def Failure.message : Failure → String
  | configuration fault => fault.message
  | style fault => fault.message
  | moduleNotFound name => "Failed to resolve CSS module " ++ String.ofList name
  | component id reason => "Failed to parse component " ++ String.ofList id ++ ": " ++ reason
  | access path fault => "Failed to read " ++ path.lossy ++ ": " ++ fault.message

end CompanionStyles
