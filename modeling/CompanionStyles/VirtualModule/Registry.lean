import CompanionStyles.Failure
import CompanionStyles.VirtualModule.Id

/-!
The registry of virtual modules: compiled CSS by the path it is served under.
-/

namespace CompanionStyles

/-- One entry for a path. -/
structure Registry where
  entries : List (List Char × List Char)
  deriving DecidableEq, Repr

namespace Registry

def empty : Registry :=
  ⟨[]⟩

def get? (r : Registry) (path : List Char) : Option (List Char) :=
  r.entries.lookup path

/-- The last text for a path counts. -/
def register (r : Registry) (path css : List Char) : Registry :=
  ⟨(path, css) :: r.entries.filter fun entry => entry.1 ≠ path⟩

/-- The id of a path with what is registered for it. -/
def generateId (r : Registry) (path : List Char) : List Char :=
  VirtualModule.virtualId path (r.get? path)

/-- The text behind an id. What cannot be found is told by its path, or by the id if that names none. -/
def resolveContent (r : Registry) (id : List Char) : Except Failure (List Char) :=
  match VirtualModule.decodeId id with
  | none => .error (.moduleNotFound id)
  | some path =>
    match r.get? path with
    | none => .error (.moduleNotFound path)
    | some css => .ok css

end Registry

end CompanionStyles
