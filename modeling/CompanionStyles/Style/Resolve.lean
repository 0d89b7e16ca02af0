import CompanionStyles.Options.Strategy

/-!
Finding styles: which of the files beside a component belong to it. The files are in the order of a
listing, and for extensions those of an earlier extension come first.
-/

namespace CompanionStyles.Style

/-- The file name of a component without its extension, as text. -/
def componentStem (component : Path) : List Char :=
  Utf8.decodeLossy (component.fileStem.getD [])

/-- The question about the style of a component. -/
def styleQuery (component : Path) : StyleQuery :=
  ⟨componentStem component, component.parent.getD ⟨[]⟩, component⟩

/-- Hidden files show only to a glob that starts with a dot itself. -/
def isVisible (glob : List Char) (name : Bytes) : Bool :=
  name.head? != some Path.dot || glob.head? == some '.'

/-- Whether the file name of a path is text and matches a glob. -/
def matchesGlob (glob : StyleGlob) (path : Path) : Bool :=
  match path.fileName with
  | some name =>
    (Utf8.decode? name).isSome && isVisible glob.text name && Glob.isMatch glob.tokens name
  | none => false

/-- The glob of the names with an extension, which for some stem start with it. -/
def extensionGlob (stem extension : List Char) : List Char :=
  Glob.escape stem ++ '*' :: Glob.escape extension

/-- Adds the paths that are not among those before. -/
def addNew (found : List Path) (paths : List Path) : List Path :=
  paths.foldl
    (fun found p => if found.any fun q => decide (q.Equivalent p) then found else found ++ [p]) found

/-- The paths that match any of some extensions. -/
def extensionMatches (stem : List Char) (listing : List Path) :
    List (List Char) → List Path → Except Failure (List Path)
  | [], found => .ok found
  | extension :: extensions, found => do
    let glob ← StyleGlob.parse (extensionGlob stem extension)
    extensionMatches stem listing extensions (addNew found (listing.filter (matchesGlob glob)))

/-- The candidates for the style of a component among the files beside it. -/
def resolve (component : Path) (listing : List Path) (strategy : StyleStrategy) :
    Traced (List Candidate) :=
  match strategy with
  | .callback resolver => do
    let query := styleQuery component
    Traced.call (.resolver query.componentName query.directory query.component)
    return (resolver query).toList
  | .glob glob alwaysModule =>
    pure ((listing.filter (matchesGlob glob)).map (Candidate.classify · alwaysModule))
  | .extensions extensions matchComponentName alwaysModule => do
    let stem := if matchComponentName then componentStem component else []
    let found ← Traced.ofExcept (extensionMatches stem listing extensions [])
    return found.map (Candidate.classify · alwaysModule)

/-- Finds candidates by options that have not been checked yet. -/
def resolveFromOptions (component : Path) (listing : List Path) (o : Options) :
    Traced (List Candidate) := do
  resolve component listing (← Traced.ofExcept (StyleStrategy.ofOptions o))

end CompanionStyles.Style
