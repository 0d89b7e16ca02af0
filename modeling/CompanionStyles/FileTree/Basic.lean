import CompanionStyles.Failure

/-!
Trees of files, with the place of the working directory. A path is followed name by name through directories, from
the root if it is absolute and else from the working directory.
-/

namespace CompanionStyles

/-- The names from the root down to a file or directory. -/
abbrev Place := List Bytes

inductive FileEntry where
  | file (content : Bytes)
  | directory
  deriving DecidableEq, Repr

/-- What is at which place: one entry at a place, and places made of names. Relative paths start at `home`. -/
structure FileTree where
  entries : List (Place × FileEntry)
  home : Place
  unique : (entries.map Prod.fst).Nodup
  named : ∀ entry ∈ entries, ∀ name ∈ entry.1, Path.IsName name
  homeNamed : ∀ name ∈ home, Path.IsName name
  deriving DecidableEq, Repr

namespace FileTree

/-- Nothing but the root, which is the working directory. -/
def empty : FileTree :=
  ⟨[], [], List.nodup_nil, fun _ inside => absurd inside List.not_mem_nil,
    fun _ inside => absurd inside List.not_mem_nil⟩

/-- What is at a place; the root is always there. -/
def get? (t : FileTree) (place : Place) : Option FileEntry :=
  if place = [] then some .directory else t.entries.lookup place

/-- The greatest length of a name. -/
def nameLimit : Nat :=
  255

/-- The greatest length of a path. -/
def pathLimit : Nat :=
  4095

/-- Follows the pieces of a path from a place on. -/
def follow (t : FileTree) : Place → List Bytes → Except AccessFault Place
  | place, [] => .ok place
  | place, piece :: rest =>
    match t.get? place with
    | none => .error .missing
    | some (.file _) => .error .notDirectory
    | some .directory =>
      if piece = [] ∨ piece = [Path.dot] then follow t place rest
      else if piece = [Path.dot, Path.dot] then follow t place.dropLast rest
      else if nameLimit < piece.length then .error .nameTooLong
      else if (t.get? (place ++ [piece])).isNone then .error .missing
      else follow t (place ++ [piece]) rest

/-- The place that a path is followed from. -/
def start (t : FileTree) (p : Path) : Place :=
  if p.isAbsolute then [] else t.home

/-- The place that a path leads to. -/
def locate (t : FileTree) (p : Path) : Except AccessFault Place :=
  if 0 ∈ p.bytes then .error .nulInPath
  else if p.bytes = [] then .error .missing
  else if pathLimit < p.bytes.length then .error .nameTooLong
  else t.follow (t.start p) (Path.pieces p.bytes)

/-- The name of a file that lies directly in a directory. -/
def childName? (directory : Place) : Place × FileEntry → Option Bytes
  | (place, .file _) =>
    match place.getLast? with
    | some name => if place.dropLast = directory then some name else none
    | none => none
  | (_, .directory) => none

/-- The names of the files in a directory, in increasing order. -/
def fileNames (t : FileTree) (directory : Place) : List Bytes :=
  (t.entries.filterMap (childName? directory)).mergeSort fun a b => decide (a ≤ b)

/-- The paths of the files in a directory, in the order of their names. -/
def listDirectory (t : FileTree) (directory : Path) : Except AccessFault (List Path) := do
  let place ← t.locate directory
  match t.get? place with
  | some .directory => return (t.fileNames place).map fun name => directory.join ⟨name⟩
  | some (.file _) => .error .notDirectory
  | none => .error .missing

/-- The text of a file. -/
def readText (t : FileTree) (p : Path) : Except AccessFault (List Char) := do
  let place ← t.locate p
  match t.get? place with
  | some (.file content) =>
    match Utf8.decode? content with
    | some text => return text
    | none => .error .notText
  | some .directory => .error .isDirectory
  | none => .error .missing

/-- The place that a component leads to from another. -/
def enter (place : Place) : Path.Component → Place
  | .root => []
  | .current => place
  | .above => place.dropLast
  | .name bytes => place ++ [bytes]

/-- The place that a path names, whether or not anything is there. -/
def placeOf (t : FileTree) (p : Path) : Place :=
  p.components.foldl enter t.home

theorem isName_of_mem_enter {place : Place} {component : Path.Component}
    (named : ∀ name ∈ place, Path.IsName name) (proper : ∀ name, component = .name name → Path.IsName name) :
    ∀ name ∈ enter place component, Path.IsName name := by
  intro name inside
  cases component with
  | root => exact absurd inside List.not_mem_nil
  | current => exact named name inside
  | above => exact named name ((List.dropLast_sublist place).mem inside)
  | name bytes =>
    rcases List.mem_append.mp inside with inside | last
    · exact named name inside
    · obtain rfl := List.mem_singleton.mp last
      exact proper name rfl

theorem isName_of_mem_placeOf {t : FileTree} {p : Path} {name : Bytes} (inside : name ∈ t.placeOf p) :
    Path.IsName name := by
  have step : ∀ (components : List Path.Component) (place : Place),
      (∀ name, .name name ∈ components → Path.IsName name) → (∀ name ∈ place, Path.IsName name) →
      ∀ name ∈ components.foldl enter place, Path.IsName name := by
    intro components
    induction components with
    | nil => exact fun place _ named => named
    | cons component components ih =>
      intro place proper named
      refine ih (enter place component) (fun name inside => proper name (List.mem_cons_of_mem _ inside)) ?_
      refine isName_of_mem_enter named fun name same => proper name ?_
      exact same ▸ List.mem_cons_self
  exact step p.components t.home (fun _ => Path.isName_of_mem_components) t.homeNamed name inside

/-- The entries that pass a test. -/
def keepEntries (t : FileTree) (keep : Place × FileEntry → Bool) : FileTree :=
  { t with
    entries := t.entries.filter keep
    unique := t.unique.sublist (List.filter_sublist.map Prod.fst)
    named := fun entry inside => t.named entry (List.mem_filter.mp inside).1 }

/-- Puts an entry in its place. -/
def put (t : FileTree) (place : Place) (named : ∀ name ∈ place, Path.IsName name) (entry : FileEntry) :
    FileTree where
  entries := t.entries.filter (fun e => e.1 ≠ place) ++ [(place, entry)]
  home := t.home
  unique := by
    rw [List.map_append, List.map_singleton]
    refine List.nodup_append.mpr ⟨(t.keepEntries _).unique, List.pairwise_singleton _ place, ?_⟩
    intro other inside last isLast same
    obtain ⟨e, kept, rfl⟩ := List.mem_map.mp inside
    have elsewhere := (List.mem_filter.mp kept).2
    exact of_decide_eq_true elsewhere (same.trans (List.mem_singleton.mp isLast))
  named := by
    intro e inside
    rcases List.mem_append.mp inside with inside | last
    · exact t.named e (List.mem_filter.mp inside).1
    · obtain rfl := List.mem_singleton.mp last
      exact named
  homeNamed := t.homeNamed

/-- Makes a directory, unless something is there. -/
def makeDirectory (t : FileTree) (place : Place) (named : ∀ name ∈ place, Path.IsName name) : FileTree :=
  if (t.get? place).isSome then t else t.put place named .directory

/-- Makes the directories on the way to a place. -/
def makeParents (t : FileTree) (place : Place) (named : ∀ name ∈ place, Path.IsName name) : FileTree :=
  (List.range place.length).foldl (fun t n =>
    t.makeDirectory (place.take n) fun name inside => named name (List.mem_of_mem_take inside)) t

def writeFile (t : FileTree) (p : Path) (content : Bytes) : FileTree :=
  (t.makeParents (t.placeOf p) fun _ => isName_of_mem_placeOf).put (t.placeOf p)
    (fun _ => isName_of_mem_placeOf) (.file content)

def addDirectory (t : FileTree) (p : Path) : FileTree :=
  (t.makeParents (t.placeOf p) fun _ => isName_of_mem_placeOf).makeDirectory (t.placeOf p)
    fun _ => isName_of_mem_placeOf

/-- Makes a directory the working directory, and makes it if nothing is there. -/
def enterDirectory (t : FileTree) (p : Path) : FileTree :=
  { t.addDirectory p with
    home := t.placeOf p
    homeNamed := fun _ => isName_of_mem_placeOf }

/-- Removes a file, or a directory with all that is in it. -/
def remove (t : FileTree) (p : Path) : FileTree :=
  t.keepEntries fun e => !(t.placeOf p).isPrefixOf e.1

end FileTree

end CompanionStyles
