import CompanionStyles.ModuleId
import CompanionStyles.Path.Basic
import CompanionStyles.Text.Shown
import CompanionStyles.Trace

/-!
Tracking for reloads: which components were bound to which style file and which directory, and which of
them an event of a watched file asks to reload. Paths that denote the same are one path.
-/

namespace CompanionStyles

/-- The ids of components by path, no path twice, no set of ids empty and each in increasing order. -/
structure Associations where
  entries : List (Path × List (List Char))
  distinct : entries.Pairwise fun e f => ¬e.1.Equivalent f.1
  deriving DecidableEq, Repr

namespace Associations

def empty : Associations :=
  ⟨[], List.Pairwise.nil⟩

def get (a : Associations) (path : Path) : List (List Char) :=
  match a.entries.find? fun entry => decide (entry.1.Equivalent path) with
  | some (_, ids) => ids
  | none => []

/-- Puts an id in its place. -/
def insertId (id : List Char) : List (List Char) → List (List Char)
  | [] => [id]
  | other :: rest =>
    if id = other then other :: rest
    else if id < other then id :: other :: rest
    else other :: insertId id rest

/-- Adds an id to those of a path. -/
def insertEntry (path : Path) (id : List Char) :
    List (Path × List (List Char)) → List (Path × List (List Char))
  | [] => [(path, [id])]
  | (key, ids) :: rest =>
    if key.Equivalent path then (key, insertId id ids) :: rest
    else (key, ids) :: insertEntry path id rest

theorem insertEntry_keys {path : Path} {id : List Char} {entries : List (Path × List (List Char))}
    {e : Path × List (List Char)} (inside : e ∈ insertEntry path id entries) :
    e.1 = path ∨ ∃ f ∈ entries, f.1 = e.1 := by
  induction entries with
  | nil =>
    obtain rfl := List.mem_singleton.mp inside
    exact Or.inl rfl
  | cons first rest ih =>
    obtain ⟨key, ids⟩ := first
    rw [insertEntry] at inside
    split at inside
    · rcases List.mem_cons.mp inside with rfl | inside
      · exact Or.inr ⟨(key, ids), List.mem_cons_self, rfl⟩
      · exact Or.inr ⟨e, List.mem_cons_of_mem _ inside, rfl⟩
    · rcases List.mem_cons.mp inside with rfl | inside
      · exact Or.inr ⟨(key, ids), List.mem_cons_self, rfl⟩
      · rcases ih inside with same | ⟨f, among, same⟩
        · exact Or.inl same
        · exact Or.inr ⟨f, List.mem_cons_of_mem _ among, same⟩

theorem insertEntry_distinct (path : Path) (id : List Char) {entries : List (Path × List (List Char))}
    (distinct : entries.Pairwise fun e f => ¬e.1.Equivalent f.1) :
    (insertEntry path id entries).Pairwise fun e f => ¬e.1.Equivalent f.1 := by
  induction entries with
  | nil => exact List.pairwise_singleton _ _
  | cons first rest ih =>
    obtain ⟨key, ids⟩ := first
    obtain ⟨others, distinct⟩ := List.pairwise_cons.mp distinct
    rw [insertEntry]
    split
    · exact List.pairwise_cons.mpr ⟨others, distinct⟩
    · rename_i new
      refine List.pairwise_cons.mpr ⟨fun e inside same => ?_, ih distinct⟩
      rcases insertEntry_keys inside with at_path | ⟨f, among, at_key⟩
      · exact new (at_path ▸ same)
      · exact others f among (at_key ▸ same)

/-- Adds an id to those of a path. -/
def insert (a : Associations) (path : Path) (id : List Char) : Associations :=
  ⟨insertEntry path id a.entries, insertEntry_distinct path id a.distinct⟩

def erase (a : Associations) (path : Path) : Associations :=
  ⟨a.entries.filter fun entry => !decide (entry.1.Equivalent path), a.distinct.filter _⟩

/-- Keeps the ids that pass, and the paths that any of them is left of. -/
def keepIds (a : Associations) (keep : List Char → Bool) : Associations :=
  ⟨(a.entries.map fun entry => (entry.1, entry.2.filter keep)).filter fun entry => !entry.2.isEmpty,
    (List.pairwise_map.mpr a.distinct).filter _⟩

/-- Whether an id passes a test. -/
def anyId (a : Associations) (test : List Char → Bool) : Bool :=
  a.entries.any fun entry => entry.2.any test

end Associations

/-- What happened to a watched file or directory. -/
inductive WatchKind where
  | add
  | change
  | unlink
  | unlinkDir
  deriving DecidableEq, Repr

structure WatchEvent where
  kind : WatchKind
  path : Path
  deriving DecidableEq, Repr

namespace WatchKind

/-- The kind that a watcher calls by a name. -/
def ofName? (name : String) : Option WatchKind :=
  if name = "add" then some add
  else if name = "change" then some change
  else if name = "unlink" then some unlink
  else if name = "unlinkDir" then some unlinkDir
  else none

def shown : WatchKind → String
  | add => "Add"
  | change => "Change"
  | unlink => "Unlink"
  | unlinkDir => "UnlinkDir"

end WatchKind

def WatchEvent.shown (e : WatchEvent) : String :=
  e.kind.shown ++ "(" ++ String.ofList (Text.shownBytes e.path.bytes) ++ ")"

/-- The path of an event as the text that ids are compared with. -/
def WatchEvent.component (e : WatchEvent) : List Char :=
  Utf8.decodeLossy e.path.bytes

structure Tracker where
  byDirectory : Associations
  byStyle : Associations
  deriving DecidableEq, Repr

namespace Tracker

def empty : Tracker :=
  ⟨.empty, .empty⟩

/-- Remembers what a component was bound to. -/
def record (t : Tracker) (id : List Char) (directory style : Path) : Tracker :=
  ⟨t.byDirectory.insert directory id, t.byStyle.insert style id⟩

def componentsForStyle (t : Tracker) (style : Path) : List (List Char) :=
  t.byStyle.get style

def componentsInDirectory (t : Tracker) (directory : Path) : List (List Char) :=
  t.byDirectory.get directory

def isTrackedDirectory (t : Tracker) (directory : Path) : Bool :=
  t.byDirectory.entries.any fun entry => decide (entry.1.Equivalent directory)

/-- Whether an id names the component at a path, whatever its query. -/
def names (component : List Char) (id : List Char) : Bool :=
  modulePath id = component

/-- Forgets every id that names a component. -/
def forget (t : Tracker) (component : List Char) : Tracker :=
  ⟨t.byDirectory.keepIds fun id => !names component id,
    t.byStyle.keepIds fun id => !names component id⟩

def knows (t : Tracker) (component : List Char) : Bool :=
  t.byDirectory.anyId (names component) || t.byStyle.anyId (names component)

/-- The ids that an event asks to reload. -/
def affected (t : Tracker) (e : WatchEvent) : List (List Char) :=
  match e.kind with
  | .add =>
    match e.path.parent with
    | some directory => t.componentsInDirectory directory
    | none => []
  | .change => t.componentsForStyle e.path
  | .unlink => t.componentsForStyle e.path
  | .unlinkDir => []

/-- The tracker after an event: a removed file is no style any more and no component, a removed
directory has no components. -/
def after (t : Tracker) (e : WatchEvent) : Tracker :=
  match e.kind with
  | .add => t
  | .change => t
  | .unlink =>
    ({ t with byStyle := t.byStyle.erase e.path } : Tracker).forget e.component
  | .unlinkDir => { t with byDirectory := t.byDirectory.erase e.path }

/-- Takes an event. The tracker changes first; then the ids that the event asks to reload are handed over
one after the other to a reloader, which may use the tracker in turn. -/
def handle {m : Type → Type} [Monad m] (e : WatchEvent) (reload : List Char → StateT Tracker m Unit) :
    StateT Tracker m (List (List Char)) := do
  let t ← get
  set (t.after e)
  (t.affected e).forM reload
  return t.affected e

/-- The message about components that are forgotten. -/
def forgottenLog (t : Tracker) (e : WatchEvent) : List LogLine :=
  let rest : Tracker := { t with byStyle := t.byStyle.erase e.path }
  if e.kind = .unlink ∧ rest.knows e.component then
    [⟨.debug, "forgot deleted component " ++ String.ofList e.component⟩]
  else []

/-- The messages about an event. -/
def eventLog (t : Tracker) (e : WatchEvent) : List LogLine :=
  t.forgottenLog e ++ (t.affected e).map fun id =>
    ⟨.debug, "reloading " ++ String.ofList id ++ " after " ++ e.shown⟩

end Tracker

end CompanionStyles
