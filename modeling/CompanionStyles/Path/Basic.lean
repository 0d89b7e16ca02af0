import CompanionStyles.Text.Utf8

/-!
Paths as bytes. Separators may repeat, a `.` inside a path names nothing, and a separator at the end
changes nothing: `components` is what a path denotes, and two paths with the same components are
equivalent.
-/

namespace CompanionStyles

/-- A path of bytes, in which `/` separates names. -/
structure Path where
  bytes : Bytes
  deriving DecidableEq, Repr, Inhabited

namespace Path

def separator : UInt8 := 0x2F

def dot : UInt8 := 0x2E

def ofText (text : List Char) : Path :=
  ⟨Utf8.encode text⟩

/-- A path as text, U+FFFD standing for bytes that are no text. -/
def lossy (p : Path) : String :=
  String.ofList (Utf8.decodeLossy p.bytes)

/-- What a path is made of, in order. -/
inductive Component where
  | root
  | current
  | above
  | name (bytes : Bytes)
  deriving DecidableEq, Repr

/-- The text between separators. -/
def pieces : Bytes → List Bytes
  | [] => [[]]
  | b :: rest =>
    if b = separator then [] :: pieces rest
    else
      match pieces rest with
      | [] => [[b]]
      | first :: others => (b :: first) :: others

/-- Bytes that name a file or directory: neither `.` nor `..`, and without a separator. -/
structure IsName (name : Bytes) : Prop where
  nonempty : name ≠ []
  notDot : name ≠ [dot]
  notDots : name ≠ [dot, dot]
  whole : separator ∉ name

/-- A piece inside a path; an empty one and `.` name nothing. -/
def Component.ofPiece? (piece : Bytes) : Option Component :=
  if piece = [] ∨ piece = [dot] then none
  else if piece = [dot, dot] then some .above
  else some (.name piece)

/-- The length of the mark at the start: a root, or a `.` that is a whole piece. -/
def startLength : Bytes → Nat
  | [] => 0
  | b :: rest =>
    if b = separator then 1
    else if b = dot then
      match rest with
      | [] => 1
      | c :: _ => if c = separator then 1 else 0
    else 0

/-- The component at the start: a root, or a `.` that is a whole piece. -/
def start (p : Path) : List Component :=
  match p.bytes with
  | [] => []
  | b :: _ => if startLength p.bytes = 0 then [] else if b = separator then [.root] else [.current]

def components (p : Path) : List Component :=
  p.start ++ (pieces (p.bytes.drop (startLength p.bytes))).filterMap Component.ofPiece?

theorem pieces_cons_ne {b : UInt8} (other : b ≠ separator) (rest : Bytes) :
    ∃ first others, pieces rest = first :: others ∧ pieces (b :: rest) = (b :: first) :: others := by
  have cases : pieces (b :: rest) =
      match pieces rest with
      | [] => [[b]]
      | first :: others => (b :: first) :: others := by
    rw [pieces, if_neg other]
  have nonempty : pieces rest ≠ [] := by
    cases rest with
    | nil => exact List.cons_ne_nil _ _
    | cons c rest =>
      rw [pieces]
      split
      · exact List.cons_ne_nil _ _
      · split <;> exact List.cons_ne_nil _ _
  obtain ⟨first, others, split⟩ := List.exists_cons_of_ne_nil nonempty
  exact ⟨first, others, split, by rw [cases, split]⟩

theorem pieces_append (front back : Bytes) :
    pieces (front ++ separator :: back) = pieces front ++ pieces back := by
  induction front with
  | nil => rfl
  | cons b front ih =>
    by_cases between : b = separator
    · rw [List.cons_append, pieces, if_pos between, pieces, if_pos between, ih, List.cons_append]
    · obtain ⟨first, others, split, pieced⟩ := pieces_cons_ne between front
      obtain ⟨first', others', split', pieced'⟩ := pieces_cons_ne between (front ++ separator :: back)
      rw [ih, split, List.cons_append] at split'
      obtain ⟨rfl, rfl⟩ := List.cons.inj split'
      rw [List.cons_append, pieced', pieced, List.cons_append]

theorem pieces_of_not_mem {name : Bytes} (whole : separator ∉ name) : pieces name = [name] := by
  induction name with
  | nil => rfl
  | cons b name ih =>
    obtain ⟨first, others, split, pieced⟩ := pieces_cons_ne (Ne.symm (List.ne_of_not_mem_cons whole)) name
    rw [ih (List.not_mem_of_not_mem_cons whole)] at split
    obtain ⟨rfl, rfl⟩ := List.cons.inj split
    exact pieced

theorem separator_not_mem_of_mem_pieces {bytes piece : Bytes} (inside : piece ∈ pieces bytes) :
    separator ∉ piece := by
  induction bytes generalizing piece with
  | nil =>
    obtain rfl := List.mem_singleton.mp inside
    exact List.not_mem_nil
  | cons b bytes ih =>
    by_cases between : b = separator
    · rw [pieces, if_pos between] at inside
      rcases List.mem_cons.mp inside with rfl | inside
      · exact List.not_mem_nil
      · exact ih inside
    · obtain ⟨first, others, split, pieced⟩ := pieces_cons_ne between bytes
      rw [pieced] at inside
      rw [split] at ih
      rcases List.mem_cons.mp inside with rfl | inside
      · exact List.not_mem_cons_of_ne_of_not_mem (Ne.symm between) (ih List.mem_cons_self)
      · exact ih (List.mem_cons_of_mem first inside)

/-- The names among the components of a path are names. -/
theorem isName_of_mem_components {p : Path} {name : Bytes} (inside : .name name ∈ p.components) :
    IsName name := by
  rcases List.mem_append.mp inside with first | inside
  · unfold start at first
    split at first
    · simp at first
    · split at first
      · simp at first
      · split at first <;> simp at first
  · obtain ⟨piece, among, named⟩ := List.mem_filterMap.mp inside
    unfold Component.ofPiece? at named
    split at named
    · simp at named
    · rename_i marked
      split at named
      · simp at named
      · rename_i notDots
        obtain rfl := Component.name.inj (Option.some.inj named)
        exact ⟨fun empty => marked (Or.inl empty), fun isDot => marked (Or.inr isDot), notDots,
          separator_not_mem_of_mem_pieces among⟩

/-- Whether two paths denote the same, however they are spelled. -/
def Equivalent (p q : Path) : Prop :=
  p.components = q.components

instance (p q : Path) : Decidable (p.Equivalent q) :=
  inferInstanceAs (Decidable (p.components = q.components))

theorem Equivalent.refl (p : Path) : p.Equivalent p :=
  rfl

theorem Equivalent.symm {p q : Path} (same : p.Equivalent q) : q.Equivalent p :=
  Eq.symm same

theorem Equivalent.trans {p q r : Path} (first : p.Equivalent q) (second : q.Equivalent r) :
    p.Equivalent r :=
  Eq.trans first second

/-- Drops the separators and the `.` pieces at the end of a path that is written backwards. -/
def trimBackwards : Bytes → Bytes
  | [] => []
  | b :: rest =>
    if b = separator then trimBackwards rest
    else if b = dot then
      match rest with
      | [] => []
      | c :: rest' => if c = separator then trimBackwards rest' else b :: c :: rest'
    else b :: rest

/-- The part behind the start, written backwards and without what names nothing at its end. -/
def bodyBackwards (p : Path) : Bytes :=
  trimBackwards (p.bytes.drop (startLength p.bytes)).reverse

/-- The last piece, if it is a name. -/
def fileName (p : Path) : Option Bytes :=
  let last := (p.bodyBackwards.takeWhile (· ≠ separator)).reverse
  if last = [] ∨ last = [dot, dot] then none else some last

/-- The path without its last component; a root and the empty path have no parent. -/
def parent (p : Path) : Option Path :=
  match p.bodyBackwards with
  | [] => if p.start = [.current] then some ⟨[]⟩ else none
  | body =>
    let before := trimBackwards ((body.dropWhile (· ≠ separator)).drop 1)
    some ⟨p.bytes.take (startLength p.bytes) ++ before.reverse⟩

/-- A name before and after its last dot. A name without a dot, or with its only dot in front, has
no second part. -/
def splitName (name : Bytes) : Bytes × Option Bytes :=
  let after := (name.reverse.takeWhile (· ≠ dot)).reverse
  match (name.reverse.dropWhile (· ≠ dot)).reverse.dropLast with
  | [] => (name, none)
  | before => (before, some after)

def fileStem (p : Path) : Option Bytes :=
  p.fileName.map fun name => (splitName name).1

def extension (p : Path) : Option Bytes :=
  p.fileName.bind fun name => (splitName name).2

def isAbsolute (p : Path) : Bool :=
  p.bytes.head? = some separator

/-- The path `q` as seen from the directory `p`. -/
def join (p q : Path) : Path :=
  if q.isAbsolute then q
  else if p.bytes = [] ∨ p.bytes.getLast? = some separator then ⟨p.bytes ++ q.bytes⟩
  else ⟨p.bytes ++ separator :: q.bytes⟩

end Path

end CompanionStyles
