import CompanionStyles.Component.Leaf

/-!
Readers of component source. A reader's state carries the proof that the leaves taken so far and the
text that is left make up the source, that no leaf is empty, that each was read as a leaf of its kind, and
that up to the first turn they are where a scan of the source finds them: `Reader.read?` gives a tree of
such leaves.
-/

namespace CompanionStyles.Component

/-- What is known of the leaves taken from a source and of the text behind them; `turned` tells that
one of them is a turn. -/
structure Taken (source : List Char) (leaves : List Leaf) (rest : List Char) (turned : Bool) : Prop where
  whole : leaves.flatMap Leaf.text ++ rest = source
  solid : ∀ leaf ∈ leaves, leaf.text ≠ []
  found : ∀ leaf ∈ leaves, Leaf.Found leaf
  plain : Leaf.Plain leaves rest
  turn : turned = true → ∃ leaf ∈ leaves, Leaf.isTurn leaf.text = true

theorem Taken.none (source : List Char) : Taken source [] source false :=
  ⟨by simp, by simp, by simp, trivial, by simp⟩

/-- One more leaf is taken. -/
theorem Taken.push {source : List Char} {leaves : List Leaf} {rest : List Char} {turned : Bool}
    (leaf : Leaf) (turned' : Bool) (taken : Taken source leaves (leaf.text ++ rest) turned)
    (solid : leaf.text ≠ []) (found : Leaf.Found leaf)
    (next : turned = false →
      Leaf.isTurn (leaf.text ++ rest) = true ∨ Leaf.Scanned leaf (leaf.text ++ rest))
    (later : turned' = true → turned = true ∨ Leaf.isTurn leaf.text = true) :
    Taken source (leaves ++ [leaf]) rest turned' := by
  have turn : turned = true → ∃ other ∈ leaves ++ [leaf], Leaf.isTurn other.text = true := by
    intro h
    obtain ⟨other, member, isTurn⟩ := taken.turn h
    exact ⟨other, List.mem_append_left _ member, isTurn⟩
  refine ⟨?_, ?_, ?_, ?_, ?_⟩
  · simpa using taken.whole
  · intro other member
    rcases List.mem_append.mp member with old | new
    · exact taken.solid other old
    · rw [List.mem_singleton.mp new]
      exact solid
  · intro other member
    rcases List.mem_append.mp member with old | new
    · exact taken.found other old
    · rw [List.mem_singleton.mp new]
      exact found
  · refine taken.plain.append ?_
    cases h : turned with
    | true => exact Or.inl (taken.turn h)
    | false =>
      refine Or.inr ((next h).imp_left fun isTurn => ?_)
      rwa [Leaf.isTurn_append solid] at isTurn
  · intro h
    rcases later h with before | here
    · exact turn before
    · exact ⟨leaf, List.mem_append_right _ (List.mem_singleton.mpr rfl), here⟩

/-- A place in the source: the finished trees, the last one first; the blanks that follow them; the
leaf at hand; and the text behind it. -/
structure State (source : List Char) where
  trees : List Syntax
  blanks : List Char
  kind : LeafKind
  leaf : List Char
  rest : List Char
  /-- Whether a line ends among the blanks. -/
  broken : Bool
  /-- Whether a turn is among the leaves of the finished trees. -/
  turned : Bool
  taken : Taken source (Syntax.leavesOfAll trees.reverse) (blanks ++ (leaf ++ rest)) turned
  found : Leaf.Found ⟨kind, leaf⟩
  spaced : turned = false → Leaf.Scanned ⟨.blank, blanks⟩ (blanks ++ (leaf ++ rest)) ∨ blanks = []
  ready : turned = false → Leaf.isTurn (leaf ++ rest) = true ∨ Leaf.Scanned ⟨kind, leaf⟩ (leaf ++ rest)

/-- What the leaf after the one at hand can be. -/
inductive Surroundings where
  | code
  /-- The text between tags, in which blanks count. -/
  | markup
  deriving DecidableEq, Repr

namespace State

variable {source : List Char}

/-- The state in front of `text`, with `trees` finished. Text of markup follows a turn only. -/
def before (trees : List Syntax) (text : List Char) (turned : Bool)
    (taken : Taken source (Syntax.leavesOfAll trees.reverse) text turned) :
    (next : Surroundings) → (next = .markup → turned = true) → State source
  | .code, _ =>
    let blanks := Leaf.blanks text.length text
    let behind := text.drop blanks.1
    let leaf := Leaf.read behind
    { trees := trees, blanks := text.take blanks.1, kind := leaf.1, leaf := behind.take leaf.2,
      rest := behind.drop leaf.2, broken := blanks.2, turned := turned,
      taken := by simpa only [behind, List.take_append_drop] using taken
      found := Or.inr ⟨.code, behind, rfl, rfl⟩
      spaced := fun _ => Or.inl (Or.inl ⟨rfl, by simp only [behind, List.take_append_drop, blanks]⟩)
      ready := fun _ => Or.inr (Or.inr (by simp only [List.take_append_drop, leaf, and_self])) }
  | .markup, follows =>
    let leaf := Leaf.readMarkupText text
    { trees := trees, blanks := [], kind := leaf.1, leaf := text.take leaf.2,
      rest := text.drop leaf.2, broken := false, turned := turned,
      taken := by simpa only [List.nil_append, List.take_append_drop] using taken
      found := Or.inr ⟨.markupText, text, rfl, rfl⟩
      spaced := fun _ => Or.inr rfl
      ready := fun h => absurd (follows rfl) (by simp [h]) }

/-- The state at the start of a source. A first line that names an interpreter counts as a blank. -/
def initial : (text : List Char) → State text
  | '#' :: '!' :: rest =>
    let length := Leaf.lineCommentLength rest
    before [.leaf .blank ('#' :: '!' :: rest.take length)] (rest.drop length) true
      ⟨by simp [length, List.take_append_drop], by simp, by simp [Leaf.Found], Or.inl rfl, fun _ => ⟨_, List.mem_cons_self, rfl⟩⟩
      .code (fun _ => rfl)
  | text => before [] text false (Taken.none text) .code (by simp)

def settle (s : State source) : State source :=
  if blank : s.blanks = [] then s
  else
    { s with
      trees := .leaf .blank s.blanks :: s.trees
      blanks := []
      taken := by
        have taken := s.taken.push ⟨.blank, s.blanks⟩ s.turned blank (Or.inl rfl)
          (fun h => Or.inr ((s.spaced h).resolve_right blank)) Or.inl
        simpa using taken
      spaced := fun _ => Or.inr rfl }

theorem settle_taken (s : State source) :
    Taken source (Syntax.leavesOfAll s.settle.trees.reverse) (s.leaf ++ s.rest) s.turned := by
  have taken := s.settle.taken
  unfold settle at taken ⊢
  split at taken
  · rename_i blank
    simpa [blank] using taken
  · rename_i blank
    simpa [blank] using taken

def advance (s : State source) (next : Surroundings) (solid : s.leaf ≠ [])
    (follows : next = .markup → (s.turned || Leaf.isTurn s.leaf) = true) : State source :=
  before (.leaf s.kind s.leaf :: s.settle.trees) s.rest (s.turned || Leaf.isTurn s.leaf)
    (by
      have taken := s.settle_taken.push ⟨s.kind, s.leaf⟩ (s.turned || Leaf.isTurn s.leaf) solid
        s.found s.ready (by simp)
      simpa using taken)
    next follows

/-- Reads the leaf at hand in another way, at a turn or behind one. -/
def reread (s : State source) (mode : Leaf.Mode)
    (allowed : (s.turned || Leaf.isTurn (s.leaf ++ s.rest)) = true) : State source :=
  let text := s.leaf ++ s.rest
  let leaf := mode.read text
  { s with
    kind := leaf.1
    leaf := text.take leaf.2
    rest := text.drop leaf.2
    taken := by simpa only [text, List.take_append_drop] using s.taken
    found := Or.inr ⟨mode, text, rfl, rfl⟩
    spaced := by simpa only [text, List.take_append_drop] using s.spaced
    ready := by
      intro h
      simp only [h, Bool.false_or] at allowed
      exact Or.inl (by simpa only [text, List.take_append_drop] using allowed) }

def wrap (s : State source) (kind : NodeKind) (start : Nat) : State source :=
  let n := s.trees.length - start
  { s with
    trees := .node kind (s.trees.take n).reverse :: s.trees.drop n
    taken := by
      have taken := s.taken
      rw [← List.take_append_drop n s.trees, List.reverse_append] at taken
      simpa [List.append_assoc] using taken }

/-- Puts another tree with the same leaves in place of the last one. -/
def replace (s : State source) (change : Syntax → Option Syntax) : Option (State source) :=
  match h : s.trees with
  | [] => none
  | tree :: trees =>
    match change tree with
    | none => none
    | some tree' =>
      if same : tree'.leaves = tree.leaves then
        some { s with
          trees := tree' :: trees
          taken := by
            have taken := s.taken
            rw [h] at taken
            simpa [same] using taken }
      else none

end State

def Reader (source : List Char) (α : Type) : Type :=
  State source → Option (α × State source)

namespace Reader

variable {source : List Char} {α β : Type}

instance : Monad (Reader source) where
  pure a := fun s => some (a, s)
  bind r f := fun s =>
    match r s with
    | none => none
    | some (a, s') => f a s'

def fail : Reader source α :=
  fun _ => none

def orElse (p q : Reader source α) : Reader source α :=
  fun s =>
    match p s with
    | some result => some result
    | none => q s

/-- Asks about what follows and takes nothing. A question that fails is answered no. -/
def ahead (p : Reader source Bool) : Reader source Bool :=
  fun s =>
    match p s with
    | some (answer, _) => some (answer, s)
    | none => some (false, s)

/-- Reads by `p` if it does not fail, and tells whether it did. -/
def attempt (p : Reader source Unit) : Reader source Bool :=
  fun s =>
    match p s with
    | some (_, s') => some (true, s')
    | none => some (false, s)

def repeatWhile : Nat → Reader source Bool → Reader source Unit
  | 0, _ => fail
  | n + 1, p => do if ← p then repeatWhile n p else pure ()

def require (condition : Bool) : Reader source Unit :=
  if condition then pure () else fail

/-- The number of finished trees, so that those to come can be joined. -/
def position : Reader source Nat :=
  fun s => some (s.settle.trees.length, s.settle)

/-- Takes the leaf at hand; `next` tells what stands behind it. -/
def advanceTo (next : Surroundings) : Reader source Unit :=
  fun s =>
    if s.kind = .invalid ∨ s.kind = .finish then none
    else if solid : s.leaf ≠ [] then
      if follows : next = .markup → (s.turned || Leaf.isTurn s.leaf) = true then
        some ((), s.advance next solid follows)
      else none
    else none

/-- Takes the leaf at hand, behind which stands code. -/
def advance : Reader source Unit :=
  advanceTo .code

def reread (mode : Leaf.Mode) : Reader source Unit :=
  fun s =>
    if allowed : (s.turned || Leaf.isTurn (s.leaf ++ s.rest)) = true then
      some ((), s.reread mode allowed)
    else none

def wrap (kind : NodeKind) (start : Nat) : Reader source Unit :=
  fun s => some ((), s.wrap kind start)

def replace (change : Syntax → Option Syntax) : Reader source Unit :=
  fun s => (s.replace change).map fun s' => ((), s')

def last : Reader source (Option Syntax) :=
  fun s => some (s.trees.head?, s)

def kind : Reader source LeafKind :=
  fun s => some (s.kind, s)

def leaf : Reader source (List Char) :=
  fun s => some (s.leaf, s)

/-- Whether a line ends in front of the leaf at hand. -/
def broken : Reader source Bool :=
  fun s => some (s.broken, s)

/-- Whether the leaf at hand follows the one before it without blanks. -/
def touching : Reader source Bool :=
  fun s => some (s.blanks = [], s)

/-- Whether the leaf at hand is the mark or the keyword `text`. -/
def isAt (text : String) : Reader source Bool :=
  fun s => some ((s.kind = .mark || s.kind = .name) && s.leaf = text.toList, s)

def isAtAny (texts : List String) : Reader source Bool :=
  fun s => some ((s.kind = .mark || s.kind = .name) && texts.any (s.leaf = ·.toList), s)

/-- Takes the mark or keyword `text` if it is at hand. -/
def accept (text : String) : Reader source Bool := do
  if ← isAt text then
    advance
    pure true
  else pure false

def expect (text : String) : Reader source Unit := do
  require (← isAt text)
  advance

def expectKind (wanted : LeafKind) : Reader source Unit := do
  require ((← kind) = wanted)
  advance

/-- The tree of a source that the reader takes as a whole. -/
def read? (r : Reader source Unit) : Option Syntax :=
  match r (State.initial source) with
  | some (_, s) =>
    if s.leaf = [] ∧ s.rest = [] then some (.node .other s.settle.trees.reverse) else none
  | none => none

end Reader

end CompanionStyles.Component
