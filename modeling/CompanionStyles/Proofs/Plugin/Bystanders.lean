import CompanionStyles.Proofs.FileTree.Bystanders
import CompanionStyles.Proofs.Plugin.Validated

/-!
What a transform does not notice: the order in which a directory has its entries, and entries that come and go in
the directory of a component without being files that its style is looked for under.
-/

namespace CompanionStyles

/-- Two operations do the same if they start alike and go on alike from what they come to. -/
theorem Traced.bind_eq_of_result {α β : Type} {first : Traced α} {next next' : α → Traced β}
    (same : ∀ value, first.result = .ok value → next value = next' value) : first >>= next = first >>= next' := by
  cases ends : first.result with
  | error failure => rw [bind_of_error ends, bind_of_error ends]
  | ok value => rw [bind_of_ok ends, bind_of_ok ends, same value ends]

namespace Plugin

variable {p : Plugin} {before after : FileTree}

theorem listing_of_ok {tree : FileTree} {id : List Char} {directory : Path} {paths : List Path}
    (lists : p.resolved.strategy.listsFiles = true) (listed : tree.listDirectory directory = .ok paths) :
    p.listing tree id directory = pure (some paths) := by
  unfold listing
  split
  · rename_i resolver strategy
    rw [strategy] at lists
    exact absurd lists Bool.false_ne_true
  · rw [listed]

/-- A component is bound alike on trees on which the first of its candidates reads the same. -/
theorem bind_eq_of_reads {code id : List Char} {directory : Path} {candidates : List Style.Candidate}
    (same : ∀ c, candidates.head? = some c → after.readText c.path = before.readText c.path) :
    p.bind after code id directory candidates = p.bind before code id directory candidates := by
  unfold bind
  refine Traced.bind_eq_of_result fun picked picks => ?_
  cases candidates with
  | nil =>
    obtain rfl := Except.ok.inj picks
    rfl
  | cons candidate others =>
    obtain rfl := Except.ok.inj picks
    dsimp only
    rw [styleOf_congr p (same candidate rfl)]

/-- Two trees offer a component the same: the files beside it have the same candidates, and the first of them reads
the same. -/
def OffersSame (p : Plugin) (component : Path) (before after : FileTree) : Prop :=
  ∀ directory, component.parent = some directory → ∃ paths paths',
    before.listDirectory directory = .ok paths ∧ after.listDirectory directory = .ok paths'
      ∧ Style.resolve component paths' p.resolved.strategy = Style.resolve component paths p.resolved.strategy
      ∧ ∀ candidates c, (Style.resolve component paths p.resolved.strategy).result = .ok candidates
        → candidates.head? = some c → after.readText c.path = before.readText c.path

theorem OffersSame.candidates {id : List Char} (lists : p.resolved.strategy.listsFiles = true)
    (same : p.OffersSame (Path.ofText (modulePath id)) before after) :
    p.candidates after id = p.candidates before id := by
  unfold Plugin.candidates
  refine ite_congr rfl (fun _ => rfl) fun _ => bind_congr fun accepted => ?_
  split
  · rename_i directory parent
    obtain ⟨paths, paths', listed, listed', resolved, _⟩ := same directory parent
    rw [listing_of_ok lists listed, listing_of_ok lists listed']
    simp only [Traced.result_pure, Traced.ok_bind, resolved]
  · rfl

theorem OffersSame.transform {code id : List Char} (lists : p.resolved.strategy.listsFiles = true)
    (same : p.OffersSame (Path.ofText (modulePath id)) before after) :
    p.transform after code id = p.transform before code id := by
  unfold Plugin.transform
  refine ite_congr rfl (fun _ => rfl) fun _ => Traced.bind_eq_of_result fun accepted _ => ?_
  split
  · rename_i directory parent _
    obtain ⟨paths, paths', listed, listed', resolved, reads⟩ := same directory parent
    have step : ∀ {α β : Type} (value : α) (next : α → Traced β), (pure value >>= next) = next value := fun _ _ => rfl
    rw [listing_of_ok lists listed, listing_of_ok lists listed', step, step]
    dsimp only
    rw [resolved]
    exact Traced.bind_eq_of_result fun candidates found => bind_eq_of_reads (reads candidates · found)
  · rfl

/-- Entries come and go in the directory of a component without being files that its style is looked for under. -/
theorem offersSame_of_sameBut {component d : Path} {directory : Place} (lists : p.resolved.strategy.listsFiles = true)
    (parent : component.parent = some d)
    (same : before.SameBut (fun name => Style.wants component p.resolved.strategy (d.join ⟨name⟩) = true) directory after)
    (found : before.locate d = .ok directory) (there : before.get? directory = some .directory)
    (found' : after.locate d = .ok directory) : p.OffersSame component before after := by
  intro d' parent'
  obtain rfl := Option.some.inj (parent.symm.trans parent')
  obtain ⟨paths, paths', listed, listed', kept, reads⟩ := same.listDirectory found there found'
  refine ⟨paths, paths', listed, listed', ?_, fun candidates c resolved first => ?_⟩
  · rw [← Style.resolve_filter_wants lists paths', kept, Style.resolve_filter_wants lists]
  · rw [← Style.resolve_filter_wants lists] at resolved
    obtain ⟨among, wanted⟩ := List.mem_filter.mp (Style.path_mem_listing lists resolved first)
    exact reads c.path among wanted

/-- A transform depends on what a tree has, and not on the order in which it has it. -/
theorem transform_eq_of_get? (home : after.home = before.home)
    (same : ∀ place, after.get? place = before.get? place) (code id : List Char) :
    p.transform after code id = p.transform before code id := by
  simp only [transform, listing, bind, styleOf, FileTree.listDirectory_congr home same,
    FileTree.readText_congr home same]

/-- A directory with a style and a note. -/
def shelfTree : FileTree :=
  (FileTree.empty.writeFile (.ofText "s/Card.css".toList) (Utf8.encode ".x".toList)).writeFile
    (.ofText "s/notes.txt".toList) []

/-- The same directory with a directory that is called like a style and the style of another component, and without
the note. -/
def reshelvedTree : FileTree :=
  ((shelfTree.addDirectory (.ofText "s/Card.scss".toList)).writeFile (.ofText "s/Button.css".toList) []).remove
    (.ofText "s/notes.txt".toList)

/-- Whether the style of the card is looked for under a name, with default options. -/
def wantedForCard (name : Bytes) : Prop :=
  Style.wants (.ofText (modulePath "s/Card.tsx".toList))
    (.extensions [".css".toList, ".scss".toList, ".less".toList] true false)
    ((Path.ofText "s".toList).join ⟨name⟩) = true

instance : DecidablePred wantedForCard := fun _ =>
  inferInstanceAs (Decidable (_ = _))

theorem shelfTree_sameBut : shelfTree.SameBut wantedForCard [Utf8.encode "s".toList] reshelvedTree := by
  have free : shelfTree.get? [Utf8.encode "s".toList, Utf8.encode "Card.scss".toList] = none := by
    decide +kernel
  have made : shelfTree.SameBut wantedForCard [Utf8.encode "s".toList]
      (shelfTree.addDirectory (.ofText "s/Card.scss".toList)) := by
    refine FileTree.sameBut_addDirectory (Utf8.encode "Card.scss".toList) (by decide +kernel) (by decide +kernel) ?_
    rintro _ ⟨content, there⟩
    exact absurd (there.symm.trans free) (by simp)
  have written : (shelfTree.addDirectory (.ofText "s/Card.scss".toList)).SameBut wantedForCard
      [Utf8.encode "s".toList] ((shelfTree.addDirectory (.ofText "s/Card.scss".toList)).writeFile
        (.ofText "s/Button.css".toList) []) :=
    FileTree.sameBut_writeFile (Utf8.encode "Button.css".toList) (by decide +kernel) (by decide +kernel)
      (by decide +kernel)
  refine (made.trans written).trans (FileTree.sameBut_remove (Utf8.encode "notes.txt".toList) (by decide +kernel) ?_)
  exact fun wanted => absurd wanted (by decide +kernel)

/-- A directory with a style and a directory. -/
def nestedTree : FileTree :=
  (FileTree.empty.writeFile (.ofText "s/Card.css".toList) (Utf8.encode ".x".toList)).addDirectory
    (.ofText "s/sub".toList)

end Plugin

end CompanionStyles
