import CompanionStyles.Proofs.Component.Confined
import CompanionStyles.Proofs.Component.ImportLine
import CompanionStyles.Proofs.Patch.Stretches

/-!
The tree of a rewritten component. Its class sites are the leaves that are written for them, and everything else
stays, behind the import. The text of this tree is what a rewriting gives, edit by edit.
-/

namespace CompanionStyles.Component

/-- The form of the site that a leaf can be; `key` is that of a name. -/
def SiteForm.ofLeaf? (key : Option SiteForm) : LeafKind → Option SiteForm
  | .markupString => some .markup
  | .string => some .string
  | .name => key
  | _ => none

/-- The form of the site that the name in front of a node can be. -/
def NodeKind.keyForm? : NodeKind → Option SiteForm
  | .property .keyed => some .key
  | .property .shorthand => some .shorthand
  | _ => none

/-- The leaves that are written for a site. -/
def Site.written (m : Manifest) (site : Site) : List Syntax :=
  match site.form with
  | .markup => [.leaf .markupString ((site.replacement? m).getD site.text)]
  | .string => [.leaf .string ((site.replacement? m).getD site.text)]
  | .key => [.leaf .string (Text.quote (m.lookup site.value))]
  | .shorthand => [.leaf .string (Text.quote (m.lookup site.value)), .leaf .mark [':'], .leaf .blank [' '],
      .leaf .name site.value]

/-- The import of a style as a statement. -/
def importItem (id : List Char) : Syntax :=
  .node .other [.node .moduleItem [.leaf .name "import".toList, .leaf .blank [' '], .leaf .string (Text.quote id),
    .leaf .mark [';']]]

/-- Trees behind the line of an import, whose end is a blank. -/
def behindImport (id : List Char) : List Syntax → List Syntax
  | .leaf .blank text :: trees => importItem id :: .leaf .blank ('\n' :: text) :: trees
  | trees => importItem id :: .leaf .blank ['\n'] :: trees

namespace Syntax

section

variable (m : Manifest) (sites : List Site)

def leafWritten (key : Option SiteForm) (start : Nat) (kind : LeafKind) (text : List Char) : List Syntax :=
  match SiteForm.ofLeaf? key kind with
  | some form => if ⟨start, text, form⟩ ∈ sites then Site.written m ⟨start, text, form⟩ else [.leaf kind text]
  | none => [.leaf kind text]

/-- A shorthand whose name is a site becomes a key with a value. -/
def kindWritten (start : Nat) : NodeKind → List Syntax → NodeKind
  | .property .shorthand, [.leaf .name text] =>
    .property (if ⟨start, text, .shorthand⟩ ∈ sites then .keyed else .shorthand)
  | kind, _ => kind

mutual
/-- What becomes of a tree that starts at `start` when those of its leaves are written that are among the sites.
A name by itself can be a site of the form `key`. -/
def written (key : Option SiteForm) (start : Nat) : Syntax → List Syntax
  | .leaf kind text => leafWritten m sites key start kind text
  | .node kind children => [.node (kindWritten sites start kind children) (writtenOfAll kind.keyForm? start children)]

def writtenOfAll (key : Option SiteForm) (start : Nat) : List Syntax → List Syntax
  | [] => []
  -- only the first tree of a node can be its name
  | tree :: trees => written key start tree ++ writtenOfAll none (start + tree.size) trees
end

/-- A leaf is copied if nothing else is written for it. -/
def leafStretch (key : Option SiteForm) (start : Nat) (kind : LeafKind) (text : List Char) : Stretch :=
  let new := textOfAll (leafWritten m sites key start kind text)
  if new = text then .copied text else .replaced text new

mutual
/-- The leaves of a tree as stretches of the written one. -/
def stretches (key : Option SiteForm) (start : Nat) : Syntax → List Stretch
  | .leaf kind text => [leafStretch m sites key start kind text]
  | .node kind children => stretchesOfAll kind.keyForm? start children

def stretchesOfAll (key : Option SiteForm) (start : Nat) : List Syntax → List Stretch
  | [] => []
  | tree :: trees => stretches key start tree ++ stretchesOfAll none (start + tree.size) trees
end

end

/-- The tree of a rewritten component, the import of its style in front. -/
def rewritten (m : Manifest) (styleId : List Char) : Syntax → Syntax
  | .leaf kind text => .leaf kind text
  | .node kind children =>
    let tree : Syntax := .node kind children
    let trees := writtenOfAll m (tree.classSites 0) kind.keyForm? 0 children
    .node kind (if (importLine styleId).isPrefixOf tree.text then trees else behindImport styleId trees)

variable {m : Manifest} {sites : List Site}

mutual
theorem flatMap_old_stretches : (tree : Syntax) → (key : Option SiteForm) → (start : Nat) →
    (tree.stretches m sites key start).flatMap Stretch.old = tree.text
  | .leaf kind text, key, start => by
    simp only [stretches, leafStretch]
    split <;> simp [Stretch.old]
  | .node kind children, key, start => by
    rw [stretches, flatMap_old_stretchesOfAll children, text_node]

theorem flatMap_old_stretchesOfAll : (trees : List Syntax) → (key : Option SiteForm) → (start : Nat) →
    (stretchesOfAll m sites key start trees).flatMap Stretch.old = textOfAll trees
  | [], key, start => by simp [stretchesOfAll]
  | tree :: trees, key, start => by
    rw [stretchesOfAll, List.flatMap_append, flatMap_old_stretches tree, flatMap_old_stretchesOfAll trees,
      textOfAll_cons]
end

mutual
theorem flatMap_text_stretches : (tree : Syntax) → (key : Option SiteForm) → (start : Nat) →
    (tree.stretches m sites key start).flatMap Stretch.text = textOfAll (tree.written m sites key start)
  | .leaf kind text, key, start => by
    simp only [stretches, leafStretch, written]
    split
    · rename_i same
      simp [Stretch.text, same]
    · simp [Stretch.text]
  | .node kind children, key, start => by
    rw [stretches, flatMap_text_stretchesOfAll children, written, textOfAll_cons, textOfAll_nil, text_node,
      List.append_nil]

theorem flatMap_text_stretchesOfAll : (trees : List Syntax) → (key : Option SiteForm) → (start : Nat) →
    (stretchesOfAll m sites key start trees).flatMap Stretch.text = textOfAll (writtenOfAll m sites key start trees)
  | [], key, start => by simp [stretchesOfAll, writtenOfAll]
  | tree :: trees, key, start => by
    rw [stretchesOfAll, List.flatMap_append, flatMap_text_stretches tree, flatMap_text_stretchesOfAll trees,
      writtenOfAll, textOfAll_append]
end

end Syntax

theorem Site.textOfAll_written (m : Manifest) (site : Site) :
    Syntax.textOfAll (site.written m) = (site.replacement? m).getD site.text := by
  cases form : site.form <;> simp [Site.written, Site.replacement?, form]

/-- The edit changes the text of the site. -/
def Site.Changes (m : Manifest) (site : Site) (e : Edit) : Prop :=
  site.edit? m = some e ∧ e.text ≠ site.text

theorem Site.changes_iff {m : Manifest} {site : Site} {e : Edit} :
    site.Changes m e ↔ Syntax.textOfAll (site.written m) ≠ site.text
      ∧ e = ⟨site.start, site.stop, Syntax.textOfAll (site.written m)⟩ := by
  rw [Site.Changes, Site.edit?, Site.textOfAll_written]
  cases site.replacement? m with
  | none => simp
  | some text =>
    simp only [Option.map_some, Option.some.injEq, Option.getD_some]
    constructor
    · rintro ⟨rfl, other⟩
      exact ⟨other, rfl⟩
    · rintro ⟨other, rfl⟩
      exact ⟨rfl, other⟩

namespace Syntax

variable {m : Manifest} {sites : List Site}

/-- The edits of a leaf are those of the site that it can be. -/
theorem mem_edits_leaf_iff {key : Option SiteForm} {start : Nat} {kind : LeafKind} {text : List Char} {e : Edit} :
    e ∈ Stretch.edits start ((leaf kind text).stretches m sites key start) ↔
      ∃ form, SiteForm.ofLeaf? key kind = some form ∧ ⟨start, text, form⟩ ∈ sites
        ∧ Site.Changes m ⟨start, text, form⟩ e := by
  cases found : SiteForm.ofLeaf? key kind with
  | none => simp [stretches, leafStretch, leafWritten, found, Stretch.edits]
  | some form =>
    simp only [stretches, leafStretch, leafWritten, found, Option.some.injEq, exists_eq_left', Site.changes_iff]
    by_cases member : ⟨start, text, form⟩ ∈ sites
    · by_cases same : textOfAll (Site.written m ⟨start, text, form⟩) = text
      · simp [member, same, Stretch.edits]
      · simp [member, same, Stretch.edits, Site.stop]
    · simp [member, Stretch.edits]

/-- A name by itself is no site, so without a form for it there are no more edits. -/
theorem mem_edits_of_none {key : Option SiteForm} {start : Nat} {tree : Syntax} {e : Edit}
    (member : e ∈ Stretch.edits start (tree.stretches m sites none start)) :
    e ∈ Stretch.edits start (tree.stretches m sites key start) := by
  cases tree with
  | node kind children => exact member
  | leaf kind text =>
    obtain ⟨form, found, inside, changes⟩ := mem_edits_leaf_iff.mp member
    refine mem_edits_leaf_iff.mpr ⟨form, ?_, inside, changes⟩
    cases kind <;> simp_all [SiteForm.ofLeaf?]

theorem mem_edits_cons_iff {key : Option SiteForm} {start : Nat} {tree : Syntax} {trees : List Syntax} {e : Edit} :
    e ∈ Stretch.edits start (stretchesOfAll m sites key start (tree :: trees)) ↔
      e ∈ Stretch.edits start (tree.stretches m sites key start)
        ∨ e ∈ Stretch.edits (start + tree.size) (stretchesOfAll m sites none (start + tree.size) trees) := by
  rw [stretchesOfAll, Stretch.edits_append, flatMap_old_stretches, ← Syntax.size, List.mem_append]

theorem Part.mem_edits {key : Option SiteForm} {start at_ : Nat} {trees : List Syntax} {part : Syntax} {e : Edit}
    (at_part : Part start trees at_ part) (member : e ∈ Stretch.edits at_ (part.stretches m sites none at_)) :
    e ∈ Stretch.edits start (stretchesOfAll m sites key start trees) := by
  induction trees generalizing key start with
  | nil => exact absurd at_part not_part_nil
  | cons tree trees ih =>
    rw [mem_edits_cons_iff]
    rcases part_cons_iff.mp at_part with ⟨rfl, rfl⟩ | later
    · exact Or.inl (mem_edits_of_none member)
    · exact Or.inr (ih later)

/-- The edits of what stands in a tree are edits of the tree. -/
theorem Within.mem_edits {start at_ : Nat} {tree part : Syntax} {e : Edit} (within : Within start tree at_ part)
    (member : e ∈ Stretch.edits at_ (part.stretches m sites none at_)) :
    e ∈ Stretch.edits start (tree.stretches m sites none start) := by
  induction within with
  | here => exact member
  | inside at_child _ ih => exact at_child.mem_edits (ih member)

mutual
/-- Every edit of a tree changes a site. -/
theorem exists_site_of_mem_edits : (tree : Syntax) → (key : Option SiteForm) → (start : Nat) → (e : Edit) →
    e ∈ Stretch.edits start (tree.stretches m sites key start) → ∃ site ∈ sites, site.Changes m e
  | .leaf kind text, key, start, e, member => by
    obtain ⟨form, _, inside, changes⟩ := mem_edits_leaf_iff.mp member
    exact ⟨_, inside, changes⟩
  | .node kind children, key, start, e, member =>
    exists_site_of_mem_editsOfAll children kind.keyForm? start e member

theorem exists_site_of_mem_editsOfAll : (trees : List Syntax) → (key : Option SiteForm) → (start : Nat) →
    (e : Edit) → e ∈ Stretch.edits start (stretchesOfAll m sites key start trees) → ∃ site ∈ sites, site.Changes m e
  | [], key, start, e, member => by simp [stretchesOfAll, Stretch.edits] at member
  | tree :: trees, key, start, e, member => by
    rcases mem_edits_cons_iff.mp member with here | later
    · exact exists_site_of_mem_edits tree key start e here
    · exact exists_site_of_mem_editsOfAll trees none _ e later
end

/-- Where a site stands in a tree: as a leaf that can be nothing else, or as the name in front of a node. -/
def Owned (start : Nat) (tree : Syntax) (site : Site) : Prop :=
  (SiteForm.ofLeaf? none site.form.kind = some site.form
    ∧ Within start tree site.start (.leaf site.form.kind site.text))
  ∨ ∃ kind rest, kind.keyForm? = some site.form
    ∧ Within start tree site.start (.node kind (.leaf .name site.text :: rest))

theorem Owned.inside {start next : Nat} {kind : NodeKind} {children : List Syntax} {child : Syntax} {site : Site}
    (owned : Owned next child site) (at_child : Part start children next child) :
    Owned start (.node kind children) site := by
  rcases owned with ⟨form, within⟩ | ⟨owner, rest, form, within⟩
  · exact Or.inl ⟨form, .inside at_child within⟩
  · exact Or.inr ⟨owner, rest, form, .inside at_child within⟩

theorem Owned.trans {start at_ : Nat} {tree part : Syntax} {site : Site} (outer : Within start tree at_ part)
    (owned : Owned at_ part site) : Owned start tree site := by
  rcases owned with ⟨form, within⟩ | ⟨owner, rest, form, within⟩
  · exact Or.inl ⟨form, outer.trans within⟩
  · exact Or.inr ⟨owner, rest, form, outer.trans within⟩

theorem KeySite.owned {start : Nat} {tree : Syntax} {site : Site} (inside : KeySite start tree site) :
    Owned start tree site := by
  induction inside with
  | name => exact Or.inr ⟨_, _, rfl, .here⟩
  | string => exact Or.inl ⟨rfl, .inside (part_cons_iff.mpr (Or.inl ⟨rfl, rfl⟩)) .here⟩
  | shorthand => exact Or.inr ⟨_, _, rfl, .here⟩
  | value at_child _ ih => exact ih.inside (part_cons_iff.mpr (Or.inr at_child))
  | element at_child => exact Or.inl ⟨rfl, .inside at_child .here⟩
  | deeper _ at_child _ ih => exact ih.inside at_child

theorem ClassSite.owned {start : Nat} {tree : Syntax} {site : Site} (inside : ClassSite start tree site) :
    Owned start tree site := by
  obtain ⟨at_, children, within, own⟩ := inside
  refine Owned.trans within ?_
  cases own with
  | value _ value own =>
    refine Owned.inside ?_ (part_cons_iff.mpr (Or.inr (by simpa [Syntax.size] using value.1)))
    cases own with
    | markup => exact Or.inl ⟨rfl, .here⟩
    | container only own =>
      refine Owned.inside ?_ only.1
      cases own with
      | string => exact Or.inl ⟨rfl, .here⟩
      | argument _ at_argument key => exact (key.owned.inside at_argument).inside (part_append_cons _ _)
      | array key => exact key.owned
      | object key => exact key.owned

/-- A site that is to be written changes the tree where it stands. -/
theorem Owned.mem_edits {start : Nat} {tree : Syntax} {site : Site} {e : Edit} (owned : Owned start tree site)
    (member : site ∈ sites) (changes : site.Changes m e) :
    e ∈ Stretch.edits start (tree.stretches m sites none start) := by
  rcases owned with ⟨form, within⟩ | ⟨kind, rest, form, within⟩
  · exact within.mem_edits (mem_edits_leaf_iff.mpr ⟨site.form, form, member, changes⟩)
  · refine within.mem_edits ?_
    rw [stretches, mem_edits_cons_iff]
    exact Or.inl (mem_edits_leaf_iff.mpr ⟨site.form, form, member, changes⟩)

/-- The edits of a tree are those that change its class sites. -/
theorem mem_edits_iff_changes {tree : Syntax} {e : Edit} :
    e ∈ Stretch.edits 0 (tree.stretches m (tree.classSites 0) none 0) ↔
      ∃ site, tree.ClassSite 0 site ∧ site.Changes m e := by
  constructor
  · intro member
    obtain ⟨site, inside, changes⟩ := exists_site_of_mem_edits tree none 0 e member
    exact ⟨site, (tree.mem_classSites_iff 0 site).mp inside, changes⟩
  · rintro ⟨site, inside, changes⟩
    exact inside.owned.mem_edits ((tree.mem_classSites_iff 0 site).mpr inside) changes

end Syntax

theorem textOfAll_behindImport (id : List Char) (trees : List Syntax) :
    Syntax.textOfAll (behindImport id trees) = importLine id ++ Syntax.textOfAll trees := by
  have item : (importItem id).text ++ ['\n'] = importLine id := by
    simp [importItem, importLine_eq]
  unfold behindImport
  split
  · rw [← item]
    simp
  · rw [← item]
    simp

/-- The text of the tree of a rewritten component: everything that is written, behind the import. -/
theorem Syntax.text_rewritten (m : Manifest) (styleId : List Char) (kind : NodeKind) (children : List Syntax) :
    ((node kind children).rewritten m styleId).text =
      (if (importLine styleId).isPrefixOf (node kind children).text then [] else importLine styleId)
        ++ textOfAll ((node kind children).written m ((node kind children).classSites 0) none 0) := by
  simp only [rewritten, written, text_node, textOfAll_cons, textOfAll_nil, List.append_nil]
  split
  · rfl
  · exact textOfAll_behindImport styleId _

/-- The edits of a component that change anything, in order, are those of the tree. -/
theorem order_eq_edits {d : Dialect} {source : List Char} {m : Manifest} {tree : Syntax} {order : List Edit}
    (parsed : parse? d source = some tree)
    (perm : order.Perm (((tree.classSites 0).filterMap (·.edit? m)).filter fun e => ¬e.Restates source))
    (before : order.Pairwise Edit.Before) :
    order = Stretch.edits 0 (tree.stretches m (tree.classSites 0) none 0) := by
  -- an edit that restates what is there is left out, as the leaf that it would change is copied
  have mem : ∀ e, e ∈ order ↔ e ∈ Stretch.edits 0 (tree.stretches m (tree.classSites 0) none 0) := by
    intro e
    rw [Syntax.mem_edits_iff_changes, perm.mem_iff, List.mem_filter, List.mem_filterMap, decide_eq_true_eq]
    constructor
    · rintro ⟨⟨site, member, edit⟩, changes⟩
      have inside := (tree.mem_classSites_iff 0 site).mp member
      refine ⟨site, inside, edit, fun same => changes ?_⟩
      obtain ⟨_, start, stop⟩ := Site.edit?_eq_some_iff.mp edit
      rw [Edit.restates_iff, start, stop, same]
      exact inside.slice?_eq parsed
    · rintro ⟨site, inside, edit, changes⟩
      refine ⟨⟨site, (tree.mem_classSites_iff 0 site).mpr inside, edit⟩, fun restates => changes ?_⟩
      obtain ⟨_, start, stop⟩ := Site.edit?_eq_some_iff.mp edit
      rw [Edit.restates_iff, start, stop, inside.slice?_eq parsed] at restates
      exact (Option.some.inj restates).symm
  have before' : (Stretch.edits 0 (tree.stretches m (tree.classSites 0) none 0)).Pairwise Edit.Before := by
    refine Stretch.edits_before fun e member => ?_
    have edit := (List.mem_filter.mp (perm.mem_iff.mp ((mem e).mpr member))).1
    exact (edit_confined parsed edit).1
  have same := (List.perm_ext_iff_of_nodup (Edit.nodup_of_before before) (Edit.nodup_of_before before')).mpr mem
  exact Edit.eq_of_perm same before before'

/-- What a rewriting gives is the text of the rewritten tree. -/
theorem code_eq_text {source id styleId : List Char} {m : Manifest} {tree : Syntax} {out : PatchOutput}
    (renames : m.isEmpty = false) (parsed : parse? (Dialect.ofId id) source = some tree)
    (rewritten : (rewrite source id m styleId).output = some (some out)) :
    out.code.toList = (tree.rewritten m styleId).text := by
  obtain ⟨order, stretches, output, perm, before, done, follow, stands, code⟩ := rewrite_stretches m styleId parsed
  rw [done] at rewritten
  obtain rfl := Option.some.inj (Option.some.inj rewritten)
  rw [appliedEdits, if_neg (by simp [renames])] at perm
  have text := text_of_parse? parsed
  have old : stretches.flatMap Stretch.old =
      (tree.stretches m (tree.classSites 0) none 0).flatMap Stretch.old := by
    rw [stands, Syntax.flatMap_old_stretches, text]
  rw [code, follow.flatMap_text old (order_eq_edits parsed perm before), Syntax.flatMap_text_stretches]
  obtain ⟨children, rfl⟩ := parse?_root parsed
  rw [Syntax.text_rewritten, text]

end CompanionStyles.Component
