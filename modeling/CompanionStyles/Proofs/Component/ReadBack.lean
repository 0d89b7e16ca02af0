import CompanionStyles.Proofs.Component.Rewritten
import CompanionStyles.Proofs.Component.Settled

/-!
The class sites of a rewritten tree. Every shape that makes a leaf of it a class site was there before, so a class
site of the rewritten tree is what was left of one of the first tree.
-/

namespace CompanionStyles.Component

/-- The site is what is left of one of the old ones. -/
def Site.Remains (m : Manifest) (old : Site → Prop) (site : Site) : Prop :=
  ∃ before, old before ∧ before.Leaves m site.form site.text

/-- What is left of the sites of a part is left of those of the whole; if all of these are written, all of the part's
are. -/
theorem Site.Remains.of_inner {m : Manifest} {sites : List Site} {inner outer : Site → Prop} {site : Site}
    (complete : ∀ old, outer old → old ∈ sites) (lift : ∀ old, inner old → outer old)
    (remains : (∀ old, inner old → old ∈ sites) → site.Remains m inner) : site.Remains m outer := by
  obtain ⟨old, there, leaves⟩ := remains fun old there => complete old (lift old there)
  exact ⟨old, lift old there, leaves⟩

/-- A literal is left as it was or renamed. -/
theorem Site.leaves_replacement {m : Manifest} {site : Site} (form : site.form = .markup ∨ site.form = .string) :
    site.Leaves m site.form ((site.replacement? m).getD site.text) := by
  cases found : site.replacement? m with
  | none =>
    refine .same fun text becomes => ?_
    rw [Site.replacement?_eq_some_iff.mpr becomes] at found
    exact absurd found (by simp)
  | some text => exact .list form (Site.replacement?_eq_some_iff.mp found)

theorem SiteForm.ofLeaf?_none_iff {kind : LeafKind} {form : SiteForm} :
    SiteForm.ofLeaf? none kind = some form ↔ kind = form.kind ∧ (form = .markup ∨ form = .string) := by
  cases kind <;> cases form <;> simp [SiteForm.ofLeaf?, SiteForm.kind]

theorem Site.written_of_literal {site : Site} (m : Manifest) (form : site.form = .markup ∨ site.form = .string) :
    site.written m = [.leaf site.form.kind ((site.replacement? m).getD site.text)] := by
  rcases form with form | form <;> simp [Site.written, form, SiteForm.kind]

namespace Syntax

variable {m : Manifest} {sites : List Site}

/-- A leaf is written as the site that it is, or stays. -/
theorem leafWritten_cases (m : Manifest) (sites : List Site) (key : Option SiteForm) (start : Nat) (kind : LeafKind)
    (text : List Char) :
    (∃ form, SiteForm.ofLeaf? key kind = some form ∧ ⟨start, text, form⟩ ∈ sites
      ∧ leafWritten m sites key start kind text = Site.written m ⟨start, text, form⟩)
    ∨ ((∀ form, SiteForm.ofLeaf? key kind = some form → ⟨start, text, form⟩ ∉ sites)
      ∧ leafWritten m sites key start kind text = [leaf kind text]) := by
  unfold leafWritten
  split
  · rename_i form found
    by_cases inside : ⟨start, text, form⟩ ∈ sites
    · exact Or.inl ⟨form, found, inside, if_pos inside⟩
    · refine Or.inr ⟨fun other same => ?_, if_neg inside⟩
      rw [found] at same
      exact Option.some.inj same ▸ inside
  · rename_i none
    exact Or.inr ⟨fun form found => by simp [none] at found, rfl⟩

/-- A leaf by itself that is a site becomes what is left of it, and any other leaf stays. -/
theorem leaf_of_written {start : Nat} {tree : Syntax} {kind : LeafKind} {text : List Char}
    (written : tree.written m sites none start = [leaf kind text]) :
    ∃ old, tree = leaf kind old ∧ (SiteForm.ofLeaf? none kind = none → text = old)
      ∧ ∀ form, SiteForm.ofLeaf? none kind = some form → ⟨start, old, form⟩ ∈ sites →
        Site.Leaves m ⟨start, old, form⟩ form text := by
  cases tree with
  | node kind' children => simp [Syntax.written] at written
  | leaf kind' old =>
    rw [Syntax.written] at written
    rcases leafWritten_cases m sites none start kind' old with ⟨form, found, _, become⟩ | ⟨outside, stays⟩
    · obtain ⟨rfl, literal⟩ := SiteForm.ofLeaf?_none_iff.mp found
      rw [become, Site.written_of_literal m literal, List.cons.injEq, leaf.injEq] at written
      obtain ⟨⟨rfl, rfl⟩, _⟩ := written
      refine ⟨old, rfl, fun none => by simp [none] at found, fun other same _ => ?_⟩
      rw [found] at same
      obtain rfl := Option.some.inj same
      exact Site.leaves_replacement literal
    · rw [stays, List.cons.injEq, leaf.injEq] at written
      obtain ⟨⟨rfl, rfl⟩, _⟩ := written
      exact ⟨_, rfl, fun _ => rfl, fun form found inside => absurd inside (outside form found)⟩

/-- A tree that is no shorthand's name becomes one tree, which counts as a part if the tree does. -/
theorem exists_written (m : Manifest) (sites : List Site) (key : Option SiteForm) (one : key ≠ some .shorthand)
    (start : Nat) (tree : Syntax) :
    ∃ tree', tree.written m sites key start = [tree'] ∧ tree'.isSubstantial = tree.isSubstantial := by
  cases tree with
  | node kind children => exact ⟨_, rfl, rfl⟩
  | leaf kind text =>
    rw [written]
    rcases leafWritten_cases m sites key start kind text with ⟨form, found, _, become⟩ | ⟨_, stays⟩
    · have substantial : (leaf kind text).isSubstantial = true := by
        cases kind <;> simp_all [SiteForm.ofLeaf?, isSubstantial]
      rw [become, substantial]
      cases form with
      | shorthand => cases kind <;> simp_all [SiteForm.ofLeaf?]
      | _ => exact ⟨_, rfl, rfl⟩
    · exact ⟨_, stays, rfl⟩

theorem writtenOfAll_cons {start : Nat} {tree tree' : Syntax} (trees : List Syntax)
    (written : tree.written m sites none start = [tree']) :
    writtenOfAll m sites none start (tree :: trees) =
      tree' :: writtenOfAll m sites none (start + tree.size) trees := by
  rw [writtenOfAll, written, List.singleton_append]

/-- Where the trees that are written can be parted, the first ones can. -/
theorem split_of_written {start : Nat} {trees before' after' : List Syntax} {part' : Syntax}
    (split : writtenOfAll m sites none start trees = before' ++ part' :: after') :
    ∃ before part after, trees = before ++ part :: after ∧ writtenOfAll m sites none start before = before'
      ∧ part.written m sites none (start + Utf8.size (textOfAll before)) = [part'] := by
  induction trees generalizing start before' with
  | nil => simp [writtenOfAll] at split
  | cons tree trees ih =>
    obtain ⟨tree', written, _⟩ := exists_written m sites none (by simp) start tree
    rw [writtenOfAll_cons trees written] at split
    cases before' with
    | nil =>
      rw [List.nil_append, List.cons.injEq] at split
      exact ⟨[], tree, trees, rfl, by rw [writtenOfAll], by simpa [split.1] using written⟩
    | cons first before' =>
      rw [List.cons_append, List.cons.injEq] at split
      obtain ⟨before, part, after, rfl, front, there⟩ := ih split.2
      refine ⟨tree :: before, part, after, rfl, ?_, ?_⟩
      · rw [writtenOfAll_cons before written, front, split.1]
      · rw [size_textOfAll_cons, ← Nat.add_assoc]
        exact there

theorem part_of_written {start start' at' : Nat} {trees : List Syntax} {part' : Syntax}
    (at_part : Part start' (writtenOfAll m sites none start trees) at' part') :
    ∃ at_ part, Part start trees at_ part ∧ part.written m sites none at_ = [part'] := by
  obtain ⟨before', after', split, _⟩ := at_part
  obtain ⟨before, part, after, rfl, _, written⟩ := split_of_written split
  exact ⟨_, part, part_append_cons before after, written⟩

theorem Part.mem_writtenOfAll {start at_ : Nat} {trees : List Syntax} {part part' : Syntax}
    (at_part : Part start trees at_ part) (written : part.written m sites none at_ = [part']) :
    part' ∈ writtenOfAll m sites none start trees := by
  induction trees generalizing start with
  | nil => exact absurd at_part not_part_nil
  | cons tree trees ih =>
    rw [writtenOfAll, List.mem_append]
    rcases part_cons_iff.mp at_part with ⟨rfl, rfl⟩ | later
    · exact Or.inl (by rw [written]; exact List.mem_singleton.mpr rfl)
    · exact Or.inr (ih later)

theorem countP_written (m : Manifest) (sites : List Site) (start : Nat) (trees : List Syntax) :
    (writtenOfAll m sites none start trees).countP isSubstantial = trees.countP isSubstantial := by
  induction trees generalizing start with
  | nil => simp [writtenOfAll]
  | cons tree trees ih =>
    obtain ⟨tree', written, substantial⟩ := exists_written m sites none (by simp) start tree
    rw [writtenOfAll_cons trees written, List.countP_cons, List.countP_cons, ih, substantial]

theorem onlyPart_of_written {start start' at' : Nat} {trees : List Syntax} {part' : Syntax}
    (only : OnlyPart start' (writtenOfAll m sites none start trees) at' part') :
    ∃ at_ part, OnlyPart start trees at_ part ∧ part.written m sites none at_ = [part'] := by
  obtain ⟨at_part, alone⟩ := only
  have one : trees.countP isSubstantial = 1 := by
    rw [← countP_written m sites start trees, List.countP_eq_length_filter, alone, List.length_singleton]
  obtain ⟨at_, part, at_part, written⟩ := part_of_written at_part
  obtain ⟨tree', written', same⟩ := exists_written m sites none (by simp) at_ part
  rw [written, List.cons.injEq] at written'
  have substantial : part'.isSubstantial = true := by
    have member : part' ∈ [part'] := List.mem_singleton.mpr rfl
    rw [← alone] at member
    exact (List.mem_filter.mp member).2
  rw [← written'.1, substantial] at same
  refine ⟨at_, part, ⟨at_part, ?_⟩, written⟩
  rw [List.countP_eq_length_filter, List.length_eq_one_iff] at one
  obtain ⟨single, only⟩ := one
  have member := List.mem_filter.mpr ⟨at_part.mem, same.symm⟩
  rw [only, List.mem_singleton] at member
  rw [only, member]

/-- A node stays of its kind, but for a shorthand whose name is a site. -/
theorem kindWritten_cases (sites : List Site) (start : Nat) (kind : NodeKind) (children : List Syntax) :
    kindWritten sites start kind children = kind
    ∨ ∃ text, kind = .property .shorthand ∧ children = [leaf .name text]
      ∧ ⟨start, text, .shorthand⟩ ∈ sites ∧ kindWritten sites start kind children = .property .keyed := by
  unfold kindWritten
  split
  · rename_i text
    by_cases inside : ⟨start, text, .shorthand⟩ ∈ sites
    · exact Or.inr ⟨text, rfl, rfl, inside, by rw [if_pos inside]⟩
    · exact Or.inl (by rw [if_neg inside])
  · exact Or.inl rfl

theorem node_of_written {start : Nat} {tree : Syntax} {kind' : NodeKind} {children' : List Syntax}
    (written : tree.written m sites none start = [node kind' children']) :
    ∃ kind children, tree = node kind children ∧ kindWritten sites start kind children = kind'
      ∧ writtenOfAll m sites kind.keyForm? start children = children' := by
  cases tree with
  | node kind children =>
    rw [Syntax.written, List.cons.injEq, node.injEq] at written
    exact ⟨kind, children, rfl, written.1⟩
  | leaf kind text =>
    rw [Syntax.written] at written
    rcases leafWritten_cases m sites none start kind text with ⟨form, found, _, become⟩ | ⟨_, stays⟩
    · have literal := (SiteForm.ofLeaf?_none_iff.mp found).2
      rw [become, Site.written_of_literal m literal] at written
      simp at written
    · rw [stays] at written
      simp at written

/-- A node that is no property stays of its kind, and so do the shapes around its parts. -/
theorem node_of_written_of_plain {start : Nat} {tree : Syntax} {kind : NodeKind} {children' : List Syntax}
    (plain : kind.keyForm? = none) (written : tree.written m sites none start = [node kind children']) :
    ∃ children, tree = node kind children ∧ writtenOfAll m sites none start children = children' := by
  obtain ⟨kind', children, rfl, kinds, parts⟩ := node_of_written written
  rcases kindWritten_cases sites start kind' children with stays | ⟨_, _, _, _, keyed⟩
  · rw [stays] at kinds
    subst kinds
    rw [plain] at parts
    exact ⟨children, rfl, parts⟩
  · rw [keyed] at kinds
    subst kinds
    simp [NodeKind.keyForm?] at plain

/-- The key of a property that is written out was one, or is what is written for a shorthand. -/
theorem keyed_of_written {start : Nat} {tree key' : Syntax} {rest' : List Syntax}
    (written : tree.written m sites none start = [node (.property .keyed) (key' :: rest')]) :
    (∃ key rest, tree = node (.property .keyed) (key :: rest) ∧ key.written m sites (some .key) start = [key']
      ∧ writtenOfAll m sites none (start + key.size) rest = rest')
    ∨ ∃ text, tree = node (.property .shorthand) [leaf .name text]
      ∧ Site.written m ⟨start, text, .shorthand⟩ = key' :: rest' := by
  obtain ⟨kind, children, rfl, kinds, parts⟩ := node_of_written written
  rcases kindWritten_cases sites start kind children with stays | ⟨text, rfl, rfl, inside, _⟩
  · rw [stays] at kinds
    subst kinds
    cases children with
    | nil => simp [writtenOfAll] at parts
    | cons key rest =>
      obtain ⟨only, become, _⟩ := exists_written m sites (some .key) (by simp) start key
      have form : (NodeKind.property .keyed).keyForm? = some .key := rfl
      rw [form, writtenOfAll, become, List.singleton_append, List.cons.injEq] at parts
      exact Or.inl ⟨key, rest, rfl, by rw [become, parts.1], parts.2⟩
  · refine Or.inr ⟨text, rfl, ?_⟩
    simpa [writtenOfAll, Syntax.written, leafWritten, NodeKind.keyForm?, SiteForm.ofLeaf?, inside] using parts

/-- If all keys are sites, the key of a property is no name any more, but a string that is left of one of them. -/
theorem key_of_written {start : Nat} {key : Syntax} {kind : LeafKind} {text : List Char}
    (written : key.written m sites (some .key) start = [leaf kind text]) (literal : kind = .name ∨ kind = .string)
    (complete : ∀ site ∈ key.keySite start, site ∈ sites) :
    kind = .string ∧ ∃ old ∈ key.keySite start, old.Leaves m .string text := by
  cases key with
  | node kind' children => simp [Syntax.written] at written
  | leaf kind' old =>
    rw [Syntax.written] at written
    rcases leafWritten_cases m sites (some .key) start kind' old with ⟨form, found, _, become⟩ | ⟨outside, stays⟩
    · rw [become] at written
      cases kind' with
      | name =>
        obtain rfl := Option.some.inj found
        simp only [Site.written, List.cons.injEq, leaf.injEq, and_true] at written
        obtain ⟨rfl, rfl⟩ := written
        exact ⟨rfl, _, List.mem_singleton.mpr rfl, .name (Or.inl rfl)⟩
      | string =>
        obtain rfl := Option.some.inj found
        simp only [Site.written, List.cons.injEq, leaf.injEq, and_true] at written
        obtain ⟨rfl, rfl⟩ := written
        exact ⟨rfl, _, List.mem_singleton.mpr rfl, Site.leaves_replacement (Or.inr rfl)⟩
      | markupString =>
        obtain rfl := Option.some.inj found
        simp only [Site.written, List.cons.injEq, leaf.injEq, and_true] at written
        obtain ⟨rfl, rfl⟩ := written
        simp at literal
      | _ => simp [SiteForm.ofLeaf?] at found
    · rw [stays, List.cons.injEq, leaf.injEq] at written
      obtain ⟨⟨rfl, rfl⟩, _⟩ := written
      rcases literal with rfl | rfl
      · exact absurd (complete _ (List.mem_singleton.mpr rfl)) (outside .key rfl)
      · exact absurd (complete _ (List.mem_singleton.mpr rfl)) (outside .string rfl)

/-- If all key sites are among the sites, no shorthand is left. -/
theorem not_shorthand_of_written {start : Nat} {tree : Syntax} {text : List Char} {rest' : List Syntax}
    (complete : ∀ site, KeySite start tree site → site ∈ sites) :
    tree.written m sites none start ≠ [node (.property .shorthand) (leaf .name text :: rest')] := by
  intro written
  obtain ⟨kind, children, rfl, kinds, parts⟩ := node_of_written written
  rcases kindWritten_cases sites start kind children with stays | ⟨_, _, _, _, keyed⟩
  · rw [stays] at kinds
    subst kinds
    cases children with
    | nil => simp [writtenOfAll] at parts
    | cons first rest =>
      cases first with
      | node kind children => simp [writtenOfAll, Syntax.written] at parts
      | leaf kind old =>
        have form : (NodeKind.property .shorthand).keyForm? = some .shorthand := rfl
        rw [form, writtenOfAll, Syntax.written] at parts
        rcases leafWritten_cases m sites (some .shorthand) start kind old with
          ⟨form, _, _, become⟩ | ⟨outside, same⟩
        · rw [become] at parts
          cases form <;> simp [Site.written] at parts
        · rw [same, List.singleton_append, List.cons.injEq, leaf.injEq] at parts
          obtain ⟨⟨rfl, rfl⟩, _⟩ := parts
          exact outside .shorthand rfl (complete _ .shorthand)
  · rw [keyed] at kinds
    simp at kinds

/-- What is left of the key sites of a tree, if all of them are written. By the way in which the site is found in the
written tree. -/
theorem KeySite.remains {start' : Nat} {tree' : Syntax} {site : Site} (inside : KeySite start' tree' site)
    {start : Nat} {tree : Syntax} (written : tree.written m sites none start = [tree'])
    (complete : ∀ old, KeySite start tree old → old ∈ sites) : site.Remains m (KeySite start tree) := by
  induction inside generalizing start tree with
  | name =>
    rcases keyed_of_written written with ⟨key, rest, rfl, become, _⟩ | ⟨text, rfl, become⟩
    · have keys : ∀ old ∈ key.keySite start, old ∈ sites := fun old member =>
        complete old (keySite_keyed_iff.mpr (Or.inl (mem_keySite_iff.mp member)))
      exact absurd (key_of_written become (Or.inl rfl) keys).1 (by simp)
    · simp [Site.written] at become
  | string =>
    rcases keyed_of_written written with ⟨key, rest, rfl, become, _⟩ | ⟨text, rfl, become⟩
    · have keys : ∀ old ∈ key.keySite start, KeySite start (.node (.property .keyed) (key :: rest)) old :=
        fun old member => keySite_keyed_iff.mpr (Or.inl (mem_keySite_iff.mp member))
      obtain ⟨_, old, member, leaves⟩ :=
        key_of_written become (Or.inr rfl) fun old member => complete old (keys old member)
      exact ⟨old, keys old member, leaves⟩
    · simp only [Site.written, List.cons.injEq, leaf.injEq, true_and] at become
      rw [← become.1]
      exact ⟨_, .shorthand, .name (Or.inr rfl)⟩
  | shorthand => exact absurd written (not_shorthand_of_written complete)
  | value at_child inside ih =>
    rcases keyed_of_written written with ⟨key, rest, rfl, _, rfl⟩ | ⟨text, rfl, become⟩
    · obtain ⟨at_, part, at_part, become⟩ := part_of_written at_child
      exact .of_inner complete (fun old => .value at_part) (ih become)
    · -- behind the string that is written for a shorthand stand leaves only
      simp only [Site.written, List.cons.injEq] at become
      have member := at_child.mem
      rw [← become.2] at member
      simp only [List.mem_cons, List.not_mem_nil, or_false] at member
      rcases member with rfl | rfl | rfl <;> cases inside
  | element at_child =>
    obtain ⟨children, rfl, rfl⟩ := node_of_written_of_plain rfl written
    obtain ⟨at_, part, at_part, become⟩ := part_of_written at_child
    obtain ⟨old, rfl, _, leaves⟩ := leaf_of_written become
    have there := KeySite.element at_part
    exact ⟨_, there, leaves .string rfl (complete _ there)⟩
  | @deeper _ _ kind _ _ _ searched at_child _ ih =>
    have plain : kind.keyForm? = none := by
      cases kind <;> simp_all [NodeKind.keyForm?, NodeKind.isSearched]
    obtain ⟨children, rfl, rfl⟩ := node_of_written_of_plain plain written
    obtain ⟨at_, part, at_part, become⟩ := part_of_written at_child
    exact .of_inner complete (fun old => .deeper searched at_part) (ih become)

theorem ExpressionSite.remains {start' : Nat} {place : ClassAttribute} {tree' : Syntax} {site : Site}
    (inside : ExpressionSite start' place tree' site) {start : Nat} {tree : Syntax}
    (written : tree.written m sites none start = [tree'])
    (complete : ∀ old, ExpressionSite start place tree old → old ∈ sites) :
    site.Remains m (ExpressionSite start place tree) := by
  cases inside with
  | string =>
    obtain ⟨old, rfl, _, leaves⟩ := leaf_of_written written
    exact ⟨_, .string, leaves .string rfl (complete _ .string)⟩
  | @argument before' after' arguments' _ _ _ first at_argument inside =>
    obtain ⟨children, rfl, parts⟩ := node_of_written_of_plain rfl written
    obtain ⟨before, list, after, rfl, front, become⟩ := split_of_written parts
    obtain ⟨arguments, rfl, rfl⟩ := node_of_written_of_plain rfl become
    have first' : ∀ children, .node .arguments children ∉ before := by
      intro children member
      obtain ⟨more, others, rfl⟩ := List.append_of_mem member
      have become : ∀ at_, Syntax.written m sites none at_ (node .arguments children) =
          [node .arguments (writtenOfAll m sites none at_ children)] := fun _ => rfl
      have kept := (@part_append_cons start _ more others).mem_writtenOfAll (become _)
      rw [front] at kept
      exact first _ kept
    obtain ⟨at_, part, at_part, become⟩ := part_of_written at_argument
    exact .of_inner complete (fun old => .argument first' at_part) (inside.remains become)
  | array inside =>
    obtain ⟨children, rfl, _⟩ := node_of_written_of_plain rfl written
    exact .of_inner complete (fun old => .array) (inside.remains written)
  | object inside =>
    obtain ⟨children, rfl, _⟩ := node_of_written_of_plain rfl written
    exact .of_inner complete (fun old => .object) (inside.remains written)

theorem ValueSite.remains {start' : Nat} {place : ClassAttribute} {tree' : Syntax} {site : Site}
    (inside : ValueSite start' place tree' site) {start : Nat} {tree : Syntax}
    (written : tree.written m sites none start = [tree'])
    (complete : ∀ old, ValueSite start place tree old → old ∈ sites) :
    site.Remains m (ValueSite start place tree) := by
  cases inside with
  | markup =>
    obtain ⟨old, rfl, _, leaves⟩ := leaf_of_written written
    exact ⟨_, .markup, leaves .markup rfl (complete _ .markup)⟩
  | container only inside =>
    obtain ⟨children, rfl, rfl⟩ := node_of_written_of_plain rfl written
    obtain ⟨at_, part, only, become⟩ := onlyPart_of_written only
    exact .of_inner complete (fun old => .container only) (inside.remains become)

theorem AttributeSite.remains {start' start : Nat} {children : List Syntax} {site : Site}
    (inside : AttributeSite start' (writtenOfAll m sites none start children) site)
    (complete : ∀ old, AttributeSite start children old → old ∈ sites) :
    site.Remains m (AttributeSite start children) := by
  cases children with
  | nil => cases inside
  | cons first rest =>
    obtain ⟨first', become, _⟩ := exists_written m sites none (by simp) start first
    rw [writtenOfAll_cons rest become] at inside
    cases inside with
    | value named only inside =>
      obtain ⟨name, rfl, same, _⟩ := leaf_of_written become
      obtain rfl := same rfl
      obtain ⟨at_, part, only, become⟩ := onlyPart_of_written only
      exact .of_inner complete (fun old => .value named only) (inside.remains become)

/-- Only nodes become nodes. -/
theorem part_of_written_node {key : Option SiteForm} {start : Nat} {trees children' : List Syntax} {kind' : NodeKind}
    (member : .node kind' children' ∈ writtenOfAll m sites key start trees) :
    ∃ at_ part, Part start trees at_ part ∧ part.written m sites none at_ = [.node kind' children'] := by
  induction trees generalizing key start with
  | nil => simp [writtenOfAll] at member
  | cons tree trees ih =>
    rw [writtenOfAll, List.mem_append] at member
    rcases member with here | later
    · cases tree with
      | node kind children =>
        rw [List.mem_singleton.mp here]
        exact ⟨start, _, part_cons_iff.mpr (Or.inl ⟨rfl, rfl⟩), rfl⟩
      | leaf kind text =>
        rw [written] at here
        rcases leafWritten_cases m sites key start kind text with ⟨form, _, _, become⟩ | ⟨_, stays⟩
        · rw [become] at here
          cases form <;> simp [Site.written] at here
        · simp [stays] at here
    · obtain ⟨at_, part, at_part, become⟩ := ih later
      exact ⟨at_, part, part_cons_iff.mpr (Or.inr at_part), become⟩

/-- An attribute that stands in what is written for a tree stands in the tree. -/
theorem Within.of_written {start' at' : Nat} {tree' part' : Syntax} {children' : List Syntax}
    (within : Within start' tree' at' part') (same : part' = .node .markupAttribute children') {start : Nat}
    {tree : Syntax} (written : tree.written m sites none start = [tree']) :
    ∃ at_ children, Within start tree at_ (.node .markupAttribute children)
      ∧ writtenOfAll m sites none at_ children = children' := by
  induction within generalizing start tree with
  | here =>
    subst same
    obtain ⟨children, rfl, parts⟩ := node_of_written_of_plain rfl written
    exact ⟨start, children, .here, parts⟩
  | @inside _ _ _ _ _ child' _ at_child inner ih =>
    obtain ⟨kind, children, rfl, _, rfl⟩ := node_of_written written
    -- leaves become leaves, so what stands around an attribute was a node before
    cases child' with
    | leaf kind text =>
      cases inner
      simp at same
    | node kind' parts =>
      obtain ⟨next, child, at_child, become⟩ := part_of_written_node at_child.mem
      obtain ⟨at_, parts, below, those⟩ := ih same become
      exact ⟨at_, parts, .inside at_child below, those⟩

/-- What is left of the class sites of a tree, if all of them are written. -/
theorem ClassSite.remains {start' : Nat} {tree' : Syntax} {site : Site} (inside : ClassSite start' tree' site)
    {start : Nat} {tree : Syntax} (written : tree.written m sites none start = [tree'])
    (complete : ∀ old, ClassSite start tree old → old ∈ sites) : site.Remains m (ClassSite start tree) := by
  obtain ⟨at', children', within', inside⟩ := inside
  obtain ⟨at_, children, within, rfl⟩ := within'.of_written rfl written
  exact .of_inner complete (fun old there => ⟨at_, children, within, there⟩) inside.remains

/-- There are no class sites in an import, nor in the blank behind it. -/
theorem ClassSite.of_behindImport {start at_ : Nat} {id : List Char} {trees : List Syntax} {part : Syntax}
    {site : Site} (at_part : Part start (behindImport id trees) at_ part) (inside : ClassSite at_ part site) :
    part ∈ trees := by
  have item : part ≠ importItem id := by
    rintro rfl
    have none : (importItem id).classSites at_ = [] := rfl
    have member := (mem_classSites_iff _ at_ site).mpr inside
    rw [none] at member
    exact absurd member List.not_mem_nil
  have blank : ∀ text, part ≠ .leaf .blank text := by
    rintro text rfl
    exact not_classSite_leaf inside
  have member := at_part.mem
  unfold behindImport at member
  split at member
  · simp only [List.mem_cons, item, blank, false_or] at member
    exact List.mem_cons_of_mem _ member
  · simpa only [List.mem_cons, item, blank, false_or] using member

/-- Every class site of the tree of a rewritten component is left of a class site of the first tree. -/
theorem ClassSite.remains_of_rewritten {styleId : List Char} {children : List Syntax} {site : Site}
    (inside : ClassSite 0 ((node .other children).rewritten m styleId) site) :
    site.Remains m (ClassSite 0 (.node .other children)) := by
  obtain ⟨next, child', at_child, inChild⟩ := ClassSite.ofPart inside (by simp)
  have member : child' ∈ writtenOfAll m ((node .other children).classSites 0) none 0 children := by
    split at at_child
    · exact at_child.mem
    · exact inChild.of_behindImport at_child
  obtain ⟨before', after', split⟩ := List.append_of_mem member
  obtain ⟨before, child, after, rfl, _, become⟩ := split_of_written split
  have below : ∀ old, ClassSite _ child old → ClassSite 0 (.node .other (before ++ child :: after)) old :=
    fun old there => classSite_node_iff.mpr (Or.inr ⟨_, child, part_append_cons before after, there⟩)
  exact .of_inner (fun old => (mem_classSites_iff _ 0 old).mpr) below (inChild.remains become)

end Syntax

/-- If all class sites are plain, what was left of them is what stands at those of the rewritten tree. -/
theorem readsBack_rewritten {d : Dialect} {source : List Char} {m : Manifest} {first : Syntax} (styleId : List Char)
    (parsed : parse? d source = some first) (plain : ∀ site, first.ClassSite 0 site → site.Plain m) :
    ReadsBack m first (first.rewritten m styleId) := by
  obtain ⟨children, rfl⟩ := parse?_root parsed
  intro site inside
  obtain ⟨old, there, leaves⟩ := inside.remains_of_rewritten
  exact ⟨old, there, leaves, plain old there⟩

end CompanionStyles.Component
