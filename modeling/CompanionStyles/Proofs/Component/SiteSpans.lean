import CompanionStyles.Proofs.Component.ClassSites

/-!
The spans of class sites. Every site is a leaf of its tree, and in a tree without empty leaves no two
sites that a walk finds share a byte.
-/

namespace CompanionStyles.Component

/-- The kind of the leaves that are sites of a form. -/
def SiteForm.kind : SiteForm → LeafKind
  | .markup => .markupString
  | .string => .string
  | .key => .name
  | .shorthand => .name

/-- No byte lies in both sites. -/
def Site.Apart (a b : Site) : Prop :=
  a.stop ≤ b.start ∨ b.stop ≤ a.start

theorem Site.Apart.symm {a b : Site} (apart : a.Apart b) : b.Apart a :=
  Or.symm apart

/-- The site lies between two bytes and is not empty. -/
structure Site.Between (site : Site) (start stop : Nat) : Prop where
  lower : start ≤ site.start
  solid : site.start < site.stop
  upper : site.stop ≤ stop

/-- Sites on the two sides of a byte are apart. -/
theorem Site.Between.apart {a b : Site} {start middle next stop : Nat} (left : a.Between start middle)
    (right : b.Between next stop) (order : middle ≤ next) : a.Apart b := by
  have upper := left.upper
  have lower := right.lower
  exact Or.inl (by omega)

namespace Syntax

/-- No leaf of the tree is empty. -/
def Solid (tree : Syntax) : Prop :=
  ∀ leaf ∈ tree.leaves, leaf.text ≠ []

/-- A part's leaves stand among those of all parts, behind those of the parts before it. -/
theorem Part.leaves {start at_ : Nat} {trees : List Syntax} {part : Syntax}
    (member : Part start trees at_ part) :
    ∃ before after, leavesOfAll trees = before ++ part.leaves ++ after
      ∧ at_ = start + Utf8.size (before.flatMap Leaf.text) := by
  obtain ⟨before, after, rfl, place⟩ := member
  refine ⟨leavesOfAll before, leavesOfAll after, by simp, ?_⟩
  rw [place, flatMap_leavesOfAll]

theorem Part.bounds {start at_ : Nat} {trees : List Syntax} {part : Syntax}
    (member : Part start trees at_ part) :
    start ≤ at_ ∧ at_ + part.size ≤ start + Utf8.size (textOfAll trees) := by
  obtain ⟨before, after, rfl, place⟩ := member
  simp only [textOfAll_append, textOfAll_cons, Utf8.size_append, Syntax.size]
  omega

/-- Two parts are one, or one of them ends before the other starts. -/
theorem Part.compare {start first second : Nat} {trees : List Syntax} {a b : Syntax}
    (left : Part start trees first a) (right : Part start trees second b) :
    (first = second ∧ a = b) ∨ first + a.size ≤ second ∨ second + b.size ≤ first := by
  induction trees generalizing start with
  | nil => exact absurd left not_part_nil
  | cons tree trees ih =>
    rcases part_cons_iff.mp left with ⟨rfl, rfl⟩ | left
    · rcases part_cons_iff.mp right with ⟨rfl, rfl⟩ | right
      · exact Or.inl ⟨rfl, rfl⟩
      · exact Or.inr (Or.inl right.bounds.1)
    · rcases part_cons_iff.mp right with ⟨rfl, rfl⟩ | right
      · exact Or.inr (Or.inr left.bounds.1)
      · exact ih left right

theorem Solid.part {kind : NodeKind} {children : List Syntax} {start at_ : Nat} {part : Syntax}
    (solid : Solid (.node kind children)) (member : Part start children at_ part) : Solid part := by
  obtain ⟨before, after, leaves, _⟩ := member.leaves
  intro leaf inPart
  exact solid leaf (by rw [leaves_node, leaves]; simp [inPart])

theorem Within.trans {start next at_ : Nat} {tree middle part : Syntax}
    (outer : Within start tree next middle) (inner : Within next middle at_ part) :
    Within start tree at_ part := by
  induction outer with
  | here => exact inner
  | inside at_child _ ih => exact .inside at_child (ih inner)

theorem Within.leaves {start at_ : Nat} {tree part : Syntax} (within : Within start tree at_ part) :
    ∃ before after, tree.leaves = before ++ part.leaves ++ after
      ∧ at_ = start + Utf8.size (before.flatMap Leaf.text) := by
  induction within with
  | @here start tree => exact ⟨[], [], by simp, by simp⟩
  | @inside start next at_ kind children child part at_child within ih =>
    obtain ⟨before, after, leaves, place⟩ := at_child.leaves
    obtain ⟨before', after', leaves', place'⟩ := ih
    refine ⟨before ++ before', after' ++ after, ?_, ?_⟩
    · rw [leaves_node, leaves, leaves']
      simp
    · rw [place', place, List.flatMap_append, Utf8.size_append]
      omega

theorem Within.text {start at_ : Nat} {tree part : Syntax} (within : Within start tree at_ part) :
    ∃ before after, tree.text = before ++ (part.text ++ after)
      ∧ at_ = start + Utf8.size before := by
  obtain ⟨before, after, leaves, place⟩ := within.leaves
  refine ⟨before.flatMap Leaf.text, after.flatMap Leaf.text, ?_, place⟩
  rw [← flatMap_leaves tree, leaves]
  simp [flatMap_leaves]

/-- The site is a leaf of the tree. -/
def Holds (start : Nat) (tree : Syntax) (site : Site) : Prop :=
  ∃ kind, Within start tree site.start (.leaf kind site.text)

theorem Holds.part {start at_ : Nat} {kind : NodeKind} {children : List Syntax} {part : Syntax}
    {site : Site} (member : Part start children at_ part) (holds : Holds at_ part site) :
    Holds start (.node kind children) site := by
  obtain ⟨leafKind, within⟩ := holds
  exact ⟨leafKind, .inside member within⟩

theorem Holds.between {start : Nat} {tree : Syntax} {site : Site} (holds : Holds start tree site)
    (solid : tree.Solid) : site.Between start (start + tree.size) := by
  obtain ⟨kind, within⟩ := holds
  obtain ⟨before, after, leaves, place⟩ := within.leaves
  have nonempty : site.text ≠ [] := solid ⟨kind, site.text⟩ (by rw [leaves]; simp)
  have positive := Utf8.size_pos nonempty
  have whole : tree.size =
      Utf8.size (before.flatMap Leaf.text) + Utf8.size site.text + Utf8.size (after.flatMap Leaf.text) := by
    rw [Syntax.size, ← flatMap_leaves, leaves]
    simp [Nat.add_assoc]
  refine ⟨by omega, ?_, ?_⟩
  · rw [Site.stop]
    omega
  · rw [Site.stop]
    omega

theorem KeySite.within {start : Nat} {tree : Syntax} {site : Site} (inside : KeySite start tree site) :
    Within start tree site.start (.leaf site.form.kind site.text) := by
  induction inside with
  | name => exact .inside (part_cons_iff.mpr (Or.inl ⟨rfl, rfl⟩)) .here
  | string => exact .inside (part_cons_iff.mpr (Or.inl ⟨rfl, rfl⟩)) .here
  | shorthand => exact .inside (part_cons_iff.mpr (Or.inl ⟨rfl, rfl⟩)) .here
  | value at_child _ ih => exact .inside (part_cons_iff.mpr (Or.inr at_child)) ih
  | element at_child => exact .inside at_child .here
  | deeper _ at_child _ ih => exact .inside at_child ih

theorem KeySite.holds {start : Nat} {tree : Syntax} {site : Site} (inside : KeySite start tree site) :
    Holds start tree site :=
  ⟨_, inside.within⟩

theorem part_append_cons {start : Nat} {part : Syntax} (before after : List Syntax) :
    Part start (before ++ part :: after) (start + Utf8.size (textOfAll before)) part :=
  ⟨before, after, rfl, rfl⟩

theorem ExpressionSite.within {start : Nat} {place : ClassAttribute} {tree : Syntax} {site : Site}
    (inside : ExpressionSite start place tree site) :
    Within start tree site.start (.leaf site.form.kind site.text) := by
  cases inside with
  | string => exact .here
  | argument first at_argument inside =>
    exact .inside (part_append_cons _ _) (.inside at_argument inside.within)
  | array inside => exact inside.within
  | object inside => exact inside.within

theorem ExpressionSite.holds {start : Nat} {place : ClassAttribute} {tree : Syntax} {site : Site}
    (inside : ExpressionSite start place tree site) : Holds start tree site :=
  ⟨_, inside.within⟩

theorem ValueSite.within {start : Nat} {place : ClassAttribute} {tree : Syntax} {site : Site}
    (inside : ValueSite start place tree site) :
    Within start tree site.start (.leaf site.form.kind site.text) := by
  cases inside with
  | markup => exact .here
  | container only inside => exact .inside only.1 inside.within

theorem ValueSite.holds {start : Nat} {place : ClassAttribute} {tree : Syntax} {site : Site}
    (inside : ValueSite start place tree site) : Holds start tree site :=
  ⟨_, inside.within⟩

theorem AttributeSite.within {start : Nat} {children : List Syntax} {site : Site}
    (inside : AttributeSite start children site) :
    Within start (.node .markupAttribute children) site.start (.leaf site.form.kind site.text) := by
  cases inside with
  | value _ only inside =>
    exact .inside (part_cons_iff.mpr (Or.inr (by simpa [Syntax.size] using only.1))) inside.within

/-- A class site is a leaf of the kind that its form needs. -/
theorem ClassSite.within {start : Nat} {tree : Syntax} {site : Site} (inside : ClassSite start tree site) :
    Within start tree site.start (.leaf site.form.kind site.text) := by
  obtain ⟨at_, children, within, inside⟩ := inside
  exact within.trans inside.within

theorem ClassSite.holds {start : Nat} {tree : Syntax} {site : Site} (inside : ClassSite start tree site) :
    Holds start tree site :=
  ⟨_, inside.within⟩

/-- Sites in two parts are apart, unless they are in the same part and not apart in it. -/
theorem Part.apart {start first second : Nat} {kind : NodeKind} {children : List Syntax} {p q : Syntax}
    {a b : Site} (left : Part start children first p) (right : Part start children second q)
    (solid : Solid (.node kind children)) (inLeft : Holds first p a) (inRight : Holds second q b)
    (same : first = second → p = q → a.Apart b) : a.Apart b := by
  have boundsLeft := inLeft.between (solid.part left)
  have boundsRight := inRight.between (solid.part right)
  rcases left.compare right with ⟨place, part⟩ | before | after
  · exact same place part
  · exact boundsLeft.apart boundsRight before
  · exact (boundsRight.apart boundsLeft after).symm

theorem not_classSite_leaf {start : Nat} {kind : LeafKind} {text : List Char} {site : Site} :
    ¬ ClassSite start (.leaf kind text) site := by
  rintro ⟨at_, children, within, _⟩
  cases within

/-- Below a node that is no attribute, class sites are those of the parts. -/
theorem ClassSite.ofPart {start : Nat} {kind : NodeKind} {children : List Syntax} {site : Site}
    (inside : ClassSite start (.node kind children) site) (other : kind ≠ .markupAttribute) :
    ∃ next child, Part start children next child ∧ ClassSite next child site := by
  rcases classSite_node_iff.mp inside with ⟨own, _⟩ | below
  · exact absurd own other
  · exact below

/-- A leaf that is a part and a class site of the same node that is no attribute are apart. -/
theorem ClassSite.apart_leaf {start next : Nat} {kind : NodeKind} {leafKind : LeafKind}
    {children : List Syntax} {text : List Char} {form : SiteForm} {site : Site}
    (inside : ClassSite start (.node kind children) site) (other : kind ≠ .markupAttribute)
    (solid : Solid (.node kind children)) (member : Part start children next (.leaf leafKind text)) :
    Site.Apart ⟨next, text, form⟩ site := by
  obtain ⟨at_, part, at_part, inside⟩ := inside.ofPart other
  refine member.apart at_part solid ⟨leafKind, .here⟩ inside.holds ?_
  rintro rfl rfl
  exact absurd inside not_classSite_leaf

/-- A key site of a part is apart from a class site of the node if it is so in the part. -/
theorem KeySite.apart_of_part {start next : Nat} {kind : NodeKind} {children : List Syntax}
    {child : Syntax} {a b : Site} (key : KeySite next child a) (other : kind ≠ .markupAttribute)
    (at_child : Part start children next child) (inside : ClassSite start (.node kind children) b)
    (solid : Solid (.node kind children))
    (within : ClassSite next child b → child.Solid → a.Apart b) : a.Apart b := by
  obtain ⟨at_, part, at_part, inside⟩ := inside.ofPart other
  refine at_child.apart at_part solid key.holds inside.holds ?_
  rintro rfl rfl
  exact within inside (solid.part at_child)

/-- A key site is apart from the class sites of the attributes in the same tree. -/
theorem KeySite.apart {start : Nat} {tree : Syntax} {a b : Site} (key : KeySite start tree a)
    (inside : ClassSite start tree b) (solid : tree.Solid) : a.Apart b := by
  induction key with
  | name => exact inside.apart_leaf (by simp) solid (part_cons_iff.mpr (Or.inl ⟨rfl, rfl⟩))
  | string => exact inside.apart_leaf (by simp) solid (part_cons_iff.mpr (Or.inl ⟨rfl, rfl⟩))
  | shorthand => exact inside.apart_leaf (by simp) solid (part_cons_iff.mpr (Or.inl ⟨rfl, rfl⟩))
  | value at_child key ih =>
    exact key.apart_of_part (by simp) (part_cons_iff.mpr (Or.inr at_child)) inside solid ih
  | element at_child => exact inside.apart_leaf (by simp) solid at_child
  | @deeper _ _ kind _ _ _ searched at_child key ih =>
    refine key.apart_of_part ?_ at_child inside solid ih
    rintro rfl
    simp [NodeKind.isSearched] at searched

theorem ExpressionSite.apart {start : Nat} {place : ClassAttribute} {tree : Syntax} {a b : Site}
    (own : ExpressionSite start place tree a) (inside : ClassSite start tree b) (solid : tree.Solid) :
    a.Apart b := by
  cases own with
  | string => exact absurd inside not_classSite_leaf
  | array key => exact key.apart inside solid
  | object key => exact key.apart inside solid
  | @argument before after arguments next argument _ first at_argument key =>
    obtain ⟨at_, part, at_part, inside⟩ := inside.ofPart (by simp)
    have at_arguments := @part_append_cons start (.node .arguments arguments) before after
    refine at_arguments.apart at_part solid (key.holds.part at_argument) inside.holds ?_
    rintro rfl rfl
    exact key.apart_of_part (by simp) at_argument inside (solid.part at_arguments)
      fun inside solid => key.apart inside solid

theorem ValueSite.apart {start : Nat} {place : ClassAttribute} {tree : Syntax} {a b : Site}
    (own : ValueSite start place tree a) (inside : ClassSite start tree b) (solid : tree.Solid) :
    a.Apart b := by
  cases own with
  | markup => exact absurd inside not_classSite_leaf
  | container only own =>
    obtain ⟨at_, part, at_part, inside⟩ := inside.ofPart (by simp)
    refine only.1.apart at_part solid own.holds inside.holds ?_
    rintro rfl rfl
    exact own.apart inside (solid.part only.1)

/-- The sites of an attribute are apart from those of the attributes that stand in its value. -/
theorem AttributeSite.apart {start next : Nat} {children : List Syntax} {child : Syntax} {a b : Site}
    (own : AttributeSite start children a) (at_child : Part start children next child)
    (inside : ClassSite next child b) (solid : Solid (.node .markupAttribute children)) :
    a.Apart b := by
  cases own with
  | @value name rest place at_value value _ named only own =>
    have at_value : Part start (.leaf .markupName name :: rest) at_value value :=
      part_cons_iff.mpr (Or.inr (by simpa [Syntax.size] using only.1))
    refine at_value.apart at_child solid own.holds inside.holds ?_
    rintro rfl rfl
    exact own.apart inside (solid.part at_value)

def SolidAll (trees : List Syntax) : Prop :=
  ∀ leaf ∈ leavesOfAll trees, leaf.text ≠ []

theorem SolidAll.node {trees : List Syntax} (solid : SolidAll trees) (kind : NodeKind) :
    Solid (.node kind trees) := by
  intro leaf member
  exact solid leaf (by simpa using member)

theorem SolidAll.head {tree : Syntax} {trees : List Syntax} (solid : SolidAll (tree :: trees)) :
    tree.Solid := by
  intro leaf member
  exact solid leaf (by simp [member])

theorem SolidAll.tail {tree : Syntax} {trees : List Syntax} (solid : SolidAll (tree :: trees)) :
    SolidAll trees := by
  intro leaf member
  exact solid leaf (by simp [member])

/-- Sites of the first of some trees are apart from those of the trees behind it. -/
theorem Holds.apart_tail {start at_ : Nat} {tree part : Syntax} {trees : List Syntax} {a b : Site}
    (left : Holds start tree a) (member : Part (start + tree.size) trees at_ part)
    (right : Holds at_ part b) (solid : SolidAll (tree :: trees)) : a.Apart b := by
  have node := solid.tail.node .other
  exact (left.between solid.head).apart (right.between (node.part member)) member.bounds.1

theorem keySite_pairwise (start : Nat) (key : Syntax) : (key.keySite start).Pairwise Site.Apart := by
  unfold keySite
  split <;> simp

theorem keySite_holds {start : Nat} {key : Syntax} {site : Site} (member : site ∈ key.keySite start) :
    Holds start key site := by
  rcases mem_keySite_iff.mp member with ⟨text, rfl, rfl⟩ | ⟨text, rfl, rfl⟩
  · exact ⟨.name, .here⟩
  · exact ⟨.string, .here⟩

theorem elementSite_pairwise (start : Nat) (tree : Syntax) :
    (tree.elementSite start).Pairwise Site.Apart := by
  unfold elementSite
  split <;> simp

theorem keySites_shorthand_pairwise (start : Nat) (children : List Syntax) :
    (keySites start (.node (.property .shorthand) children)).Pairwise Site.Apart := by
  cases children with
  | nil => simp [keySites]
  | cons first rest =>
    cases first with
    | node kind children => simp [keySites]
    | leaf kind text => cases kind <;> simp [keySites]

mutual
/-- The walk for keys finds no byte twice. -/
theorem keySites_pairwise : (tree : Syntax) → (start : Nat) → tree.Solid →
    (tree.keySites start).Pairwise Site.Apart
  | .leaf kind text, start, solid => by simp [keySites]
  | .node kind children, start, solid => by
    have all : SolidAll children := fun leaf member => solid leaf (by simpa using member)
    by_cases searched : kind.isSearched = true
    · rw [keySites_of_searched searched]
      split
      · exact elementSitesOfAll_pairwise children start all
      · exact keySitesOfAll_pairwise children start all
    · cases kind with
      | property form =>
        cases form with
        | keyed =>
          cases children with
          | nil => simp [keySites]
          | cons key rest =>
            rw [keySites, List.pairwise_append]
            refine ⟨keySite_pairwise start key, keySitesOfAll_pairwise rest _ all.tail, ?_⟩
            intro a inKey b inRest
            obtain ⟨at_, part, member, inside⟩ := (mem_keySitesOfAll_iff rest _ b).mp inRest
            exact (keySite_holds inKey).apart_tail member inside.holds all
        | shorthand => exact keySites_shorthand_pairwise start children
        | _ => simp [keySites]
      | _ => simp_all [keySites, NodeKind.isSearched]

theorem keySitesOfAll_pairwise : (trees : List Syntax) → (start : Nat) → SolidAll trees →
    (keySitesOfAll start trees).Pairwise Site.Apart
  | [], start, solid => by simp [keySitesOfAll]
  | tree :: trees, start, solid => by
    rw [keySitesOfAll, List.pairwise_append]
    refine ⟨keySites_pairwise tree start solid.head, keySitesOfAll_pairwise trees _ solid.tail, ?_⟩
    intro a inTree b inTrees
    obtain ⟨at_, part, member, inside⟩ := (mem_keySitesOfAll_iff trees _ b).mp inTrees
    exact ((mem_keySites_iff tree start a).mp inTree).holds.apart_tail member inside.holds solid

theorem elementSitesOfAll_pairwise : (trees : List Syntax) → (start : Nat) → SolidAll trees →
    (elementSitesOfAll start trees).Pairwise Site.Apart
  | [], start, solid => by simp [elementSitesOfAll]
  | tree :: trees, start, solid => by
    have keys := keySites_pairwise tree start solid.head
    have later := elementSitesOfAll_pairwise trees (start + tree.size) solid.tail
    have holds : ∀ a ∈ tree.elementSite start ++ tree.keySites start, Holds start tree a := by
      intro a member
      rcases List.mem_append.mp member with element | key
      · obtain ⟨text, rfl, rfl⟩ := mem_elementSite_iff.mp element
        exact ⟨.string, .here⟩
      · exact ((mem_keySites_iff tree start a).mp key).holds
    rw [elementSitesOfAll, List.pairwise_append, List.pairwise_append]
    refine ⟨⟨elementSite_pairwise start tree, keys, ?_⟩, later, ?_⟩
    · intro a element b key
      obtain ⟨text, rfl, rfl⟩ := mem_elementSite_iff.mp element
      simp [keySites] at key
    · intro a inTree b inTrees
      rcases (mem_elementSitesOfAll_iff trees _ b).mp inTrees with
        ⟨at_, part, member, text, rfl, rfl⟩ | ⟨at_, part, member, inside⟩
      · exact (holds a inTree).apart_tail member ⟨.string, .here⟩ solid
      · exact (holds a inTree).apart_tail member inside.holds solid
end

theorem expressionSites_pairwise (start : Nat) (place : ClassAttribute) (tree : Syntax)
    (solid : tree.Solid) : (expressionSites start place tree).Pairwise Site.Apart := by
  unfold expressionSites
  split
  · simp
  · split
    · rename_i children _ next arguments found
      obtain ⟨before, after, rfl, _, _⟩ := argumentsOf?_eq_some_iff.mp found
      refine keySitesOfAll_pairwise arguments next ?_
      intro leaf member
      exact solid leaf (by simp [member])
    · simp
  · exact keySites_pairwise _ start solid
  · exact keySites_pairwise _ start solid
  · simp

theorem valueSites_pairwise (start : Nat) (place : ClassAttribute) (tree : Syntax) (solid : tree.Solid) :
    (valueSites start place tree).Pairwise Site.Apart := by
  unfold valueSites
  split
  · simp
  · split
    · rename_i found
      exact expressionSites_pairwise _ _ _ (solid.part (onlyPart?_eq_some_iff.mp found).1)
    · simp
  · simp

theorem attributeSites_pairwise (start : Nat) (children : List Syntax) (solid : SolidAll children) :
    (attributeSites start children).Pairwise Site.Apart := by
  unfold attributeSites
  split
  · split
    · rename_i found
      exact valueSites_pairwise _ _ _ ((solid.tail.node .other).part (onlyPart?_eq_some_iff.mp found).1)
    · simp
  · simp

mutual
/-- The walk for attributes finds no byte twice. -/
theorem classSites_pairwise : (tree : Syntax) → (start : Nat) → tree.Solid →
    (tree.classSites start).Pairwise Site.Apart
  | .leaf kind text, start, solid => by simp [classSites]
  | .node kind children, start, solid => by
    have all : SolidAll children := fun leaf member => solid leaf (by simpa using member)
    have below := classSitesOfAll_pairwise children start all
    by_cases own : kind = .markupAttribute
    · subst own
      rw [classSites, List.pairwise_append]
      refine ⟨attributeSites_pairwise start children all, below, ?_⟩
      intro a inOwn b inBelow
      obtain ⟨at_, part, member, inside⟩ := (mem_classSitesOfAll_iff children start b).mp inBelow
      exact (mem_attributeSites_iff.mp inOwn).apart member inside solid
    · rw [classSites]
      · exact below
      · exact own

theorem classSitesOfAll_pairwise : (trees : List Syntax) → (start : Nat) → SolidAll trees →
    (classSitesOfAll start trees).Pairwise Site.Apart
  | [], start, solid => by simp [classSitesOfAll]
  | tree :: trees, start, solid => by
    rw [classSitesOfAll, List.pairwise_append]
    refine ⟨classSites_pairwise tree start solid.head, classSitesOfAll_pairwise trees _ solid.tail, ?_⟩
    intro a inTree b inTrees
    obtain ⟨at_, part, member, inside⟩ := (mem_classSitesOfAll_iff trees _ b).mp inTrees
    exact ((mem_classSites_iff tree start a).mp inTree).holds.apart_tail member inside.holds solid
end

end Syntax

end CompanionStyles.Component
