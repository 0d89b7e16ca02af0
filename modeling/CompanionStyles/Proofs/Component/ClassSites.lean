import CompanionStyles.Component.Rewrite

/-!
What class sites are. `KeySite` and `ClassSite` say of a tree which of its leaves are sites and where
they start, by the shapes around them and not by a walk; the walks find these sites and no others.
-/

namespace CompanionStyles.Component

/-- Kinds below which keys are looked for wherever they stand. -/
def NodeKind.isSearched : NodeKind → Bool
  | .markupElement => false
  | .markupFragment => false
  | .markupAttribute => false
  | .property _ => false
  | _ => true

namespace Syntax

/-- `part` is one of neighbouring trees, the first of which starts at `start`, and starts at `at_`. -/
def Part (start : Nat) (trees : List Syntax) (at_ : Nat) (part : Syntax) : Prop :=
  ∃ before after, trees = before ++ part :: after ∧ at_ = start + Utf8.size (textOfAll before)

/-- `part` stands at any depth in a tree that starts at `start`, and starts at `at_`. -/
inductive Within : Nat → Syntax → Nat → Syntax → Prop
  | here {start : Nat} {tree : Syntax} : Within start tree start tree
  | inside {start next at_ : Nat} {kind : NodeKind} {children : List Syntax} {child part : Syntax}
      (at_child : Part start children next child) (within : Within next child at_ part) :
      Within start (.node kind children) at_ part

/-- Sites of class keys: the keys of properties that are names or strings, and the strings of arrays,
wherever no markup, no property of another form and no shorthand lies between. -/
inductive KeySite : Nat → Syntax → Site → Prop
  | name {start : Nat} {text : List Char} {rest : List Syntax} :
      KeySite start (.node (.property .keyed) (.leaf .name text :: rest)) ⟨start, text, .key⟩
  | string {start : Nat} {text : List Char} {rest : List Syntax} :
      KeySite start (.node (.property .keyed) (.leaf .string text :: rest)) ⟨start, text, .string⟩
  | shorthand {start : Nat} {text : List Char} {rest : List Syntax} :
      KeySite start (.node (.property .shorthand) (.leaf .name text :: rest))
        ⟨start, text, .shorthand⟩
  | value {start next : Nat} {key child : Syntax} {rest : List Syntax} {site : Site}
      (at_child : Part (start + key.size) rest next child) (inside : KeySite next child site) :
      KeySite start (.node (.property .keyed) (key :: rest)) site
  | element {start next : Nat} {children : List Syntax} {text : List Char}
      (at_child : Part start children next (.leaf .string text)) :
      KeySite start (.node .array children) ⟨next, text, .string⟩
  | deeper {start next : Nat} {kind : NodeKind} {children : List Syntax} {child : Syntax} {site : Site}
      (searched : kind.isSearched = true) (at_child : Part start children next child)
      (inside : KeySite next child site) : KeySite start (.node kind children) site

/-- `part` is the only one of neighbouring trees that is more than blanks and marks. -/
def OnlyPart (start : Nat) (trees : List Syntax) (at_ : Nat) (part : Syntax) : Prop :=
  Part start trees at_ part ∧ trees.filter isSubstantial = [part]

/-- Sites of an expression that an attribute has as its value. -/
inductive ExpressionSite (start : Nat) : ClassAttribute → Syntax → Site → Prop
  | string {text : List Char} :
      ExpressionSite start .classes (.leaf .string text) ⟨start, text, .string⟩
  | argument {before after arguments : List Syntax} {next : Nat} {argument : Syntax} {site : Site}
      (first : ∀ children, .node .arguments children ∉ before)
      (at_argument : Part (start + Utf8.size (textOfAll before)) arguments next argument)
      (inside : KeySite next argument site) :
      ExpressionSite start .classes (.node .call (before ++ .node .arguments arguments :: after)) site
  | array {children : List Syntax} {site : Site} (inside : KeySite start (.node .array children) site) :
      ExpressionSite start .classes (.node .array children) site
  | object {children : List Syntax} {site : Site} (inside : KeySite start (.node .object children) site) :
      ExpressionSite start .classList (.node .object children) site

/-- Sites of an attribute's value. -/
inductive ValueSite (start : Nat) : ClassAttribute → Syntax → Site → Prop
  | markup {text : List Char} :
      ValueSite start .classes (.leaf .markupString text) ⟨start, text, .markup⟩
  | container {place : ClassAttribute} {children : List Syntax} {next : Nat} {expression : Syntax}
      {site : Site} (only : OnlyPart start children next expression)
      (inside : ExpressionSite next place expression site) :
      ValueSite start place (.node .container children) site

/-- Sites of an attribute with the given parts: a plain name, and a value. -/
inductive AttributeSite (start : Nat) : List Syntax → Site → Prop
  | value {name : List Char} {rest : List Syntax} {place : ClassAttribute} {next : Nat}
      {value : Syntax} {site : Site} (named : ClassAttribute.ofName? name = some place)
      (only : OnlyPart (start + Utf8.size name) rest next value)
      (inside : ValueSite next place value site) :
      AttributeSite start (.leaf .markupName name :: rest) site

/-- Class sites of a tree that starts at `start`: those of the attributes at any depth. -/
def ClassSite (start : Nat) (tree : Syntax) (site : Site) : Prop :=
  ∃ at_ children, Within start tree at_ (.node .markupAttribute children)
    ∧ AttributeSite at_ children site

theorem not_part_nil {start at_ : Nat} {part : Syntax} : ¬ Part start [] at_ part := by
  rintro ⟨before, after, parts, _⟩
  simp at parts

/-- The first tree is a part, and the parts of those behind it are. -/
theorem part_cons_iff {start at_ : Nat} {tree part : Syntax} {trees : List Syntax} :
    Part start (tree :: trees) at_ part ↔
      at_ = start ∧ part = tree ∨ Part (start + tree.size) trees at_ part := by
  constructor
  · rintro ⟨before, after, parts, place⟩
    cases before with
    | nil =>
      rw [List.nil_append, List.cons.injEq] at parts
      exact Or.inl ⟨by simpa using place, parts.1.symm⟩
    | cons first before =>
      rw [List.cons_append, List.cons.injEq] at parts
      refine Or.inr ⟨before, after, parts.2, ?_⟩
      rw [place, ← parts.1, size_textOfAll_cons, Nat.add_assoc]
  · rintro (⟨place, rfl⟩ | ⟨before, after, parts, place⟩)
    · exact ⟨[], trees, rfl, by simp [place]⟩
    · refine ⟨tree :: before, after, by rw [parts, List.cons_append], ?_⟩
      rw [place, size_textOfAll_cons, Nat.add_assoc]

/-- Something holds of a part of neighbouring trees if it holds of the first one or of a part behind
it. -/
theorem exists_part_cons_iff {start : Nat} {tree : Syntax} {trees : List Syntax}
    {holds : Nat → Syntax → Prop} :
    (∃ at_ part, Part start (tree :: trees) at_ part ∧ holds at_ part) ↔
      holds start tree ∨ ∃ at_ part, Part (start + tree.size) trees at_ part ∧ holds at_ part := by
  constructor
  · rintro ⟨at_, part, member, h⟩
    rcases part_cons_iff.mp member with ⟨rfl, rfl⟩ | later
    · exact Or.inl h
    · exact Or.inr ⟨at_, part, later, h⟩
  · rintro (h | ⟨at_, part, later, h⟩)
    · exact ⟨start, tree, part_cons_iff.mpr (Or.inl ⟨rfl, rfl⟩), h⟩
    · exact ⟨at_, part, part_cons_iff.mpr (Or.inr later), h⟩

theorem mem_keySite_iff {start : Nat} {key : Syntax} {site : Site} :
    site ∈ key.keySite start ↔
      (∃ text, key = .leaf .name text ∧ site = ⟨start, text, .key⟩)
        ∨ ∃ text, key = .leaf .string text ∧ site = ⟨start, text, .string⟩ := by
  unfold keySite
  split <;> simp_all

theorem mem_elementSite_iff {start : Nat} {tree : Syntax} {site : Site} :
    site ∈ tree.elementSite start ↔ ∃ text, tree = .leaf .string text ∧ site = ⟨start, text, .string⟩ := by
  unfold elementSite
  split <;> simp_all

/-- Below a kind that is searched, all parts are, and the strings of an array are sites themselves. -/
theorem keySites_of_searched {start : Nat} {kind : NodeKind} (searched : kind.isSearched = true)
    (children : List Syntax) :
    keySites start (.node kind children) =
      if kind = .array then elementSitesOfAll start children else keySitesOfAll start children := by
  cases kind <;> simp_all [keySites, NodeKind.isSearched]

theorem keySite_of_searched_iff {start : Nat} {kind : NodeKind} (searched : kind.isSearched = true)
    {children : List Syntax} {site : Site} :
    KeySite start (.node kind children) site ↔
      (kind = .array ∧ ∃ at_ part, Part start children at_ part
        ∧ ∃ text, part = .leaf .string text ∧ site = ⟨at_, text, .string⟩)
      ∨ ∃ at_ part, Part start children at_ part ∧ KeySite at_ part site := by
  constructor
  · intro inside
    cases inside with
    | name => simp [NodeKind.isSearched] at searched
    | string => simp [NodeKind.isSearched] at searched
    | shorthand => simp [NodeKind.isSearched] at searched
    | value => simp [NodeKind.isSearched] at searched
    | element at_child => exact Or.inl ⟨rfl, _, _, at_child, _, rfl, rfl⟩
    | deeper _ at_child inside => exact Or.inr ⟨_, _, at_child, inside⟩
  · rintro (⟨rfl, at_, part, at_child, text, rfl, rfl⟩ | ⟨at_, part, at_child, inside⟩)
    · exact .element at_child
    · exact .deeper searched at_child inside

theorem keySite_keyed_iff {start : Nat} {key : Syntax} {rest : List Syntax} {site : Site} :
    KeySite start (.node (.property .keyed) (key :: rest)) site ↔
      ((∃ text, key = .leaf .name text ∧ site = ⟨start, text, .key⟩)
        ∨ ∃ text, key = .leaf .string text ∧ site = ⟨start, text, .string⟩)
      ∨ ∃ at_ part, Part (start + key.size) rest at_ part ∧ KeySite at_ part site := by
  constructor
  · intro inside
    cases inside with
    | name => exact Or.inl (Or.inl ⟨_, rfl, rfl⟩)
    | string => exact Or.inl (Or.inr ⟨_, rfl, rfl⟩)
    | value at_child inside => exact Or.inr ⟨_, _, at_child, inside⟩
    | deeper searched => simp [NodeKind.isSearched] at searched
  · rintro ((⟨text, rfl, rfl⟩ | ⟨text, rfl, rfl⟩) | ⟨at_, part, at_child, inside⟩)
    · exact .name
    · exact .string
    · exact .value at_child inside

theorem keySite_shorthand_iff {start : Nat} {children : List Syntax} {site : Site} :
    KeySite start (.node (.property .shorthand) children) site ↔
      ∃ text rest, children = .leaf .name text :: rest ∧ site = ⟨start, text, .shorthand⟩ := by
  constructor
  · intro inside
    cases inside with
    | shorthand => exact ⟨_, _, rfl, rfl⟩
    | deeper searched => simp [NodeKind.isSearched] at searched
  · rintro ⟨text, rest, rfl, rfl⟩
    exact .shorthand

theorem mem_keySites_shorthand_iff {start : Nat} {children : List Syntax} {site : Site} :
    site ∈ keySites start (.node (.property .shorthand) children) ↔
      ∃ text rest, children = .leaf .name text :: rest ∧ site = ⟨start, text, .shorthand⟩ := by
  cases children with
  | nil => simp [keySites]
  | cons first rest =>
    cases first with
    | node kind children => simp [keySites]
    | leaf kind text => cases kind <;> simp [keySites]

/-- There are no key sites in markup and in the other properties. -/
theorem not_keySite_of_closed {start : Nat} {kind : NodeKind} {children : List Syntax} {site : Site}
    (closed : kind.isSearched = false) (keyed : kind ≠ .property .keyed)
    (shorthand : kind ≠ .property .shorthand) : ¬ KeySite start (.node kind children) site := by
  intro inside
  cases inside with
  | name => exact keyed rfl
  | string => exact keyed rfl
  | shorthand => exact shorthand rfl
  | value => exact keyed rfl
  | element => simp [NodeKind.isSearched] at closed
  | deeper searched => rw [closed] at searched; exact absurd searched (by simp)

mutual
/-- The walk for keys finds the key sites of a tree. -/
theorem mem_keySites_iff : (tree : Syntax) → (start : Nat) → (site : Site) →
    (site ∈ tree.keySites start ↔ KeySite start tree site)
  | .leaf kind text, start, site => by
    simp only [keySites, List.not_mem_nil, false_iff]
    intro inside
    cases inside
  | .node kind children, start, site => by
    by_cases searched : kind.isSearched = true
    · rw [keySites_of_searched searched, keySite_of_searched_iff searched]
      split
      · rename_i array
        rw [mem_elementSitesOfAll_iff children start site]
        simp only [array, true_and]
      · rename_i array
        rw [mem_keySitesOfAll_iff children start site]
        simp only [array, false_and, false_or]
    · have closed : kind.isSearched = false := by simpa using searched
      by_cases keyed : kind = .property .keyed
      · subst keyed
        cases children with
        | nil =>
          simp only [keySites, List.not_mem_nil, false_iff]
          intro inside
          cases inside with
          | deeper searched => simp [NodeKind.isSearched] at searched
        | cons key rest =>
          rw [keySite_keyed_iff, keySites, List.mem_append, mem_keySite_iff,
            mem_keySitesOfAll_iff rest]
      · by_cases shorthand : kind = .property .shorthand
        · subst shorthand
          rw [keySite_shorthand_iff, mem_keySites_shorthand_iff]
        · have none : keySites start (.node kind children) = [] := by
            cases kind with
            | property form => cases form <;> simp_all [keySites]
            | _ => simp_all [keySites, NodeKind.isSearched]
          rw [none]
          simp only [List.not_mem_nil, false_iff]
          exact not_keySite_of_closed closed keyed shorthand

theorem mem_keySitesOfAll_iff : (trees : List Syntax) → (start : Nat) → (site : Site) →
    (site ∈ keySitesOfAll start trees ↔ ∃ at_ part, Part start trees at_ part ∧ KeySite at_ part site)
  | [], start, site => by
    simp [keySitesOfAll, not_part_nil]
  | tree :: trees, start, site => by
    rw [keySitesOfAll, List.mem_append, mem_keySites_iff tree, mem_keySitesOfAll_iff trees,
      exists_part_cons_iff]

theorem mem_elementSitesOfAll_iff : (trees : List Syntax) → (start : Nat) → (site : Site) →
    (site ∈ elementSitesOfAll start trees ↔
      (∃ at_ part, Part start trees at_ part ∧ ∃ text, part = .leaf .string text ∧ site = ⟨at_, text, .string⟩)
        ∨ ∃ at_ part, Part start trees at_ part ∧ KeySite at_ part site)
  | [], start, site => by
    simp [elementSitesOfAll, not_part_nil]
  | tree :: trees, start, site => by
    rw [elementSitesOfAll, List.mem_append, List.mem_append, mem_elementSite_iff, mem_keySites_iff tree,
      mem_elementSitesOfAll_iff trees, exists_part_cons_iff, exists_part_cons_iff]
    exact or_or_or_comm
end

theorem Part.mem {start at_ : Nat} {trees : List Syntax} {part : Syntax}
    (member : Part start trees at_ part) : part ∈ trees := by
  obtain ⟨before, after, rfl, _⟩ := member
  exact List.mem_append_right _ List.mem_cons_self

theorem onlyPart?_eq_some_iff {start at_ : Nat} {trees : List Syntax} {part : Syntax} :
    onlyPart? start trees = some (at_, part) ↔ OnlyPart start trees at_ part := by
  induction trees generalizing start with
  | nil => simp [onlyPart?, OnlyPart]
  | cons tree trees ih =>
    by_cases substantial : tree.isSubstantial = true
    · rw [onlyPart?, if_pos substantial, OnlyPart, List.filter_cons_of_pos substantial]
      by_cases more : trees.any isSubstantial = true
      · have others : trees.filter isSubstantial ≠ [] := by simpa using more
        simp [more, others]
      · have none : trees.filter isSubstantial = [] := by simpa using more
        rw [if_neg more, part_cons_iff, none]
        constructor
        · intro found
          obtain ⟨rfl, rfl⟩ : start = at_ ∧ tree = part := by simpa using found
          exact ⟨Or.inl ⟨rfl, rfl⟩, rfl⟩
        · rintro ⟨⟨rfl, rfl⟩ | later, only⟩
          · rfl
          · obtain rfl : tree = part := by simpa using only
            exact absurd (List.mem_filter.mpr ⟨later.mem, substantial⟩) (by simp [none])
    · rw [onlyPart?, if_neg substantial, ih, OnlyPart, OnlyPart, part_cons_iff,
        List.filter_cons_of_neg substantial]
      constructor
      · rintro ⟨later, only⟩
        exact ⟨Or.inr later, only⟩
      · rintro ⟨⟨_, rfl⟩ | later, only⟩
        · have member : part ∈ trees.filter isSubstantial := by simp [only]
          exact absurd (List.mem_filter.mp member).2 substantial
        · exact ⟨later, only⟩

/-- The arguments of a call are the first part that is a list of arguments. -/
theorem argumentsOf?_eq_some_iff {start at_ : Nat} {trees arguments : List Syntax} :
    argumentsOf? start trees = some (at_, arguments) ↔
      ∃ before after, trees = before ++ .node .arguments arguments :: after
        ∧ at_ = start + Utf8.size (textOfAll before)
        ∧ ∀ children, .node .arguments children ∉ before := by
  induction trees generalizing start with
  | nil => simp [argumentsOf?]
  | cons tree trees ih =>
    by_cases list : ∃ children, tree = .node .arguments children
    · obtain ⟨children, rfl⟩ := list
      simp only [argumentsOf?, Option.some.injEq, Prod.mk.injEq]
      constructor
      · rintro ⟨rfl, rfl⟩
        exact ⟨[], trees, rfl, by simp, by simp⟩
      · rintro ⟨before, after, parts, place, first⟩
        cases before with
        | nil =>
          rw [List.nil_append, List.cons.injEq, node.injEq] at parts
          exact ⟨by simpa using place.symm, parts.1.2⟩
        | cons head before =>
          rw [List.cons_append, List.cons.injEq] at parts
          exact absurd (by rw [← parts.1]; exact List.mem_cons_self) (first children)
    · have next : argumentsOf? start (tree :: trees) = argumentsOf? (start + tree.size) trees := by
        rw [argumentsOf?]
        intro children same
        exact list ⟨children, same⟩
      rw [next, ih]
      constructor
      · rintro ⟨before, after, parts, place, first⟩
        refine ⟨tree :: before, after, by rw [parts, List.cons_append], ?_, ?_⟩
        · rw [place, size_textOfAll_cons, Nat.add_assoc]
        · intro children member
          rcases List.mem_cons.mp member with same | member
          · exact list ⟨children, same.symm⟩
          · exact first children member
      · rintro ⟨before, after, parts, place, first⟩
        cases before with
        | nil =>
          rw [List.nil_append, List.cons.injEq] at parts
          exact absurd ⟨arguments, parts.1⟩ list
        | cons head before =>
          rw [List.cons_append, List.cons.injEq] at parts
          refine ⟨before, after, parts.2, ?_, fun children member => first children ?_⟩
          · rw [place, ← parts.1, size_textOfAll_cons, Nat.add_assoc]
          · exact List.mem_cons_of_mem _ member

theorem mem_expressionSites_iff {start : Nat} {place : ClassAttribute} {tree : Syntax} {site : Site} :
    site ∈ expressionSites start place tree ↔ ExpressionSite start place tree site := by
  constructor
  · intro member
    unfold expressionSites at member
    split at member
    · obtain rfl := List.mem_singleton.mp member
      exact .string
    · rename_i children
      split at member
      · rename_i next arguments found
        obtain ⟨before, after, rfl, rfl, first⟩ := argumentsOf?_eq_some_iff.mp found
        obtain ⟨at_, argument, at_argument, inside⟩ :=
          (mem_keySitesOfAll_iff arguments _ site).mp member
        exact .argument first at_argument inside
      · simp at member
    · exact .array ((mem_keySites_iff _ start site).mp member)
    · exact .object ((mem_keySites_iff _ start site).mp member)
    · simp at member
  · intro inside
    cases inside with
    | string => simp [expressionSites]
    | @argument before after arguments next argument _ first at_argument inside =>
      have found : argumentsOf? start (before ++ .node .arguments arguments :: after) =
          some (start + Utf8.size (textOfAll before), arguments) :=
        argumentsOf?_eq_some_iff.mpr ⟨before, after, rfl, rfl, first⟩
      simp only [expressionSites, found]
      exact (mem_keySitesOfAll_iff arguments _ site).mpr ⟨next, argument, at_argument, inside⟩
    | array inside => exact (mem_keySites_iff _ start site).mpr inside
    | object inside => exact (mem_keySites_iff _ start site).mpr inside

theorem mem_valueSites_iff {start : Nat} {place : ClassAttribute} {tree : Syntax} {site : Site} :
    site ∈ valueSites start place tree ↔ ValueSite start place tree site := by
  constructor
  · intro member
    unfold valueSites at member
    split at member
    · obtain rfl := List.mem_singleton.mp member
      exact .markup
    · split at member
      · rename_i next expression found
        exact .container (onlyPart?_eq_some_iff.mp found) (mem_expressionSites_iff.mp member)
      · simp at member
    · simp at member
  · intro inside
    cases inside with
    | markup => simp [valueSites]
    | @container _ children next expression _ only inside =>
      simp only [valueSites, onlyPart?_eq_some_iff.mpr only]
      exact mem_expressionSites_iff.mpr inside

theorem mem_attributeSites_iff {start : Nat} {children : List Syntax} {site : Site} :
    site ∈ attributeSites start children ↔ AttributeSite start children site := by
  constructor
  · intro member
    unfold attributeSites at member
    split at member
    · split at member
      · rename_i place next value named found
        exact .value named (onlyPart?_eq_some_iff.mp found) (mem_valueSites_iff.mp member)
      · simp at member
    · simp at member
  · intro inside
    cases inside with
    | @value name rest place next value _ named only inside =>
      simp only [attributeSites, named, onlyPart?_eq_some_iff.mpr only]
      exact mem_valueSites_iff.mpr inside

/-- What stands in a node is the node itself or stands in one of its parts. -/
theorem within_node_iff {start at_ : Nat} {kind : NodeKind} {children : List Syntax} {part : Syntax} :
    Within start (.node kind children) at_ part ↔
      (at_ = start ∧ part = .node kind children)
        ∨ ∃ next child, Part start children next child ∧ Within next child at_ part := by
  constructor
  · intro within
    cases within with
    | here => exact Or.inl ⟨rfl, rfl⟩
    | inside at_child within => exact Or.inr ⟨_, _, at_child, within⟩
  · rintro (⟨rfl, rfl⟩ | ⟨next, child, at_child, within⟩)
    · exact .here
    · exact .inside at_child within

/-- The class sites of a node are its own, if it is an attribute, and those of its parts. -/
theorem classSite_node_iff {start : Nat} {kind : NodeKind} {children : List Syntax} {site : Site} :
    ClassSite start (.node kind children) site ↔
      (kind = .markupAttribute ∧ AttributeSite start children site)
        ∨ ∃ next child, Part start children next child ∧ ClassSite next child site := by
  constructor
  · rintro ⟨at_, parts, within, inside⟩
    rcases within_node_iff.mp within with ⟨rfl, same⟩ | ⟨next, child, at_child, within⟩
    · obtain ⟨rfl, rfl⟩ := node.inj same
      exact Or.inl ⟨rfl, inside⟩
    · exact Or.inr ⟨next, child, at_child, at_, parts, within, inside⟩
  · rintro (⟨rfl, inside⟩ | ⟨next, child, at_child, at_, parts, within, inside⟩)
    · exact ⟨start, children, .here, inside⟩
    · exact ⟨at_, parts, .inside at_child within, inside⟩

mutual
/-- The walk for attributes finds the class sites of a tree. -/
theorem mem_classSites_iff : (tree : Syntax) → (start : Nat) → (site : Site) →
    (site ∈ tree.classSites start ↔ ClassSite start tree site)
  | .leaf kind text, start, site => by
    simp only [classSites, List.not_mem_nil, false_iff]
    rintro ⟨at_, children, within, _⟩
    cases within
  | .node kind children, start, site => by
    rw [classSite_node_iff]
    by_cases own : kind = .markupAttribute
    · subst own
      rw [classSites, List.mem_append, mem_attributeSites_iff, mem_classSitesOfAll_iff children]
      simp
    · have below : classSites start (.node kind children) = classSitesOfAll start children := by
        rw [classSites]
        exact own
      rw [below, mem_classSitesOfAll_iff children]
      simp [own]

theorem mem_classSitesOfAll_iff : (trees : List Syntax) → (start : Nat) → (site : Site) →
    (site ∈ classSitesOfAll start trees ↔
      ∃ at_ part, Part start trees at_ part ∧ ClassSite at_ part site)
  | [], start, site => by
    simp [classSitesOfAll, not_part_nil]
  | tree :: trees, start, site => by
    rw [classSitesOfAll, List.mem_append, mem_classSites_iff tree, mem_classSitesOfAll_iff trees,
      exists_part_cons_iff]
end

end Syntax

end CompanionStyles.Component
