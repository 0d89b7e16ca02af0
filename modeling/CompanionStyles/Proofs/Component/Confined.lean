import CompanionStyles.Proofs.Component.ClassEdits
import CompanionStyles.Proofs.Patch.Apart

/-!
What rewriting leaves as it is. The edits of a component lie in the values of its class attributes and stay apart,
so each that changes anything is applied, and outside of those values the source is kept.
-/

namespace CompanionStyles.Component

namespace Syntax

/-- The value of an attribute that class names stand in: from `start` up to `stop`. -/
def ClassValue (tree : Syntax) (start stop : Nat) : Prop :=
  ∃ at_ name rest place value, Within 0 tree at_ (.node .markupAttribute (.leaf .markupName name :: rest))
    ∧ ClassAttribute.ofName? name = some place ∧ OnlyPart (at_ + Utf8.size name) rest start value
    ∧ stop = start + value.size

/-- No leaf of what stands in a tree without empty leaves is empty. -/
theorem Within.solid {start at_ : Nat} {tree part : Syntax} (within : Within start tree at_ part)
    (solid : tree.Solid) : part.Solid := by
  obtain ⟨before, after, leaves, _⟩ := within.leaves
  intro leaf member
  exact solid leaf (by rw [leaves]; simp [member])

theorem ClassSite.exists_value {tree : Syntax} {site : Site} (inside : tree.ClassSite 0 site)
    (solid : tree.Solid) :
    ∃ start stop, tree.ClassValue start stop ∧ start ≤ site.start ∧ site.stop ≤ stop := by
  obtain ⟨at_, children, within, own⟩ := inside
  cases own with
  | @value name rest place next value _ named only own =>
    have whole := within.solid solid
    have part : Part at_ (.leaf .markupName name :: rest) next value :=
      part_cons_iff.mpr (Or.inr (by simpa [Syntax.size] using only.1))
    have bounds := own.holds.between (whole.part part)
    exact ⟨next, next + value.size, ⟨at_, name, rest, place, value, within, named, only, rfl⟩, bounds.lower,
      bounds.upper⟩

end Syntax

/-- Both bounds of a class site are places between characters of the source. -/
theorem Syntax.ClassSite.not_splits {d : Dialect} {source : List Char} {tree : Syntax} {site : Site}
    (inside : tree.ClassSite 0 site) (parsed : parse? d source = some tree) :
    site.stop ≤ Utf8.size source ∧ ¬Utf8.Splits source site.start ∧ ¬Utf8.Splits source site.stop := by
  obtain ⟨before, after, text, place⟩ := inside.within.text
  rw [text_of_parse? parsed, Syntax.text_leaf] at text
  rw [Nat.zero_add] at place
  have stop : site.stop = Utf8.size (before ++ site.text) := by rw [Site.stop, place, Utf8.size_append]
  refine ⟨?_, ?_, ?_⟩
  · rw [stop, text, ← List.append_assoc, Utf8.size_append _ after]
    exact Nat.le_add_right _ _
  · rw [text, place]
    exact Utf8.not_splits_size _ _
  · rw [text, stop, ← List.append_assoc]
    exact Utf8.not_splits_size _ _

/-- An edit of a component is not empty, lies between characters of the source, and in the value of a class
attribute. -/
theorem edit_confined {d : Dialect} {source : List Char} {tree : Syntax} {m : Manifest} {e : Edit}
    (parsed : parse? d source = some tree) (member : e ∈ (tree.classSites 0).filterMap (·.edit? m)) :
    e.start < e.stop ∧ e.stop ≤ Utf8.size source ∧ ¬e.Splits source
      ∧ ∃ start stop, tree.ClassValue start stop ∧ start ≤ e.start ∧ e.stop ≤ stop := by
  obtain ⟨_, taken⟩ := parse?_taken parsed
  obtain ⟨site, inside, _, start, stop⟩ := mem_edits_iff.mp member
  obtain ⟨within, first, last⟩ := inside.not_splits parsed
  have bounds := inside.holds.between taken.solid
  unfold Edit.Splits
  rw [start, stop, not_or]
  exact ⟨bounds.solid, within, ⟨first, last⟩, inside.exists_value taken.solid⟩

theorem edits_pairwise {d : Dialect} {source : List Char} {tree : Syntax} (m : Manifest)
    (parsed : parse? d source = some tree) :
    ((tree.classSites 0).filterMap (·.edit? m)).Pairwise fun a b => a.stop ≤ b.start ∨ b.stop ≤ a.start := by
  obtain ⟨_, taken⟩ := parse?_taken parsed
  refine (tree.classSites_pairwise 0 taken.solid).filterMap _ fun a b apart e edit e' edit' => ?_
  obtain ⟨_, start, stop⟩ := Site.edit?_eq_some_iff.mp edit
  obtain ⟨_, start', stop'⟩ := Site.edit?_eq_some_iff.mp edit'
  rw [start, stop, start', stop']
  exact apart

/-- The edits of a rewriting that change anything; an empty manifest asks for none. -/
def appliedEdits (source : List Char) (m : Manifest) (edits : List Edit) : List Edit :=
  if m.isEmpty then [] else edits.filter fun e => ¬e.Restates source

/-- Rewriting patches the source by the edits that change anything, and tells how many they are. -/
theorem rewrite_eq {source id : List Char} {m : Manifest} {edits : List Edit} (styleId : List Char)
    (found : classEdits? source id m = some edits) :
    ∃ patch : Patch, patch.original = source ∧ patch.front = (importPatch source styleId).front
      ∧ patch.edits = appliedEdits source m edits
      ∧ rewrite source id m styleId = ⟨some (patch.finish? (String.ofList id)),
        (if m.isEmpty then [] else [rewritesLine id patch.edits.length]) ++ patch.log (String.ofList id)⟩ := by
  have original : (importPatch source styleId).original = source := by
    unfold importPatch
    split <;> rfl
  have none : (importPatch source styleId).edits = [] := by
    unfold importPatch
    split <;> rfl
  unfold rewrite appliedEdits
  by_cases empty : m.isEmpty = true
  · refine ⟨importPatch source styleId, original, rfl, ?_, ?_⟩
    · rw [if_pos empty, none]
    · simp only [if_pos empty, List.nil_append]
  · refine ⟨edits.foldl Patch.overwrite (importPatch source styleId), ?_, ?_, ?_, ?_⟩
    · rw [Patch.foldl_overwrite_original, original]
    · rw [Patch.foldl_overwrite_front]
    · rw [Patch.foldl_overwrite_edits, none, original, List.nil_append, if_neg empty]
    · simp only [if_neg empty, found, List.singleton_append]

theorem appliedEdits_sublist (source : List Char) (m : Manifest) (edits : List Edit) :
    (appliedEdits source m edits).Sublist edits := by
  rw [appliedEdits]
  split
  · exact List.nil_sublist _
  · exact List.filter_sublist

/-- Rewriting a well-formed component applies all edits that change anything, in order, and leaves none out; the
output is the source with their spans replaced, behind the import. -/
theorem rewrite_stretches {source id : List Char} {tree : Syntax} (m : Manifest) (styleId : List Char)
    (parsed : parse? (Dialect.ofId id) source = some tree) :
    ∃ order stretches output,
      order.Perm (appliedEdits source m ((tree.classSites 0).filterMap (·.edit? m))) ∧ order.Pairwise Edit.Before
      ∧ rewrite source id m styleId =
        ⟨some (some output), if m.isEmpty then [] else [rewritesLine id order.length]⟩
      ∧ Stretch.Follow 0 order stretches ∧ stretches.flatMap Stretch.old = source
      ∧ output.code.toList =
        (if (importLine styleId).isPrefixOf source then [] else importLine styleId)
          ++ stretches.flatMap Stretch.text := by
  have found : classEdits? source id m = some ((tree.classSites 0).filterMap (·.edit? m)) := by
    rw [classEdits?, parsed, Option.map_some]
  obtain ⟨patch, original, front, changes, rewritten⟩ := rewrite_eq styleId found
  have subset : patch.edits.Sublist ((tree.classSites 0).filterMap (·.edit? m)) :=
    changes ▸ appliedEdits_sublist source m _
  have within : ∀ e ∈ patch.edits,
      e.start ≤ e.stop ∧ e.stop ≤ Utf8.size patch.original ∧ ¬e.Splits patch.original := by
    intro e member
    obtain ⟨order, inside, splits, _⟩ := edit_confined parsed (subset.subset member)
    rw [original]
    exact ⟨Nat.le_of_lt order, inside, splits⟩
  have beside : patch.edits.Pairwise fun a b => a.Before b ∨ b.Before a := by
    refine ((edits_pairwise m parsed).sublist subset).imp_of_mem fun {a b} inA inB disjoint => ?_
    have left := (edit_confined parsed (subset.subset inA)).1
    have right := (edit_confined parsed (subset.subset inB)).1
    unfold Edit.Before
    omega
  obtain ⟨quiet, output, stretches, done, follow, stands, code⟩ :=
    Patch.finish?_of_apart (String.ofList id) within beside
  rw [original] at stands
  have order : patch.sorted.Perm patch.edits := List.mergeSort_perm _ _
  refine ⟨patch.sorted, stretches, output, changes ▸ order, Patch.sorted_before beside, ?_, follow, stands, ?_⟩
  · rw [rewritten, done, quiet, List.append_nil, order.length_eq]
  · rw [code, front]
    congr 1
    unfold importPatch
    split
    · rfl
    · exact List.append_nil _

/-- Rewriting a well-formed component. Its edits are not empty, share no byte, lie between characters and in the
values of class attributes; each of them that changes anything is applied and none is left out; and the text
behind the import is the source outside of those values. -/
theorem rewrite_confined (source id : List Char) (m : Manifest) (styleId : List Char) (tree : Syntax)
    (parsed : parse? (Dialect.ofId id) source = some tree) :
    ∃ edits, classEdits? source id m = some edits
      ∧ (∀ e ∈ edits, e.start < e.stop ∧ e.stop ≤ Utf8.size source ∧ ¬e.Splits source
        ∧ ∃ start stop, tree.ClassValue start stop ∧ start ≤ e.start ∧ e.stop ≤ stop)
      ∧ edits.Pairwise (fun a b => a.stop ≤ b.start ∨ b.stop ≤ a.start)
      ∧ ∃ order stretches output,
        order.Perm (appliedEdits source m edits) ∧ order.Pairwise Edit.Before
        ∧ rewrite source id m styleId =
          ⟨some (some output), if m.isEmpty then [] else [rewritesLine id order.length]⟩
        ∧ Stretch.Follow 0 order stretches ∧ stretches.flatMap Stretch.old = source
        ∧ output.code.toList =
          (if (importLine styleId).isPrefixOf source then [] else importLine styleId)
            ++ stretches.flatMap Stretch.text
        ∧ SameOutside tree.ClassValue source (stretches.flatMap Stretch.text) := by
  have found : classEdits? source id m = some ((tree.classSites 0).filterMap (·.edit? m)) := by
    rw [classEdits?, parsed, Option.map_some]
  have confined := fun e member => edit_confined (m := m) (e := e) parsed member
  refine ⟨_, found, confined, edits_pairwise m parsed, ?_⟩
  obtain ⟨order, stretches, output, perm, before, rewritten, follow, stands, code⟩ :=
    rewrite_stretches m styleId parsed
  have spans : ∀ e ∈ order, ∃ start stop, tree.ClassValue start stop ∧ start ≤ e.start ∧ e.stop ≤ stop := by
    intro e member
    exact (confined e ((appliedEdits_sublist source m _).subset (perm.mem_iff.mp member))).2.2.2
  exact ⟨order, stretches, output, perm, before, rewritten, follow, stands, code, stretches, stands, rfl,
    follow.within spans⟩

/-- Both of two nested attributes are rewritten, and the rest of the markup stays as it is. -/
theorem rewrite_confined_nested :
    ∃ tree edits order stretches output,
      parse? (Dialect.ofId "a.tsx".toList) "<p class=\x7bf([\"x\", <b class='x'/>])\x7d id='x'/>".toList = some tree
      ∧ classEdits? "<p class=\x7bf([\"x\", <b class='x'/>])\x7d id='x'/>".toList "a.tsx".toList
        (.ofList [("x", "y")]) = some edits
      ∧ (∀ e ∈ edits, ∃ start stop, tree.ClassValue start stop ∧ start ≤ e.start ∧ e.stop ≤ stop)
      ∧ order.Perm [⟨13, 16, "\"y\"".toList⟩, ⟨27, 30, "\"y\"".toList⟩] ∧ Stretch.Follow 0 order stretches
      ∧ rewrite "<p class=\x7bf([\"x\", <b class='x'/>])\x7d id='x'/>".toList "a.tsx".toList
        (.ofList [("x", "y")]) "s".toList = ⟨some (some output), [rewritesLine "a.tsx".toList order.length]⟩
      ∧ stretches.flatMap Stretch.old = "<p class=\x7bf([\"x\", <b class='x'/>])\x7d id='x'/>".toList
      ∧ output.code.toList = "import \"s\";\n".toList ++ stretches.flatMap Stretch.text := by
  have parses : (parse? (Dialect.ofId "a.tsx".toList)
      "<p class=\x7bf([\"x\", <b class='x'/>])\x7d id='x'/>".toList).isSome = true := by
    decide +kernel
  obtain ⟨tree, parsed⟩ := Option.isSome_iff_exists.mp parses
  obtain ⟨edits, found, confined, _, order, stretches, output, perm, _, rewritten, follow, old, code, _⟩ :=
    rewrite_confined _ "a.tsx".toList (.ofList [("x", "y")]) "s".toList tree parsed
  have changed : (classEdits? "<p class=\x7bf([\"x\", <b class='x'/>])\x7d id='x'/>".toList "a.tsx".toList
      (.ofList [("x", "y")])).map (appliedEdits
        "<p class=\x7bf([\"x\", <b class='x'/>])\x7d id='x'/>".toList (.ofList [("x", "y")]))
      = some [⟨13, 16, "\"y\"".toList⟩, ⟨27, 30, "\"y\"".toList⟩] := by
    decide +kernel
  rw [found] at changed
  exact ⟨tree, edits, order, stretches, output, parsed, found, fun e member => (confined e member).2.2.2,
    Option.some.inj changed ▸ perm, follow, rewritten, old, code⟩

end CompanionStyles.Component
