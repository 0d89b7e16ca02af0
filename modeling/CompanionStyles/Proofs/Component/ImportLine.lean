import CompanionStyles.Proofs.Component.ClassEdits
import CompanionStyles.Proofs.Component.FoundLeaves
import CompanionStyles.Proofs.Patch.Front

/-!
The import line of a style stays in front. Its leaves come before the first name of markup, so no class
site of a source that starts with it lies in it.
-/

namespace CompanionStyles.Component

namespace Leaf

/-- In front of a text, and with no turn there, stands no other leaf than `front`. -/
structure Leads (front text : List Char) : Prop where
  solid : front ≠ []
  calm : isTurn front = false
  only : ∀ leaf, Scanned leaf text → leaf.text ≠ [] → leaf.text = front

theorem Scanned.kind_ne {leaf : Leaf} {text : List Char} (scanned : Scanned leaf text) :
    leaf.kind ≠ .markupName := by
  rcases scanned with ⟨blank, _⟩ | ⟨same, _⟩
  · simp [blank]
  · rw [← same]
    unfold read
    dsimp only
    repeat' split
    all_goals simp

/-- If a text leads the leaves, the first of them is that text. -/
theorem Leads.first {front rest : List Char} {leaves : List Leaf} (leads : Leads front (front ++ rest))
    (plain : Plain leaves []) (solid : ∀ leaf ∈ leaves, leaf.text ≠ [])
    (whole : leaves.flatMap Leaf.text = front ++ rest) :
    ∃ leaf leaves', leaves = leaf :: leaves' ∧ leaf.kind ≠ .markupName ∧ leaf.text = front
      ∧ Plain leaves' [] ∧ leaves'.flatMap Leaf.text = rest := by
  cases leaves with
  | nil => exact absurd whole.symm (by simp [leads.solid])
  | cons leaf leaves =>
    have nonempty := solid leaf List.mem_cons_self
    rw [List.flatMap_cons] at whole
    have calm : isTurn leaf.text = false := by
      rw [← isTurn_append nonempty (leaves.flatMap Leaf.text), whole, isTurn_append leads.solid, leads.calm]
    rcases plain with turn | ⟨scanned, plain⟩
    · rw [calm] at turn
      exact absurd turn (by simp)
    · rw [List.append_nil, whole] at scanned
      have same := leads.only leaf scanned nonempty
      refine ⟨leaf, leaves, rfl, scanned.kind_ne, same, plain, ?_⟩
      rw [same] at whole
      exact List.append_cancel_left whole

theorem import_isName : isNameStart 'i' = true ∧ "mport".toList.all isNamePart = true := by
  decide +kernel

theorem isNamePart_space : isNamePart ' ' = false :=
  not_fitsName (show 0x20 ∈ outsideCodes by decide) false

theorem isNameStart_marks : ∀ c ∈ " \";".toList, isNameStart c = false := by
  intro c inside
  have mark : c = ' ' ∨ c = '"' ∨ c = ';' := by simpa using inside
  rcases mark with rfl | rfl | rfl
  · exact not_fitsName (show 0x20 ∈ outsideCodes by decide) true
  · exact not_fitsName (show 0x22 ∈ outsideCodes by decide) true
  · exact not_fitsName (show 0x3B ∈ outsideCodes by decide) true

theorem leads_import (rest : List Char) : Leads "import".toList ("import".toList ++ (' ' :: rest)) := by
  obtain ⟨start, parts⟩ := import_isName
  have parts := List.all_eq_true.mp parts
  have length : nameLength ("import".toList ++ (' ' :: rest)) = 6 := by
    simp [nameLength, namePartsLength, start, parts, isNamePart_space]
  refine ⟨by simp, by decide, ?_⟩
  intro leaf scanned nonempty
  rcases scanned with ⟨_, text⟩ | ⟨_, text⟩
  · exact absurd text (by simp [blanks, isLineBreak, isSpace, nonempty])
  · have spelled : "import".toList ++ (' ' :: rest) = 'i' :: ("mport".toList ++ (' ' :: rest)) := rfl
    have found : read ("import".toList ++ (' ' :: rest)) = (.name, 6) := by
      rw [spelled] at length ⊢
      unfold read
      dsimp only
      rw [length]
      simp [start]
    rw [text, found]
    simp

theorem leads_space (rest : List Char) : Leads [' '] ([' '] ++ ('"' :: rest)) := by
  refine ⟨by simp, by decide, ?_⟩
  intro leaf scanned nonempty
  rcases scanned with ⟨_, text⟩ | ⟨_, text⟩
  · rw [text]
    simp [blanks, isLineBreak, isSpace]
  · rw [text]
    simp [read, isNameStart_marks, isDigit, markLength, marks, startsWith]

theorem leads_quote (value rest : List Char) :
    Leads (Text.quote value) (Text.quote value ++ rest) := by
  refine ⟨by simp [Text.quote], by simp [Text.quote, isTurn], ?_⟩
  intro leaf scanned nonempty
  rcases scanned with ⟨_, text⟩ | ⟨_, text⟩
  · exact absurd text (by simp [blanks, isLineBreak, isSpace, Text.quote, nonempty])
  · rw [text, read_quote]
    exact List.take_left

theorem leads_semicolon (rest : List Char) : Leads [';'] ([';'] ++ rest) := by
  refine ⟨by simp, by decide, ?_⟩
  intro leaf scanned nonempty
  rcases scanned with ⟨_, text⟩ | ⟨_, text⟩
  · exact absurd text (by simp [blanks, isLineBreak, isSpace, nonempty])
  · rw [text]
    simp [read, isNameStart_marks, isDigit, markLength, marks, startsWith]

end Leaf

/-- The import line in four leaves and a line break. -/
theorem importLine_eq (id : List Char) :
    importLine id = "import".toList ++ ([' '] ++ (Text.quote id ++ ([';'] ++ ['\n']))) := by
  have word : "import ".toList = "import".toList ++ [' '] := by simp
  unfold importLine
  simp only [word, List.append_assoc, List.cons_append, List.nil_append]

/-- The first leaves of a source that starts with an import line make up the line but for its end, and
none of them is a name of markup. -/
theorem importLine_leaves {id rest : List Char} {leaves : List Leaf} (plain : Leaf.Plain leaves [])
    (solid : ∀ leaf ∈ leaves, leaf.text ≠ [])
    (whole : leaves.flatMap Leaf.text = importLine id ++ rest) :
    ∃ first more, leaves = first ++ more ∧ (∀ leaf ∈ first, leaf.kind ≠ .markupName)
      ∧ first.flatMap Leaf.text ++ ['\n'] = importLine id := by
  rw [importLine_eq] at whole
  simp only [List.append_assoc] at whole
  obtain ⟨word, leaves, rfl, word_kind, word_text, plain, whole⟩ :=
    (Leaf.leads_import _).first plain solid whole
  have solid := fun leaf member => solid leaf (List.mem_cons_of_mem _ member)
  obtain ⟨space, leaves, rfl, space_kind, space_text, plain, whole⟩ :=
    (Leaf.leads_space _).first plain solid whole
  have solid := fun leaf member => solid leaf (List.mem_cons_of_mem _ member)
  obtain ⟨quoted, leaves, rfl, quoted_kind, quoted_text, plain, whole⟩ :=
    (Leaf.leads_quote id _).first plain solid whole
  have solid := fun leaf member => solid leaf (List.mem_cons_of_mem _ member)
  obtain ⟨semicolon, leaves, rfl, semicolon_kind, semicolon_text, plain, whole⟩ :=
    (Leaf.leads_semicolon _).first plain solid whole
  refine ⟨[word, space, quoted, semicolon], leaves, rfl, ?_, ?_⟩
  · intro leaf member
    simp only [List.mem_cons, List.not_mem_nil, or_false] at member
    rcases member with rfl | rfl | rfl | rfl <;> assumption
  · rw [importLine_eq]
    simp [word_text, space_text, quoted_text, semicolon_text]

/-- What is not among the first elements of a list stands behind them. -/
theorem exists_append_of_not_mem {α : Type} {first more before after : List α} {a : α}
    (same : first ++ more = before ++ a :: after) (other : a ∉ first) :
    ∃ between, before = first ++ between := by
  induction first generalizing before with
  | nil => exact ⟨before, rfl⟩
  | cons b first ih =>
    cases before with
    | nil =>
      rw [List.cons_append, List.nil_append, List.cons.injEq] at same
      exact absurd (by rw [same.1]; exact List.mem_cons_self) other
    | cons c before =>
      rw [List.cons_append, List.cons_append, List.cons.injEq] at same
      obtain ⟨between, place⟩ := ih same.2 fun member => other (List.mem_cons_of_mem _ member)
      exact ⟨between, by rw [place, same.1, List.cons_append]⟩

/-- A name of markup ends behind the import line that a source starts with. -/
theorem importLine_size_le {id rest : List Char} {leaves front behind : List Leaf}
    {name : List Char} (plain : Leaf.Plain leaves []) (solid : ∀ leaf ∈ leaves, leaf.text ≠ [])
    (whole : leaves.flatMap Leaf.text = importLine id ++ rest)
    (place : leaves = front ++ ⟨.markupName, name⟩ :: behind) :
    Utf8.size (importLine id) ≤ Utf8.size (front.flatMap Leaf.text) + Utf8.size name := by
  obtain ⟨first, more, split, kinds, line⟩ := importLine_leaves plain solid whole
  have other : ⟨.markupName, name⟩ ∉ first := fun member => kinds _ member rfl
  obtain ⟨between, rfl⟩ := exists_append_of_not_mem (split.symm.trans place) other
  have nonempty : name ≠ [] := solid ⟨.markupName, name⟩ (by rw [place]; simp)
  have positive := Utf8.size_pos nonempty
  have width : Utf8.size ['\n'] = 1 := by decide
  rw [← line, Utf8.size_append, width, List.flatMap_append, Utf8.size_append]
  omega

/-- A class site stands behind a name of markup. -/
theorem Syntax.ClassSite.behind_name {start : Nat} {tree : Syntax} {site : Site}
    (inside : tree.ClassSite start site) :
    ∃ front name behind, tree.leaves = front ++ ⟨.markupName, name⟩ :: behind
      ∧ start + Utf8.size (front.flatMap Leaf.text) + Utf8.size name ≤ site.start := by
  obtain ⟨at_, children, within, inside⟩ := inside
  cases inside with
  | @value name rest place next value _ named only inside =>
    have named : Within start tree at_ (.leaf .markupName name) :=
      within.trans (.inside (part_cons_iff.mpr (Or.inl ⟨rfl, rfl⟩)) .here)
    obtain ⟨front, behind, leaves, rfl⟩ := named.leaves
    refine ⟨front, name, behind, by simpa using leaves, ?_⟩
    obtain ⟨kind, below⟩ := inside.holds
    obtain ⟨_, _, _, place⟩ := below.leaves
    have lower := only.1.bounds.1
    omega

/-- No edit of a source that starts with an import line reaches into the line. -/
theorem importLine_size_le_of_edit {source id styleId rest : List Char} {m : Manifest}
    {edits : List Edit} {e : Edit} (found : classEdits? source id m = some edits) (member : e ∈ edits)
    (starts : source = importLine styleId ++ rest) : Utf8.size (importLine styleId) ≤ e.start := by
  obtain ⟨tree, parsed, rfl⟩ := Option.map_eq_some_iff.mp found
  obtain ⟨site, inside, edit⟩ := List.mem_filterMap.mp member
  obtain ⟨turned, taken⟩ := parse?_taken parsed
  obtain ⟨front, name, behind, place, bound⟩ := ((tree.mem_classSites_iff 0 site).mp inside).behind_name
  have whole : tree.leaves.flatMap Leaf.text = importLine styleId ++ rest := by
    rw [← starts, ← taken.whole, List.append_nil]
  have line := importLine_size_le taken.plain taken.solid whole place
  rw [(Site.edit?_eq_some_iff.mp edit).2.1]
  omega

/-- A rewritten component starts with the import of its style, whether or not the line was there. -/
theorem rewrite_starts {source id styleId : List Char} {m : Manifest} {output : PatchOutput}
    (rewritten : (rewrite source id m styleId).output = some (some output)) :
    importLine styleId <+: output.code.toList := by
  unfold rewrite at rewritten
  dsimp only at rewritten
  by_cases there : (importLine styleId).isPrefixOf source = true
  · obtain ⟨rest, starts⟩ := List.isPrefixOf_iff_prefix.mp there
    rw [importPatch, if_pos there] at rewritten
    split at rewritten
    · have done := Option.some.inj rewritten
      exact Patch.original_prefix done rfl starts.symm (by simp [Patch.of])
    · split at rewritten
      · exact absurd rewritten (by simp)
      · rename_i edits found
        have done := Option.some.inj rewritten
        have original : (edits.foldl Patch.overwrite (.of source)).original =
            importLine styleId ++ rest := by
          rw [Patch.foldl_overwrite_original]
          exact starts.symm
        refine Patch.original_prefix done ?_ original ?_
        · rw [Patch.foldl_overwrite_front]
          rfl
        · intro e member
          rcases Patch.mem_foldl_overwrite_iff.mp member with old | ⟨new, _⟩
          · exact absurd old (by simp [Patch.of])
          · exact importLine_size_le_of_edit found new starts.symm
  · have front : (importPatch source styleId).front = importLine styleId := by
      rw [importPatch, if_neg there]
      simp [Patch.prepend, Patch.of]
    split at rewritten
    · have done := Option.some.inj rewritten
      rw [← front]
      exact Patch.front_prefix done
    · split at rewritten
      · exact absurd rewritten (by simp)
      · have done := Option.some.inj rewritten
        rw [← front, ← Patch.foldl_overwrite_front]
        exact Patch.front_prefix done

end CompanionStyles.Component
