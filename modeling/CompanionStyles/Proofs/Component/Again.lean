import CompanionStyles.Proofs.Component.ReadBack
import CompanionStyles.Proofs.Patch.Restating

/-!
Rewriting what has been rewritten. The import is in front already, and what is written in place of a class
site is not written again where it is read back. Whether the whole text is read back as the rewritten tree is
another question: a first line that names an interpreter is no first line any more behind the import.
-/

namespace CompanionStyles.Component

/-- Both kinds of quotes stand in the renamed list of a site in markup, so that neither can enclose it. -/
def Site.Tangled (m : Manifest) (site : Site) : Prop :=
  site.form = .markup ∧ '"' ∈ m.rename site.value ∧ '\'' ∈ m.rename site.value

/-- What is written for a site is what stands there, if both are read in front of the same text. -/
theorem Site.Becomes.eq_text {m : Manifest} {site : Site} {text rest rest' : List Char}
    (becomes : site.Becomes m text) (found : Leaf.Found ⟨site.form.kind, site.text⟩) (solid : site.text ≠ [])
    (same : text ++ rest = site.text ++ rest') : text = site.text ∨ site.Tangled m := by
  -- A name does not start with a quote, as everything does that is written for it.
  have names : ∀ {value more : List Char}, site.form.kind = .name →
      Text.quote value ++ more ≠ site.text ++ rest' := by
    intro value more kind same
    rw [kind] at found
    obtain ⟨c, others, whole⟩ := List.exists_cons_of_ne_nil solid
    rw [whole] at same found
    obtain ⟨first, _⟩ := List.cons.inj same
    exact found.head?_ne (by rw [← first]; rfl)
  cases becomes with
  | @markup words renamed quote form has joined changed fits =>
    rw [form] at found
    by_cases tangled : '"' ∈ renamed ∧ '\'' ∈ renamed
    · rw [joined, ← Manifest.rename_eq has] at tangled
      exact Or.inr ⟨form, tangled⟩
    · have outside : quote ∉ renamed := by
        rcases fits with ⟨outside, rfl⟩ | ⟨inside, rfl⟩
        · exact outside
        · exact fun other => tangled ⟨inside, other⟩
      simp only [List.cons_append, List.append_assoc, List.nil_append] at same
      exact Or.inl (found.markupString_eq outside same).symm
  | string form has joined changed =>
    rw [form] at found
    exact Or.inl ((Leaf.found_quote _).string_eq found same)
  | key form => exact absurd same (names (by rw [form]; rfl))
  | shorthand form =>
    rw [List.append_assoc, List.append_assoc] at same
    exact absurd same (names (by rw [form]; rfl))

/-- Rewriting a text gives the text again. -/
def Repeats (text id : List Char) (m : Manifest) (styleId : List Char) : Prop :=
  ∃ again, (rewrite text id m styleId).output = some (some again) ∧ again.code.toList = text

theorem importPatch_of_prefix {text styleId : List Char} (starts : importLine styleId <+: text) :
    importPatch text styleId = .of text :=
  if_pos (List.isPrefixOf_iff_prefix.mpr starts)

/-- With nothing to rename, a text that starts with the import stays as it is. -/
theorem repeats_of_isEmpty {text id styleId : List Char} {m : Manifest} (starts : importLine styleId <+: text)
    (empty : m.isEmpty = true) : Repeats text id m styleId := by
  unfold Repeats rewrite
  dsimp only
  rw [if_pos empty, importPatch_of_prefix starts, Patch.finish?, Patch.text?_of]
  exact ⟨_, rfl, String.toList_ofList⟩

theorem output_eq_none {text id styleId : List Char} {m : Manifest} (renames : m.isEmpty = false)
    (unread : parse? (Dialect.ofId id) text = none) : (rewrite text id m styleId).output = none := by
  have edits : classEdits? text id m = none := by rw [classEdits?, unread]; rfl
  unfold rewrite
  dsimp only
  rw [if_neg (by simp [renames]), edits]

/-- The class sites decide what becomes of a text that starts with the import. -/
theorem repeats_iff {text id styleId : List Char} {m : Manifest} {tree : Syntax}
    (starts : importLine styleId <+: text) (renames : m.isEmpty = false)
    (parsed : parse? (Dialect.ofId id) text = some tree) :
    Repeats text id m styleId ↔
      (((tree.classSites 0).filterMap (·.edit? m)).foldl Patch.overwrite (.of text)).text? = some text := by
  have edits : classEdits? text id m = some ((tree.classSites 0).filterMap (·.edit? m)) := by
    rw [classEdits?, parsed, Option.map_some]
  unfold Repeats rewrite
  dsimp only
  rw [if_neg (by simp [renames]), edits, importPatch_of_prefix starts]
  simp only [Option.some.injEq, Patch.finish?, Option.map_eq_some_iff]
  constructor
  · rintro ⟨_, ⟨text', patched, rfl⟩, same⟩
    rw [String.toList_ofList] at same
    rw [patched, same]
  · intro patched
    exact ⟨_, ⟨text, patched, rfl⟩, String.toList_ofList⟩

/-- If all class sites are settled, the text stays as it is. -/
theorem repeats_of_settled {text id styleId : List Char} {m : Manifest} {tree : Syntax}
    (starts : importLine styleId <+: text) (renames : m.isEmpty = false)
    (parsed : parse? (Dialect.ofId id) text = some tree)
    (settled : ∀ site, tree.ClassSite 0 site → site.Settled m) : Repeats text id m styleId := by
  rw [repeats_iff starts renames parsed, Patch.foldl_overwrite_of_restating, Patch.text?_of]
  intro e member
  obtain ⟨site, inside, becomes, start, stop⟩ := mem_edits_iff.mp member
  rw [start, stop, settled site inside e.text becomes]
  exact inside.slice?_eq parsed

/-- If the text stays as it is, all class sites are settled, or the list of one cannot be enclosed in
quotes. By the first edit that would change anything: what it writes and what it replaces are read in front
of the same text. -/
theorem settled_of_repeats {text id styleId : List Char} {m : Manifest} {tree : Syntax}
    (starts : importLine styleId <+: text) (renames : m.isEmpty = false)
    (parsed : parse? (Dialect.ofId id) text = some tree) (repeats : Repeats text id m styleId) :
    (∀ site, tree.ClassSite 0 site → site.Settled m) ∨ ∃ site, tree.ClassSite 0 site ∧ site.Tangled m := by
  rw [repeats_iff starts renames parsed] at repeats
  generalize patched : ((tree.classSites 0).filterMap (·.edit? m)).foldl Patch.overwrite (.of text) = patch
    at repeats
  have original : patch.original = text := by rw [← patched, Patch.foldl_overwrite_original]; rfl
  have front : patch.front = [] := by rw [← patched, Patch.foldl_overwrite_front]; rfl
  have mem : ∀ e, e ∈ patch.edits ↔
      e ∈ (tree.classSites 0).filterMap (·.edit? m) ∧ slice? text e.start e.stop ≠ some e.text := by
    intro e
    rw [← patched, Patch.mem_foldl_overwrite_iff]
    exact or_iff_right List.not_mem_nil
  cases sorted : patch.sorted with
  | nil =>
    refine Or.inl fun site inside text' becomes => ?_
    by_cases same : text' = site.text
    · exact same
    · have slice := inside.slice?_eq parsed
      have edit : (⟨site.start, site.stop, text'⟩ : Edit) ∈ patch.edits := by
        refine (mem _).mpr ⟨mem_edits_iff.mpr ⟨site, inside, becomes, rfl, rfl⟩, ?_⟩
        rw [slice]
        exact fun equal => same (Option.some.inj equal).symm
      rw [← Patch.mem_sorted, sorted] at edit
      exact absurd edit List.not_mem_nil
  | cons e edits =>
    have first : e ∈ patch.edits := by
      rw [← Patch.mem_sorted, sorted]
      exact List.mem_cons_self
    obtain ⟨edit, changes⟩ := (mem e).mp first
    obtain ⟨site, inside, becomes, start, stop⟩ := mem_edits_iff.mp edit
    obtain ⟨found, solid⟩ := inside.found parsed
    have slice := inside.slice?_eq parsed
    obtain ⟨before, after, whole, place, length⟩ := slice?_eq_some slice
    have fits : e.start ≤ e.stop ∧ e.stop ≤ Utf8.size patch.original := by
      rw [start, stop, original, whole, Site.stop]
      simp only [Utf8.size_append]
      omega
    obtain ⟨before', old, rest, more, whole', place', length', repeated⟩ :=
      Patch.text?_first repeats sorted fits
    rw [original, whole] at whole'
    rw [start] at place' length'
    rw [stop] at length'
    obtain ⟨rfl, behind⟩ := Utf8.append_inj whole' (place.trans place'.symm)
    obtain ⟨rfl, rfl⟩ := Utf8.append_inj behind (length.trans length'.symm)
    rw [front, List.nil_append, whole] at repeated
    have same := List.append_cancel_left repeated
    rcases becomes.eq_text found solid same.symm with restated | tangled
    · rw [start, stop, slice, restated] at changes
      exact absurd rfl changes
    · exact Or.inr ⟨site, inside, tangled⟩

theorem exists_tree {source id styleId : List Char} {m : Manifest} {out : PatchOutput}
    (renames : m.isEmpty = false) (rewritten : (rewrite source id m styleId).output = some (some out)) :
    ∃ tree, parse? (Dialect.ofId id) source = some tree := by
  cases parsed : parse? (Dialect.ofId id) source with
  | some tree => exact ⟨tree, rfl⟩
  | none =>
    rw [output_eq_none renames parsed] at rewritten
    exact absurd rewritten (by simp)

/-- What a second rewriting does, for a manifest whose scoped names are not renamed. With nothing to rename
it changes nothing. Otherwise it fails if the text cannot be read; it changes nothing if all class sites of
the text are settled, and only then, but for lists that no quotes can enclose. They are settled if what is
read at the class sites is what was left there. The tree of the source tells when that is so: the text is
that of the rewritten tree, and if this is the tree that its text is read as, and all names that are written
are read as they were meant, then nothing changes. -/
theorem rewrite_again {source id styleId : List Char} {m : Manifest} {out : PatchOutput} (stable : m.Stable)
    (rewritten : (rewrite source id m styleId).output = some (some out)) :
    (m.isEmpty = true → Repeats out.code.toList id m styleId)
    ∧ (m.isEmpty = false → parse? (Dialect.ofId id) out.code.toList = none →
      (rewrite out.code.toList id m styleId).output = none)
    ∧ (∀ tree, m.isEmpty = false → parse? (Dialect.ofId id) out.code.toList = some tree →
      ((∀ site, tree.ClassSite 0 site → site.Settled m) → Repeats out.code.toList id m styleId)
      ∧ (Repeats out.code.toList id m styleId → (∀ site, tree.ClassSite 0 site → site.Settled m)
        ∨ ∃ site, tree.ClassSite 0 site ∧ site.Tangled m)
      ∧ ∃ first, parse? (Dialect.ofId id) source = some first
        ∧ (ReadsBack m first tree → Repeats out.code.toList id m styleId))
    ∧ ∀ first, m.isEmpty = false → parse? (Dialect.ofId id) source = some first →
      out.code.toList = (first.rewritten m styleId).text
      ∧ ((∀ site, first.ClassSite 0 site → site.Plain m) →
        parse? (Dialect.ofId id) (first.rewritten m styleId).text = some (first.rewritten m styleId) →
        Repeats out.code.toList id m styleId) := by
  have starts := rewrite_starts rewritten
  refine ⟨repeats_of_isEmpty starts, output_eq_none, fun tree renames parsed => ?_, fun first renames read => ?_⟩
  · have settles := repeats_of_settled starts renames parsed
    obtain ⟨first, read⟩ := exists_tree renames rewritten
    exact ⟨settles, settled_of_repeats starts renames parsed, first, read,
      fun reads => settles (reads.settled stable read)⟩
  · have code := code_eq_text renames read rewritten
    refine ⟨code, fun plain again => ?_⟩
    rw [← code] at again
    exact repeats_of_settled starts renames again ((readsBack_rewritten styleId read plain).settled stable read)

def scopedManifest : Manifest :=
  .ofList [("a", "_a")]

theorem stable_scopedManifest : scopedManifest.Stable := by
  unfold Manifest.Stable
  decide +kernel

/-- A shorthand becomes a key with a value, is read back as that, and stays that. -/
theorem rewrite_again_shorthand :
    ∃ out first, scopedManifest.Stable
      ∧ (rewrite "<p class=\x7b[\x7ba\x7d]\x7d/>".toList "a.tsx".toList scopedManifest "s".toList).output
        = some (some out)
      ∧ out.code = "import \"s\";\n<p class=\x7b[\x7b\"_a\": a\x7d]\x7d/>"
      ∧ parse? (Dialect.ofId "a.tsx".toList) "<p class=\x7b[\x7ba\x7d]\x7d/>".toList = some first
      ∧ (∀ site, first.ClassSite 0 site → site.Plain scopedManifest)
      ∧ parse? (Dialect.ofId "a.tsx".toList) out.code.toList = some (first.rewritten scopedManifest "s".toList)
      ∧ ReadsBack scopedManifest first (first.rewritten scopedManifest "s".toList)
      ∧ Repeats out.code.toList "a.tsx".toList scopedManifest "s".toList := by
  have output : ((rewrite "<p class=\x7b[\x7ba\x7d]\x7d/>".toList "a.tsx".toList scopedManifest
      "s".toList).output.join.any fun out =>
        decide (out.code = "import \"s\";\n<p class=\x7b[\x7b\"_a\": a\x7d]\x7d/>")) = true := by
    decide +kernel
  have trees : ((parse? (Dialect.ofId "a.tsx".toList) "<p class=\x7b[\x7ba\x7d]\x7d/>".toList).any fun first =>
      ((first.classSites 0).all fun site => decide ('\x00' ∉ scopedManifest.rename site.value))
      && decide (parse? (Dialect.ofId "a.tsx".toList) (first.rewritten scopedManifest "s".toList).text =
        some (first.rewritten scopedManifest "s".toList))) = true := by
    decide +kernel
  simp only [Option.any_eq_true, Option.join_eq_some_iff, decide_eq_true_eq] at output
  simp only [Option.any_eq_true, Bool.and_eq_true, List.all_eq_true, decide_eq_true_eq] at trees
  obtain ⟨out, rewritten, code⟩ := output
  obtain ⟨first, parsed, zeros, reread⟩ := trees
  have plain : ∀ site, first.ClassSite 0 site → site.Plain scopedManifest := fun site inside =>
    Or.inr (Text.behind_zero_of_not_mem (zeros site ((first.mem_classSites_iff 0 site).mpr inside)))
  obtain ⟨_, _, again, fromSource⟩ := rewrite_again stable_scopedManifest rewritten
  rw [← (fromSource first rfl parsed).1] at reread
  obtain ⟨_, _, first', parsed', repeats⟩ := again _ rfl reread
  obtain rfl := Option.some.inj (parsed.symm.trans parsed')
  have reads := readsBack_rewritten "s".toList parsed plain
  exact ⟨out, first, stable_scopedManifest, rewritten, code, parsed, plain, reread, reads, repeats reads⟩

/-- A first line that names an interpreter cannot be read behind the import, so the second rewriting fails. -/
theorem interpreter_line_not_reread :
    ∃ out, scopedManifest.Stable
      ∧ (rewrite "#!/usr/bin/env node\nf(<p class=\"a\"/>)".toList "a.tsx".toList scopedManifest
        "s".toList).output = some (some out)
      ∧ (rewrite out.code.toList "a.tsx".toList scopedManifest "s".toList).output = none := by
  have ends : ((rewrite "#!/usr/bin/env node\nf(<p class=\"a\"/>)".toList "a.tsx".toList scopedManifest
      "s".toList).output.join.any fun out =>
        (rewrite out.code.toList "a.tsx".toList scopedManifest "s".toList).output.isNone) = true := by
    decide +kernel
  obtain ⟨out, rewritten, fails⟩ := Option.any_eq_true _ _ |>.mp ends
  exact ⟨out, stable_scopedManifest, Option.join_eq_some_iff.mp rewritten, Option.isNone_iff_eq_none.mp fails⟩

end CompanionStyles.Component
