import CompanionStyles.Proofs.Patch.Places
import CompanionStyles.Proofs.SourceMap.Document

/-!
What the source map of a patch says. Each copied character stands behind a link of its own line, as many
columns as it stands behind the link's origin in the original; replacing text starts with a link to the start
of the span it replaces; and what was put in front has no link.
-/

namespace CompanionStyles

namespace SourceMap

/-- The link that a place of the generated text stands under: the last one on its line that is not behind it. -/
def lookup? (links : List Link) (place : Cursor) : Option Link :=
  (links.filter fun link => link.generated.line = place.line ∧ link.generated.column ≤ place.column).getLast?

/-- A link of a place's line that is not behind the place is the one that is looked up, if those after it are. -/
theorem lookup?_of_split {before after : List Link} {link : Link} {place : Cursor}
    (line : link.generated.line = place.line) (column : link.generated.column ≤ place.column)
    (later : ∀ other ∈ after, place < other.generated) : lookup? (before ++ link :: after) place = some link := by
  have none : after.filter (fun link => link.generated.line = place.line ∧ link.generated.column ≤ place.column)
      = [] := by
    refine List.filter_eq_nil_iff.mpr fun other member => ?_
    have behind := Cursor.lt_iff.mp (later other member)
    rw [decide_eq_true_eq]
    omega
  rw [lookup?, List.filter_append, List.filter_cons_of_pos (by simp [line, column]), none]
  exact List.getLast?_concat

theorem lookup?_eq_none {links : List Link} {place : Cursor}
    (later : ∀ other ∈ links, place < other.generated) : lookup? links place = none := by
  rw [lookup?, List.getLast?_eq_none_iff]
  refine List.filter_eq_nil_iff.mpr fun other member => ?_
  have behind := Cursor.lt_iff.mp (later other member)
  rw [decide_eq_true_eq]
  omega

end SourceMap

open SourceMap

/-- Links tell of a text, made of a front and of stretches of an original, where it comes from. -/
structure Stretch.Mapped (front : List Char) (stretches : List Stretch) (links : List Link) : Prop where
  /-- A copied character stands as far behind its link as its place in the original behind the link's origin. -/
  copied : ∀ before passed c rest after, stretches = before ++ .copied (passed ++ c :: rest) :: after →
    ∃ link, lookup? links (Cursor.start.advance (front ++ before.flatMap Stretch.text ++ passed)) = some link
      ∧ link.source = 0
      ∧ Cursor.start.advance (before.flatMap Stretch.old ++ passed) = ⟨link.origin.line, link.origin.column
        + ((Cursor.start.advance (front ++ before.flatMap Stretch.text ++ passed)).column - link.generated.column)⟩
  /-- Replacing text that is not empty starts at a link to the start of what it replaces. -/
  replaced : ∀ before old new after, stretches = before ++ .replaced old new :: after → new ≠ [] →
    lookup? links (Cursor.start.advance (front ++ before.flatMap Stretch.text)) =
      some ⟨Cursor.start.advance (front ++ before.flatMap Stretch.text), 0,
        Cursor.start.advance (before.flatMap Stretch.old)⟩
  /-- No link of a line of the front is in front of a character of it. -/
  front : ∀ passed c rest, front = passed ++ c :: rest → lookup? links (Cursor.start.advance passed) = none

theorem Stretch.mapped (front : List Char) (stretches : List Stretch) :
    Stretch.Mapped front stretches
      ((mapStretches (Cursor.start.advance front) .start stretches).map linkOf) := by
  have further {place : Cursor} {mappings : List Mapping} (behind : ∀ m ∈ mappings, place < m.generated) :
      ∀ other ∈ mappings.map linkOf, place < other.generated := by
    intro other member
    obtain ⟨m, known, rfl⟩ := List.mem_map.mp member
    exact behind m known
  constructor
  · rintro before passed c rest after rfl
    obtain ⟨above, line, first, later, rfl, unbroken, cut, behind⟩ := mapStretches_copied_split
      (Cursor.start.advance (front ++ before.flatMap Stretch.text))
      (Cursor.start.advance (before.flatMap Stretch.old)) passed c rest after
    rw [mapStretches_append, ← Cursor.advance_append, cut, List.map_append, List.map_append, List.map_cons,
      ← List.append_assoc]
    -- both places are as far behind the link's places as the line is long up to the character
    rw [Cursor.advance_append _ above line, Cursor.advance_of_unbroken _ unbroken] at behind
    rw [Cursor.advance_append _ _ (above ++ line), Cursor.advance_append _ _ (above ++ line),
      Cursor.advance_append _ above line, Cursor.advance_append _ above line,
      Cursor.advance_of_unbroken _ unbroken, Cursor.advance_of_unbroken _ unbroken]
    refine ⟨_, lookup?_of_split rfl (Nat.le_add_right _ _) (further behind), rfl, ?_⟩
    simp only [linkOf, Nat.add_sub_cancel_left]
  · rintro before old new after rfl some
    obtain ⟨c, new, rfl⟩ := List.exists_cons_of_ne_nil some
    rw [mapStretches_append, ← Cursor.advance_append, mapStretches, List.map_append, List.map_cons]
    refine lookup?_of_split rfl (Nat.le_refl _) (further fun m member => ?_)
    exact Cursor.lt_of_lt_of_le (Cursor.lt_advance _ c new) (le_of_mem_mapStretches member)
  · rintro passed c rest rfl
    rw [Cursor.advance_append]
    refine lookup?_eq_none (further fun m member => ?_)
    exact Cursor.lt_of_lt_of_le (Cursor.lt_advance _ c rest) (le_of_mem_mapStretches member)

namespace Patch

/-- The source map of a patch that gives a text. It has the original as its one source, and its mappings,
decoded, are links that tell of each character of the text where it comes from. -/
theorem finish?_mapped (original : List Char) (calls : List PatchCall) (name : String) {output : PatchOutput}
    (done : (performed original calls).finish? name = some output) :
    ∃ order stretches document links,
      Edit.StableOrder (changes original calls) order
      ∧ Stretch.Follow 0 (Edit.kept (Utf8.size original) 0 order) stretches
      ∧ stretches.flatMap Stretch.old = original
      ∧ output.code.toList = prepended calls ++ stretches.flatMap Stretch.text
      ∧ Document.of? output.map.toList = some document
      ∧ document.version = .whole 3 ∧ document.sources = [name.toList] ∧ document.sourcesContent = [original]
      ∧ decode? document.mappings = some links
      ∧ Stretch.Mapped (prepended calls) stretches links := by
  have stable := sorted_stableOrder (performed original calls)
  rw [performed_edits] at stable
  cases split : (performed original calls).pass.split with
  | true =>
    rw [finish?, text?, if_pos split] at done
    exact absurd done (by simp)
  | false =>
    rw [finish?_of_whole split] at done
    obtain rfl := Option.some.inj done
    obtain ⟨follow, stands⟩ := follow_stretches split
    rw [performed_original] at stands
    rw [applied_performed] at follow
    have order := (pairwise_mapStretches (Cursor.start.advance (prepended calls)) .start
      (performed original calls).pass.stretches).imp Cursor.line_le
    refine ⟨(performed original calls).sorted, (performed original calls).pass.stretches,
      ⟨.whole 3, name.toList, [name.toList], [original], [], encode (performed original calls).mappings⟩, _, stable,
      follow, stands, ?_, ?_, rfl, rfl, rfl, ?_, Stretch.mapped _ _⟩
    · rw [String.toList_ofList, performed_front]
    · rw [String.toList_ofList, of?_toJson, performed_original]
    · rw [mappings, performed_front, decode?_encode order]

/-- Two edits that came out of order, one of which adds a line, behind a character of two units. -/
theorem finish?_mapped_out_of_order :
    ∃ output, (performed "a𝒳b\nc".toList
        [.overwrite ⟨7, 8, "d".toList⟩, .overwrite ⟨5, 6, "x\ny".toList⟩, .prepend "i\n".toList]).finish? "s" = some output
      ∧ ∃ stretches document links, stretches.flatMap Stretch.old = "a𝒳b\nc".toList
        ∧ output.code.toList = "i\n".toList ++ stretches.flatMap Stretch.text
        ∧ Document.of? output.map.toList = some document ∧ decode? document.mappings = some links
        ∧ Stretch.Mapped "i\n".toList stretches links := by
  have sorted : (performed "a𝒳b\nc".toList
      [.overwrite ⟨7, 8, "d".toList⟩, .overwrite ⟨5, 6, "x\ny".toList⟩, .prepend "i\n".toList]).sorted =
      [⟨5, 6, "x\ny".toList⟩, ⟨7, 8, "d".toList⟩] := by
    have edits : (performed "a𝒳b\nc".toList
        [.overwrite ⟨7, 8, "d".toList⟩, .overwrite ⟨5, 6, "x\ny".toList⟩, .prepend "i\n".toList]).edits =
        [⟨7, 8, "d".toList⟩, ⟨5, 6, "x\ny".toList⟩] := by decide +kernel
    rw [Patch.sorted, edits]
    simp [List.mergeSort, List.MergeSort.Internal.splitInTwo]
  have whole : (performed "a𝒳b\nc".toList
      [.overwrite ⟨7, 8, "d".toList⟩, .overwrite ⟨5, 6, "x\ny".toList⟩, .prepend "i\n".toList]).pass.split = false := by
    rw [pass, sorted]
    decide +kernel
  have done := finish?_of_whole whole "s"
  obtain ⟨_, stretches, document, links, _, _, old, code, read, _, _, _, decoded, mapped⟩ :=
    finish?_mapped _ _ _ done
  exact ⟨_, done, stretches, document, links, old, code, read, decoded, mapped⟩

end Patch

end CompanionStyles
