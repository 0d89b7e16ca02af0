import CompanionStyles.Proofs.Patch.Apart

/-!
Edits in any order. What a patch gives is told by its original, by what stands in front of it, and by its edits in
order of their starts. Edits that do not meet have one such order, however they come, so that all of them are
applied, and the patched text and its map are the same.
-/

namespace CompanionStyles

/-- Edits lie in a text and between its characters, no two of them start at one place, and none reaches into another
one. They may touch, and may have no width. -/
structure Edit.Disjoint (original : List Char) (edits : List Edit) : Prop where
  within : ∀ e ∈ edits, e.start ≤ e.stop ∧ e.stop ≤ Utf8.size original ∧ ¬e.Splits original
  starts : edits.Pairwise fun a b => a.start ≠ b.start
  apart : edits.Pairwise fun a b => a.stop ≤ b.start ∨ b.stop ≤ a.start

namespace Edit.Disjoint

variable {original : List Char} {edits order : List Edit}

theorem perm (disjoint : Disjoint original edits) (perm : order.Perm edits) : Disjoint original order where
  within e member := disjoint.within e (perm.mem_iff.mp member)
  starts := perm.symm.pairwise disjoint.starts fun {_ _} => Ne.symm
  apart := perm.symm.pairwise disjoint.apart fun {_ _} => Or.symm

theorem filter (disjoint : Disjoint original edits) (keep : Edit → Bool) :
    Disjoint original (edits.filter keep) where
  within e member := disjoint.within e (List.mem_filter.mp member).1
  starts := disjoint.starts.filter keep
  apart := disjoint.apart.filter keep

/-- Of two edits that do not meet, one stands before the other. -/
theorem before (disjoint : Disjoint original edits) : edits.Pairwise fun a b => a.Before b ∨ b.Before a := by
  refine (disjoint.starts.and disjoint.apart).imp_of_mem fun {a b} inA inB both => ?_
  obtain ⟨starts, apart⟩ := both
  have orderA := (disjoint.within a inA).1
  have orderB := (disjoint.within b inB).1
  unfold Edit.Before
  omega

end Edit.Disjoint

namespace Patch

/-- What a patch gives depends on its edits through their order only. -/
theorem finish?_congr {p q : Patch} (original : p.original = q.original) (front : p.front = q.front)
    (sorted : p.sorted = q.sorted) (name : String) : p.finish? name = q.finish? name ∧ p.log name = q.log name := by
  have pass : p.pass = q.pass := by rw [Patch.pass, Patch.pass, original, sorted]
  constructor
  · rw [finish?, finish?, text?, text?, mappings, mappings, pass, original, front]
  · rw [log, log, pass]

/-- Edits of which one stands before the other have one order, however they come. -/
theorem sorted_eq_of_perm {p q : Patch} (apart : p.edits.Pairwise fun a b => a.Before b ∨ b.Before a)
    (perm : q.edits.Perm p.edits) : q.sorted = p.sorted := by
  have apart' := perm.symm.pairwise apart fun {_ _} => Or.symm
  have same : q.sorted.Perm p.sorted :=
    ((List.mergeSort_perm q.edits _).trans perm).trans (List.mergeSort_perm p.edits _).symm
  exact Edit.eq_of_perm same (sorted_before apart') (sorted_before apart)

/-- Edits that do not meet may come in any order, also with texts that are put in front between them. All but those
that restate what is there are applied, none is left out, and every order gives the same text and the same map. -/
theorem finish?_any_order {original : List Char} {edits : List Edit} (disjoint : Edit.Disjoint original edits)
    (front : List Char) (name : String) :
    ∃ applied output, applied.Perm (edits.filter fun e => ¬e.Restates original) ∧ applied.Pairwise Edit.Before
      ∧ Utf8.encode output.code.toList = Utf8.encode front ++ Edit.spliced (Utf8.encode original) 0 applied
      ∧ ∀ calls, (calls.filterMap PatchCall.edit?).Perm edits → prepended calls = front →
        (performed original calls).finish? name = some output ∧ (performed original calls).log name = [] := by
  let p : Patch := ⟨original, front, edits.filter fun e => ¬e.Restates original⟩
  have kept : Edit.Disjoint original p.edits := disjoint.filter _
  obtain ⟨silent, output, stretches, done, follow, stands, code⟩ :=
    finish?_of_apart (p := p) name kept.within kept.before
  have text := Stretch.Follow.encode_text [] follow
  rw [List.nil_append, stands] at text
  refine ⟨p.sorted, output, List.mergeSort_perm p.edits _, sorted_before kept.before, ?_, fun calls perm ahead => ?_⟩
  · rw [code, Utf8.encode_append, text]
    rfl
  · have order : (performed original calls).edits.Perm p.edits := by
      rw [performed_edits]
      exact perm.filter _
    have sorted := sorted_eq_of_perm kept.before order
    obtain ⟨same, log⟩ := finish?_congr (performed_original original calls)
      ((performed_front original calls).trans ahead) sorted name
    exact ⟨same.trans done, log.trans silent⟩

/-- A text in which characters have one, two and four bytes, and edits of it that came out of order: the second one
has no width and touches the last one, and the third one restates what is there. -/
def touchingEdits : List Edit :=
  [⟨4, 8, "x".toList⟩, ⟨1, 1, "-".toList⟩, ⟨3, 4, "b".toList⟩, ⟨0, 1, "yy".toList⟩]

theorem touchingEdits_disjoint : Edit.Disjoint "aéb𝒳".toList touchingEdits := by
  have whole : ∀ front back, "aéb𝒳".toList = front ++ back → ¬Utf8.Splits "aéb𝒳".toList (Utf8.size front) := by
    intro front back split
    rw [split]
    exact Utf8.not_splits_size front back
  refine ⟨fun e member => ?_, by decide, by decide⟩
  simp only [touchingEdits, List.mem_cons, List.not_mem_nil, or_false] at member
  unfold Edit.Splits
  rcases member with rfl | rfl | rfl | rfl
  · exact ⟨by decide, by decide, not_or.mpr ⟨whole "aéb".toList "𝒳".toList rfl, whole "aéb𝒳".toList [] rfl⟩⟩
  · exact ⟨by decide, by decide, not_or.mpr ⟨whole ['a'] "éb𝒳".toList rfl, whole ['a'] "éb𝒳".toList rfl⟩⟩
  · exact ⟨by decide, by decide, not_or.mpr ⟨whole "aé".toList "b𝒳".toList rfl, whole "aéb".toList "𝒳".toList rfl⟩⟩
  · exact ⟨by decide, by decide, not_or.mpr ⟨whole [] "aéb𝒳".toList rfl, whole ['a'] "éb𝒳".toList rfl⟩⟩

theorem finish?_any_order_touching :
    Edit.Disjoint "aéb𝒳".toList touchingEdits
      ∧ ∃ output, Utf8.encode output.code.toList = Utf8.encode "iyy-ébx".toList
        ∧ ∀ calls, (calls.filterMap PatchCall.edit?).Perm touchingEdits → prepended calls = "i".toList →
          (performed "aéb𝒳".toList calls).finish? "s" = some output
            ∧ (performed "aéb𝒳".toList calls).log "s" = [] := by
  obtain ⟨applied, output, perm, before, code, orders⟩ := finish?_any_order touchingEdits_disjoint "i".toList "s"
  have same : applied = [⟨0, 1, "yy".toList⟩, ⟨1, 1, "-".toList⟩, ⟨4, 8, "x".toList⟩] :=
    Edit.eq_of_perm (perm.trans (by decide +kernel)) before (by simp [Edit.Before])
  refine ⟨touchingEdits_disjoint, output, ?_, orders⟩
  rw [code, same]
  decide +kernel

end Patch

end CompanionStyles
