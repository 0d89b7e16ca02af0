import CompanionStyles.Proofs.Patch.Splicing

/-!
Edits that stay apart. A patch applies all of them and leaves none out, and outside of the spans that they lie in
the patched text is the original.
-/

namespace CompanionStyles

/-- One edit starts sooner than another one and does not reach into it. -/
def Edit.Before (a b : Edit) : Prop :=
  a.start < b.start ∧ a.stop ≤ b.start

/-- Edits have one order in which they stand one before the other. -/
theorem Edit.eq_of_perm {first second : List Edit} (perm : first.Perm second) (before : first.Pairwise Edit.Before)
    (before' : second.Pairwise Edit.Before) : first = second := by
  refine perm.eq_of_pairwise (fun a b _ _ here there => ?_) before before'
  exact absurd here.1 (Nat.lt_asymm there.1)

theorem Edit.nodup_of_before {edits : List Edit} (before : edits.Pairwise Edit.Before) : edits.Nodup := by
  refine before.imp fun {a b} order same => ?_
  rw [same] at order
  exact Nat.lt_irrefl _ order.1

/-- The replaced stretches of a text, read from a position on, lie in spans. -/
def Stretch.Within (spans : Nat → Nat → Prop) : Nat → List Stretch → Prop
  | _, [] => True
  | position, .copied text :: stretches => Within spans (position + Utf8.size text) stretches
  | position, .replaced old _ :: stretches =>
    (∃ start stop, spans start stop ∧ start ≤ position ∧ position + Utf8.size old ≤ stop)
      ∧ Within spans (position + Utf8.size old) stretches

/-- Two texts are the same outside of some spans of the first one: they are made of stretches that they share,
and of stretches that differ and lie in a span. -/
def SameOutside (spans : Nat → Nat → Prop) (text other : List Char) : Prop :=
  ∃ stretches, stretches.flatMap Stretch.old = text ∧ stretches.flatMap Stretch.text = other
    ∧ Stretch.Within spans 0 stretches

theorem Stretch.Follow.within {spans : Nat → Nat → Prop} {position : Nat} {edits : List Edit}
    {stretches : List Stretch} (follow : Stretch.Follow position edits stretches)
    (inside : ∀ e ∈ edits, ∃ start stop, spans start stop ∧ start ≤ e.start ∧ e.stop ≤ stop) :
    Stretch.Within spans position stretches := by
  induction edits generalizing position stretches with
  | nil =>
    obtain ⟨rest, rfl⟩ := follow
    exact trivial
  | cons e edits ih =>
    obtain ⟨unchanged, old, later, rfl, start, stop, follow⟩ := follow
    obtain ⟨lower, upper, span, above, below⟩ := inside e List.mem_cons_self
    have later := ih follow fun other member => inside other (List.mem_cons_of_mem e member)
    rw [Stretch.Within, Stretch.Within, start, stop]
    exact ⟨⟨lower, upper, span, above, below⟩, later⟩

/-- Edits that stand one before the other in a text are all applied. -/
theorem Edit.kept_of_before {size position : Nat} {edits : List Edit}
    (fits : ∀ e ∈ edits, e.Fits size position) (apart : edits.Pairwise Edit.Before) :
    kept size position edits = edits := by
  induction edits generalizing position with
  | nil => rfl
  | cons e edits ih =>
    obtain ⟨here, later⟩ := List.pairwise_cons.mp apart
    have behind : ∀ other ∈ edits, other.Fits size e.stop := by
      intro other member
      obtain ⟨order, within, _⟩ := fits other (List.mem_cons_of_mem e member)
      exact ⟨order, within, (here other member).2⟩
    rw [kept, if_pos (fits e List.mem_cons_self), ih behind later]

/-- A pass that applies all of its edits drops none. -/
theorem Pass.dropped_of_kept {size position : Nat} {rest : List Char} {edits : List Edit}
    (all : ∀ e ∈ edits, e.Fits size position) (apart : edits.Pairwise Edit.Before) :
    (through size position rest edits).dropped = [] := by
  induction edits generalizing position rest with
  | nil => rfl
  | cons e edits ih =>
    obtain ⟨here, later⟩ := List.pairwise_cons.mp apart
    obtain ⟨order, within, behind⟩ := all e List.mem_cons_self
    have inside : ¬(e.start < position ∨ size < e.stop ∨ e.stop < e.start) := by omega
    rw [through, if_neg inside]
    cases Utf8.splitAt? rest (e.start - position) with
    | none => rfl
    | some parts =>
      cases cut : Utf8.splitAt? parts.2 (e.stop - e.start) with
      | none => simp only [cut]
      | some parts' =>
        simp only [cut, push]
        refine ih (fun other member => ?_) later
        obtain ⟨order, within, _⟩ := all other (List.mem_cons_of_mem e member)
        exact ⟨order, within, (here other member).2⟩

namespace Patch

/-- Edits that stay apart stand one before the other once they are in order. -/
theorem sorted_before {p : Patch} (apart : p.edits.Pairwise fun a b => a.Before b ∨ b.Before a) :
    p.sorted.Pairwise Edit.Before := by
  have stable := sorted_stableOrder p
  have beside : p.sorted.Pairwise fun a b => a.Before b ∨ b.Before a :=
    (List.mergeSort_perm p.edits _).symm.pairwise apart fun {_ _} => Or.symm
  refine (stable.sorted.and beside).imp fun {a b} both => ?_
  obtain ⟨order, before | after⟩ := both
  · exact before
  · exact absurd after.1 (Nat.not_lt_of_le order)

/-- A patch with edits that stay apart applies all of them and leaves none out. -/
theorem finish?_of_apart {p : Patch} (name : String)
    (within : ∀ e ∈ p.edits, e.start ≤ e.stop ∧ e.stop ≤ Utf8.size p.original ∧ ¬e.Splits p.original)
    (apart : p.edits.Pairwise fun a b => a.Before b ∨ b.Before a) :
    p.log name = [] ∧ ∃ output stretches, p.finish? name = some output
      ∧ Stretch.Follow 0 p.sorted stretches ∧ stretches.flatMap Stretch.old = p.original
      ∧ output.code.toList = p.front ++ stretches.flatMap Stretch.text := by
  have before := sorted_before apart
  have fits : ∀ e ∈ p.sorted, e.Fits (Utf8.size p.original) 0 := by
    intro e member
    obtain ⟨order, inside, _⟩ := within e (mem_sorted.mp member)
    exact ⟨order, inside, Nat.zero_le _⟩
  have all : p.applied = p.sorted := Edit.kept_of_before fits before
  have whole : p.pass.split = false := by
    refine Bool.eq_false_iff.mpr fun splits => ?_
    obtain ⟨e, member, split⟩ := split_iff.mp splits
    rw [all] at member
    exact (within e (mem_sorted.mp member)).2.2 split
  have dropped : p.pass.dropped = [] := Pass.dropped_of_kept fits before
  obtain ⟨follow, stands⟩ := follow_stretches whole
  rw [all] at follow
  exact ⟨by rw [log, dropped, List.map_nil], _, p.pass.stretches, finish?_of_whole whole name, follow, stands,
    String.toList_ofList⟩

end Patch

end CompanionStyles
