import CompanionStyles.Proofs.Patch.Restating

/-!
What a patch makes of the calls on it. Of the edits that change anything, in order of their starts, those
are applied that do not reach into one before them; the patched text is the original with their spans
replaced, byte by byte, behind all that was put in front.
-/

namespace CompanionStyles

/-- A call on a patch. -/
inductive PatchCall where
  | prepend (text : List Char)
  | overwrite (e : Edit)

namespace PatchCall

def text? : PatchCall → Option (List Char)
  | prepend text => some text
  | overwrite _ => none

def edit? : PatchCall → Option Edit
  | prepend _ => none
  | overwrite e => some e

end PatchCall

/-- The text of an edit is what stands in its span already. -/
def Edit.Restates (original : List Char) (e : Edit) : Prop :=
  ∃ before after, original = before ++ (e.text ++ after) ∧ Utf8.size before = e.start
    ∧ Utf8.size before + Utf8.size e.text = e.stop

theorem Edit.restates_iff {original : List Char} {e : Edit} :
    e.Restates original ↔ slice? original e.start e.stop = some e.text := by
  constructor
  · rintro ⟨before, after, rfl, start, stop⟩
    rw [← start, ← stop]
    exact slice?_append before e.text after
  · intro found
    have order : e.start ≤ e.stop :=
      Decidable.byContradiction fun past => absurd found (by simp [slice?, past])
    obtain ⟨before, after, whole, place, length⟩ := slice?_eq_some found
    exact ⟨before, after, whole, place, by omega⟩

instance (original : List Char) : DecidablePred (Edit.Restates original) := fun _ =>
  decidable_of_iff _ Edit.restates_iff.symm

/-- Edits in order of their starts, where those of one start keep the order in which they came. -/
structure Edit.StableOrder (edits order : List Edit) : Prop where
  sorted : order.Pairwise fun a b => a.start ≤ b.start
  stable : ∀ start, (order.filter fun e => e.start = start) = edits.filter fun e => e.start = start

/-- An edit lies in a text of some size and does not start before a position. -/
def Edit.Fits (size position : Nat) (e : Edit) : Prop :=
  e.start ≤ e.stop ∧ e.stop ≤ size ∧ position ≤ e.start

instance (size position : Nat) : DecidablePred (Edit.Fits size position) := fun e =>
  inferInstanceAs (Decidable (e.start ≤ e.stop ∧ e.stop ≤ size ∧ position ≤ e.start))

/-- The edits that are applied: each lies in the text and does not start before the end of the one that was
applied before it. -/
def Edit.kept (size : Nat) : Nat → List Edit → List Edit
  | _, [] => []
  | position, e :: edits =>
    if e.Fits size position then e :: kept size e.stop edits else kept size position edits

/-- A bound of an edit lies inside a character. -/
def Edit.Splits (original : List Char) (e : Edit) : Prop :=
  Utf8.Splits original e.start ∨ Utf8.Splits original e.stop

/-- Bytes from a position on, with the spans of edits replaced. -/
def Edit.spliced (bytes : Bytes) : Nat → List Edit → Bytes
  | position, [] => bytes.drop position
  | position, e :: edits =>
    (bytes.drop position).take (e.start - position) ++ Utf8.encode e.text ++ spliced bytes e.stop edits

namespace Edit.StableOrder

theorem mem_iff {edits order : List Edit} (stable : StableOrder edits order) {e : Edit} :
    e ∈ order ↔ e ∈ edits := by
  have same : e ∈ order.filter (fun a => a.start = e.start) ↔ e ∈ edits.filter fun a => a.start = e.start := by
    rw [stable.stable]
  simpa using same

/-- No edit starts before the first one of an order. -/
theorem start_le {edits order : List Edit} {first e : Edit} (stable : StableOrder edits (first :: order))
    (member : e ∈ edits) : first.start ≤ e.start := by
  rcases List.mem_cons.mp (stable.mem_iff.mpr member) with rfl | later
  · exact Nat.le_refl _
  · exact (List.pairwise_cons.mp stable.sorted).1 e later

theorem tail {first : Edit} {edits order : List Edit} (stable : StableOrder (first :: edits) (first :: order)) :
    StableOrder edits order := by
  refine ⟨(List.pairwise_cons.mp stable.sorted).2, fun start => ?_⟩
  have same := stable.stable start
  rw [List.filter_cons, List.filter_cons] at same
  split at same
  · exact (List.cons.inj same).2
  · exact same

/-- There is one such order. -/
theorem unique {edits first second : List Edit} (left : StableOrder edits first)
    (right : StableOrder edits second) : first = second := by
  have between : StableOrder second first := ⟨left.sorted, fun start => by rw [left.stable, right.stable]⟩
  have sorted := right.sorted
  clear left right
  induction first generalizing second with
  | nil =>
    cases second with
    | nil => rfl
    | cons b second => exact absurd (between.mem_iff.mpr List.mem_cons_self) List.not_mem_nil
  | cons a first ih =>
    cases second with
    | nil => exact absurd (between.mem_iff.mp List.mem_cons_self) List.not_mem_nil
    | cons b second =>
      have lower : b.start ≤ a.start := by
        rcases List.mem_cons.mp (between.mem_iff.mp List.mem_cons_self) with rfl | later
        · exact Nat.le_refl _
        · exact (List.pairwise_cons.mp sorted).1 a later
      have starts : a.start = b.start := Nat.le_antisymm (between.start_le List.mem_cons_self) lower
      -- both lists begin with the first edit of that start
      have heads := between.stable b.start
      rw [List.filter_cons_of_pos (by simpa using starts), List.filter_cons_of_pos (by simp)] at heads
      obtain ⟨rfl, _⟩ := List.cons.inj heads
      rw [ih between.tail (List.pairwise_cons.mp sorted).2]

end Edit.StableOrder

namespace Patch

def perform (p : Patch) : PatchCall → Patch
  | .prepend text => p.prepend text
  | .overwrite e => p.overwrite e

/-- A patch of a text after some calls. -/
def performed (original : List Char) (calls : List PatchCall) : Patch :=
  calls.foldl perform (.of original)

/-- What calls put in front, the latest first. -/
def prepended (calls : List PatchCall) : List Char :=
  (calls.filterMap PatchCall.text?).reverse.flatten

/-- The edits of calls that do not restate what is there. -/
def changes (original : List Char) (calls : List PatchCall) : List Edit :=
  (calls.filterMap PatchCall.edit?).filter fun e => ¬e.Restates original

theorem overwrite_edits (p : Patch) (e : Edit) :
    (p.overwrite e).edits = p.edits ++ [e].filter fun e => ¬e.Restates p.original := by
  unfold overwrite
  by_cases restates : e.Restates p.original
  · rw [if_pos (Edit.restates_iff.mp restates)]
    simp [restates]
  · rw [if_neg (mt Edit.restates_iff.mpr restates)]
    simp [restates]

theorem foldl_overwrite_edits (p : Patch) (edits : List Edit) :
    (edits.foldl overwrite p).edits = p.edits ++ edits.filter fun e => ¬e.Restates p.original := by
  induction edits generalizing p with
  | nil => simp
  | cons e edits ih =>
    rw [List.foldl_cons, ih, overwrite_original, overwrite_edits, List.append_assoc, ← List.filter_append,
      List.singleton_append]

theorem perform_original (p : Patch) (call : PatchCall) : (p.perform call).original = p.original := by
  cases call with
  | prepend text => rfl
  | overwrite e => exact p.overwrite_original e

theorem foldl_perform (p : Patch) (calls : List PatchCall) :
    (calls.foldl perform p).original = p.original
    ∧ (calls.foldl perform p).front = prepended calls ++ p.front
    ∧ (calls.foldl perform p).edits = p.edits ++ changes p.original calls := by
  induction calls generalizing p with
  | nil => simp [prepended, changes]
  | cons call calls ih =>
    obtain ⟨original, front, edits⟩ := ih (p.perform call)
    rw [perform_original] at original edits
    refine ⟨original, ?_, ?_⟩
    · rw [List.foldl_cons, front]
      cases call with
      | prepend text => simp [prepended, PatchCall.text?, perform, Patch.prepend]
      | overwrite e =>
        have here : (p.perform (.overwrite e)).front = p.front := p.overwrite_front e
        rw [here]
        rfl
    · rw [List.foldl_cons, edits]
      cases call with
      | prepend text => rfl
      | overwrite e =>
        have here : (p.perform (.overwrite e)).edits = _ := p.overwrite_edits e
        rw [here, List.append_assoc, changes, changes, ← List.filter_append]
        rfl

theorem performed_original (original : List Char) (calls : List PatchCall) :
    (performed original calls).original = original :=
  (foldl_perform (.of original) calls).1

theorem performed_front (original : List Char) (calls : List PatchCall) :
    (performed original calls).front = prepended calls :=
  (foldl_perform (.of original) calls).2.1.trans (List.append_nil _)

theorem performed_edits (original : List Char) (calls : List PatchCall) :
    (performed original calls).edits = changes original calls :=
  (foldl_perform (.of original) calls).2.2

/-- A patch takes its edits in order of their starts. -/
theorem sorted_stableOrder (p : Patch) : Edit.StableOrder p.edits p.sorted := by
  have trans : ∀ a b c : Edit, decide (a.start ≤ b.start) = true → decide (b.start ≤ c.start) = true →
      decide (a.start ≤ c.start) = true := by
    simp only [decide_eq_true_eq]
    omega
  have total : ∀ a b : Edit, (decide (a.start ≤ b.start) || decide (b.start ≤ a.start)) = true := by
    simp only [Bool.or_eq_true, decide_eq_true_eq]
    omega
  refine ⟨?_, fun start => ?_⟩
  · exact (List.pairwise_mergeSort trans total p.edits).imp of_decide_eq_true
  · -- the edits of one start are in order as they came, so sorting keeps them
    have ordered : (p.edits.filter fun e => e.start = start).Pairwise fun a b =>
        decide (a.start ≤ b.start) = true := by
      refine List.pairwise_of_forall_mem_list fun a inA b inB => decide_eq_true ?_
      simp only [List.mem_filter, decide_eq_true_eq] at inA inB
      omega
    have kept := (List.sublist_mergeSort trans total ordered List.filter_sublist).filter fun e =>
      decide (e.start = start)
    simp only [List.filter_filter, Bool.and_self] at kept
    refine (kept.eq_of_length ?_).symm
    exact ((List.mergeSort_perm p.edits _).filter _).symm.length_eq

end Patch

/-- Stretches of a patched text, from a position of the original on, in which edits have been applied: each
stands behind the text that is copied in front of it, and has its span and its text. -/
def Stretch.Follow : Nat → List Edit → List Stretch → Prop
  | _, [], stretches => ∃ rest, stretches = [.copied rest]
  | position, e :: edits, stretches => ∃ unchanged old later,
    stretches = .copied unchanged :: .replaced old e.text :: later
      ∧ position + Utf8.size unchanged = e.start ∧ e.start + Utf8.size old = e.stop
      ∧ Follow e.stop edits later

/-- The text of the original that a stretch stands for. -/
def Stretch.old : Stretch → List Char
  | .copied text => text
  | .replaced old _ => old

namespace Pass

theorem through_of_not_fits {size position : Nat} {rest : List Char} {e : Edit} {edits : List Edit}
    (outside : ¬e.Fits size position) :
    through size position rest (e :: edits) = (through size position rest edits).drop e := by
  have out : e.start < position ∨ size < e.stop ∨ e.stop < e.start := by
    unfold Edit.Fits at outside
    omega
  rw [through, if_pos out]

/-- An edit that fits is applied, or splits a character and ends the pass. -/
theorem through_of_fits {passed rest : List Char} {e : Edit}
    (fits : e.Fits (Utf8.size (passed ++ rest)) (Utf8.size passed)) (edits : List Edit) :
    e.Splits (passed ++ rest)
      ∧ through (Utf8.size (passed ++ rest)) (Utf8.size passed) rest (e :: edits) = ⟨[], [], true⟩
    ∨ ∃ unchanged old later, rest = unchanged ++ (old ++ later)
      ∧ e.start = Utf8.size (passed ++ unchanged) ∧ e.stop = Utf8.size (passed ++ unchanged ++ old)
      ∧ through (Utf8.size (passed ++ rest)) (Utf8.size passed) rest (e :: edits) =
        ((through (Utf8.size (passed ++ rest)) e.stop later edits).push (.replaced old e.text)).push
          (.copied unchanged) := by
  obtain ⟨order, within, behind⟩ := fits
  have inside : ¬(e.start < Utf8.size passed ∨ Utf8.size (passed ++ rest) < e.stop ∨ e.stop < e.start) := by
    omega
  rw [through, if_neg inside]
  rw [Utf8.size_append] at within
  cases cut : Utf8.splitAt? rest (e.start - Utf8.size passed) with
  | none =>
    have splits := (Utf8.splitAt?_eq_none_iff.mp cut).resolve_right (by omega)
    exact Or.inl ⟨Or.inl ((Utf8.splits_append behind).mpr splits), rfl⟩
  | some parts =>
    obtain ⟨unchanged, behindCut⟩ := parts
    obtain ⟨rfl, place⟩ := Utf8.splitAt?_eq_some cut
    have start : e.start = Utf8.size (passed ++ unchanged) := by rw [Utf8.size_append]; omega
    rw [Utf8.size_append] at within
    cases inner : Utf8.splitAt? behindCut (e.stop - e.start) with
    | none =>
      have splits := (Utf8.splitAt?_eq_none_iff.mp inner).resolve_right (by omega)
      rw [start] at splits order
      rw [← List.append_assoc]
      exact Or.inl ⟨Or.inr ((Utf8.splits_append order).mpr splits), by simp only [inner]⟩
    | some parts' =>
      obtain ⟨old, later⟩ := parts'
      obtain ⟨rfl, length⟩ := Utf8.splitAt?_eq_some inner
      refine Or.inr ⟨unchanged, old, later, rfl, start, ?_, by simp only [inner]⟩
      rw [Utf8.size_append]
      omega

theorem not_splits_of_applied {passed unchanged old later : List Char} {e : Edit}
    (start : e.start = Utf8.size (passed ++ unchanged)) (stop : e.stop = Utf8.size (passed ++ unchanged ++ old)) :
    ¬e.Splits (passed ++ unchanged ++ old ++ later) := by
  unfold Edit.Splits
  rw [start, stop, not_or]
  refine ⟨?_, Utf8.not_splits_size _ _⟩
  rw [List.append_assoc (passed ++ unchanged)]
  exact Utf8.not_splits_size _ _

/-- A pass stops exactly at an edit of those that are applied that has a bound inside a character. -/
theorem split_through_iff (passed rest : List Char) (edits : List Edit) :
    (through (Utf8.size (passed ++ rest)) (Utf8.size passed) rest edits).split = true ↔
      ∃ e ∈ Edit.kept (Utf8.size (passed ++ rest)) (Utf8.size passed) edits, e.Splits (passed ++ rest) := by
  induction edits generalizing passed rest with
  | nil => simp [through, Edit.kept]
  | cons e edits ih =>
    rw [Edit.kept]
    by_cases fits : e.Fits (Utf8.size (passed ++ rest)) (Utf8.size passed)
    · rw [if_pos fits]
      simp only [List.mem_cons, exists_eq_or_imp]
      rcases through_of_fits fits edits with
        ⟨splits, stops⟩ | ⟨unchanged, old, later, rfl, start, stop, applies⟩
      · rw [stops]
        exact iff_of_true rfl (Or.inl splits)
      · rw [applies, stop]
        simp only [← List.append_assoc]
        rw [or_iff_right (not_splits_of_applied start stop)]
        exact ih (passed ++ unchanged ++ old) later
    · rw [if_neg fits, through_of_not_fits fits]
      exact ih passed rest

/-- A pass that does not stop applies the edits that are kept, and stands for the whole text. -/
theorem follow_through (passed rest : List Char) {edits : List Edit}
    (whole : (through (Utf8.size (passed ++ rest)) (Utf8.size passed) rest edits).split = false) :
    Stretch.Follow (Utf8.size passed) (Edit.kept (Utf8.size (passed ++ rest)) (Utf8.size passed) edits)
        (through (Utf8.size (passed ++ rest)) (Utf8.size passed) rest edits).stretches
      ∧ (through (Utf8.size (passed ++ rest)) (Utf8.size passed) rest edits).stretches.flatMap Stretch.old
        = rest := by
  induction edits generalizing passed rest with
  | nil => exact ⟨⟨rest, rfl⟩, by simp [through, Stretch.old]⟩
  | cons e edits ih =>
    rw [Edit.kept]
    by_cases fits : e.Fits (Utf8.size (passed ++ rest)) (Utf8.size passed)
    · rw [if_pos fits]
      rcases through_of_fits fits edits with
        ⟨_, stops⟩ | ⟨unchanged, old, later, rfl, start, stop, applies⟩
      · rw [stops] at whole
        exact absurd whole (by simp)
      · have behind := ih (passed ++ unchanged ++ old) later
        rw [← stop, List.append_assoc (passed ++ unchanged), List.append_assoc passed] at behind
        rw [applies] at whole ⊢
        obtain ⟨follow, stands⟩ := behind whole
        rw [Utf8.size_append, ← start] at stop
        rw [Utf8.size_append] at start
        refine ⟨⟨unchanged, old, _, rfl, start.symm, stop.symm, follow⟩, ?_⟩
        simp only [push, List.flatMap_cons, Stretch.old, stands]
    · rw [if_neg fits]
      rw [through_of_not_fits fits] at whole ⊢
      exact ih passed rest whole

end Pass

/-- The text of stretches is the original with the spans of the applied edits replaced. -/
theorem Stretch.Follow.encode_text (passed : List Char) {edits : List Edit} {stretches : List Stretch}
    (follow : Stretch.Follow (Utf8.size passed) edits stretches) :
    Utf8.encode (stretches.flatMap Stretch.text) =
      Edit.spliced (Utf8.encode (passed ++ stretches.flatMap Stretch.old)) (Utf8.size passed) edits := by
  induction edits generalizing passed stretches with
  | nil =>
    obtain ⟨rest, rfl⟩ := follow
    simp [Edit.spliced, Stretch.text, Stretch.old, Utf8.encode_append, ← Utf8.length_encode]
  | cons e edits ih =>
    obtain ⟨unchanged, old, later, rfl, start, stop, follow⟩ := follow
    have passed' : e.stop = Utf8.size (passed ++ unchanged ++ old) := by
      rw [Utf8.size_append, Utf8.size_append]
      omega
    rw [passed'] at follow
    have rest := ih _ follow
    simp only [List.flatMap_cons, Stretch.text, Stretch.old, List.append_assoc] at rest ⊢
    rw [Edit.spliced, passed', Utf8.encode_append, Utf8.encode_append, rest, ← List.append_assoc]
    simp only [List.append_assoc]
    congr 1
    rw [← start, Nat.add_sub_cancel_left, Utf8.encode_append, Utf8.encode_append unchanged,
      ← Utf8.length_encode, ← Utf8.length_encode, List.drop_left, List.take_left]

namespace Patch

/-- The edits of a patch that are applied. -/
def applied (p : Patch) : List Edit :=
  Edit.kept (Utf8.size p.original) 0 p.sorted

theorem split_iff {p : Patch} : p.pass.split = true ↔ ∃ e ∈ p.applied, e.Splits p.original :=
  Pass.split_through_iff [] p.original p.sorted

theorem follow_stretches {p : Patch} (whole : p.pass.split = false) :
    Stretch.Follow 0 p.applied p.pass.stretches ∧ p.pass.stretches.flatMap Stretch.old = p.original :=
  Pass.follow_through [] p.original whole

theorem finish?_of_whole {p : Patch} (whole : p.pass.split = false) (name : String) :
    p.finish? name = some ⟨String.ofList (p.front ++ p.pass.stretches.flatMap Stretch.text),
      String.ofList (SourceMap.toJson name.toList p.original p.mappings)⟩ := by
  rw [finish?, text?, if_neg (by simp [whole])]
  rfl

theorem applied_performed (original : List Char) (calls : List PatchCall) :
    (performed original calls).applied = Edit.kept (Utf8.size original) 0 (performed original calls).sorted := by
  rw [applied, performed_original]

/-- What a patch gives after any calls. It gives nothing exactly if an edit that is to be applied has a bound
inside a character; otherwise it gives what was put in front, the latest first, and the original with the
spans of the applied edits replaced. Applied are, of the edits that do not restate what is there, in order of
their starts, those that lie in the text and start no sooner than the last one applied has ended. -/
theorem finish?_performed (original : List Char) (calls : List PatchCall) (name : String) :
    ∃ order, (∀ other, Edit.StableOrder (changes original calls) other ↔ other = order)
      ∧ match (performed original calls).finish? name with
        | none => ∃ e ∈ Edit.kept (Utf8.size original) 0 order, e.Splits original
        | some output => (∀ e ∈ Edit.kept (Utf8.size original) 0 order, ¬e.Splits original)
          ∧ Utf8.encode output.code.toList = Utf8.encode (prepended calls)
            ++ Edit.spliced (Utf8.encode original) 0 (Edit.kept (Utf8.size original) 0 order) := by
  have stable := sorted_stableOrder (performed original calls)
  rw [performed_edits] at stable
  have splits : _ ↔ _ := split_iff (p := performed original calls)
  rw [performed_original, applied_performed] at splits
  refine ⟨(performed original calls).sorted, fun other => ⟨fun right => right.unique stable, ?_⟩, ?_⟩
  · rintro rfl
    exact stable
  · unfold finish? text?
    cases split : (performed original calls).pass.split with
    | true => exact splits.mp split
    | false =>
      obtain ⟨follow, stands⟩ := follow_stretches split
      rw [performed_original] at stands
      rw [applied_performed] at follow
      have text := Stretch.Follow.encode_text [] follow
      rw [List.nil_append, stands] at text
      refine ⟨fun e member cuts => ?_, ?_⟩
      · rw [splits.mpr ⟨e, member, cuts⟩] at split
        exact absurd split (by simp)
      · simp only [String.toList_ofList, performed_front, Utf8.encode_append, text]
        rfl

end Patch

end CompanionStyles
