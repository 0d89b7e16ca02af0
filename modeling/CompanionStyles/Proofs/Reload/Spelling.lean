import Mathlib.Data.List.Sort
import CompanionStyles.Proofs.Path.Parent
import CompanionStyles.Proofs.Path.Text
import CompanionStyles.Proofs.Reload.History

/-!
Histories that differ only in how their paths are spelled. A directory and a style are known by what their paths
denote, but a component that is removed is known by the text of its path. So two such histories give the same answers
exactly as long as each removed file names the same known components in both.
-/

namespace CompanionStyles

/-- Two steps that differ at most in how their paths are spelled. -/
inductive TrackerStep.Respelled : TrackerStep → TrackerStep → Prop
  | record {id : List Char} {directory directory' style style' : Path}
      (sameDirectory : directory.Equivalent directory') (sameStyle : style.Equivalent style') :
      Respelled (.record id directory style) (.record id directory' style')
  | event {kind : WatchKind} {path path' : Path} (same : path.Equivalent path') :
      Respelled (.event ⟨kind, path⟩) (.event ⟨kind, path'⟩)

namespace WatchEvent

variable {kind : WatchKind} {path path' : Path}

theorem removesFile_congr (same : path.Equivalent path') (style : Path) :
    (WatchEvent.mk kind path).RemovesFile style ↔ (WatchEvent.mk kind path').RemovesFile style :=
  and_congr_right fun _ => ⟨same.symm.trans, same.trans⟩

theorem removesDirectory_congr (same : path.Equivalent path') (directory : Path) :
    (WatchEvent.mk kind path).RemovesDirectory directory ↔ (WatchEvent.mk kind path').RemovesDirectory directory :=
  and_congr_right fun _ => ⟨same.symm.trans, same.trans⟩

end WatchEvent

namespace Tracker

/-- Two trackers know the same ids for every style and every directory. -/
structure KnowsAlike (t t' : Tracker) : Prop where
  style : ∀ path id, id ∈ t.componentsForStyle path ↔ id ∈ t'.componentsForStyle path
  directory : ∀ path id, id ∈ t.componentsInDirectory path ↔ id ∈ t'.componentsInDirectory path

/-- Two trackers give the same answers, and the same reloads for every event, however paths are spelled. -/
structure AnswersAlike (t t' : Tracker) : Prop where
  style : ∀ {path path'}, path.Equivalent path' → t.componentsForStyle path = t'.componentsForStyle path'
  directory : ∀ {path path'}, path.Equivalent path' → t.componentsInDirectory path = t'.componentsInDirectory path'
  tracked : ∀ {path path'}, path.Equivalent path' → t.isTrackedDirectory path = t'.isTrackedDirectory path'
  event : ∀ kind {path path'}, path.Equivalent path' → t.affected ⟨kind, path⟩ = t'.affected ⟨kind, path'⟩

/-- An id is known for a directory, or for a style other than the one that an event is about. -/
def KnowsBeside (t : Tracker) (e : WatchEvent) (id : List Char) : Prop :=
  (∃ directory, id ∈ t.componentsInDirectory directory)
    ∨ ∃ style, ¬e.path.Equivalent style ∧ id ∈ t.componentsForStyle style

section Alike

variable {t t' : Tracker}

/-- What is known decides every answer: ids come in increasing order, and a directory is tracked if it has any. -/
theorem KnowsAlike.answers (alike : KnowsAlike t t') (ordered : t.Ordered) (ordered' : t'.Ordered) :
    AnswersAlike t t' := by
  have styles : ∀ {path path' : Path}, path.Equivalent path' →
      t.componentsForStyle path = t'.componentsForStyle path' := by
    intro path path' same
    have sameIds := (ordered.byStyle.get_pairwise path).eq_of_mem_iff (ordered'.byStyle.get_pairwise path)
      (alike.style path)
    exact sameIds.trans (t'.byStyle.get_congr same)
  have directories : ∀ {path path' : Path}, path.Equivalent path' →
      t.componentsInDirectory path = t'.componentsInDirectory path' := by
    intro path path' same
    have sameIds := (ordered.byDirectory.get_pairwise path).eq_of_mem_iff (ordered'.byDirectory.get_pairwise path)
      (alike.directory path)
    exact sameIds.trans (t'.byDirectory.get_congr same)
  refine ⟨styles, directories, fun same => ?_, fun kind path path' same => ?_⟩
  · rw [Bool.eq_iff_iff, ordered.isTrackedDirectory_iff, ordered'.isTrackedDirectory_iff, directories same]
  · cases kind with
    | add =>
      unfold affected
      dsimp only
      cases parent : path.parent with
      | none => rw [same.parent_eq_none parent]
      | some d =>
        obtain ⟨d', parent', sameParent⟩ := same.parent parent
        rw [parent']
        exact directories sameParent
    | change => exact styles same
    | unlink => exact styles same
    | unlinkDir => rfl

theorem AnswersAlike.knows (answers : AnswersAlike t t') : KnowsAlike t t' := by
  refine ⟨fun path id => ?_, fun path id => ?_⟩
  · rw [answers.style (Path.Equivalent.refl path)]
  · rw [answers.directory (Path.Equivalent.refl path)]

theorem KnowsAlike.record (alike : KnowsAlike t t') (id : List Char) {directory directory' style style' : Path}
    (sameDirectory : directory.Equivalent directory') (sameStyle : style.Equivalent style') :
    KnowsAlike (t.record id directory style) (t'.record id directory' style') := by
  refine ⟨fun path other => ?_, fun path other => ?_⟩
  · have spelled : style.Equivalent path ↔ style'.Equivalent path := ⟨sameStyle.symm.trans, sameStyle.trans⟩
    rw [mem_componentsForStyle_record, mem_componentsForStyle_record, alike.style, spelled]
  · have spelled : directory.Equivalent path ↔ directory'.Equivalent path :=
      ⟨sameDirectory.symm.trans, sameDirectory.trans⟩
    rw [mem_componentsInDirectory_record, mem_componentsInDirectory_record, alike.directory, spelled]

/-- After an event in two spellings the same is known if it removes the same of the ids that are known beside its
path: those known for the style at its path are removed with the style. -/
theorem KnowsAlike.after (alike : KnowsAlike t t') {kind : WatchKind} {path path' : Path}
    (same : path.Equivalent path') (agree : ∀ id, t.KnowsBeside ⟨kind, path⟩ id →
      ((WatchEvent.mk kind path).Removes id ↔ (WatchEvent.mk kind path').Removes id)) :
    KnowsAlike (t.after ⟨kind, path⟩) (t'.after ⟨kind, path'⟩) := by
  refine ⟨fun style id => ?_, fun directory id => ?_⟩
  · rw [mem_componentsForStyle_after, mem_componentsForStyle_after, ← alike.style,
      ← WatchEvent.removesFile_congr same]
    refine and_congr_left fun known => not_congr ?_
    by_cases about : path.Equivalent style
    · rw [or_iff_right_of_imp fun removed => ⟨removed.1, about⟩, or_iff_right_of_imp fun removed => ⟨removed.1, about⟩]
    · rw [agree id (.inr ⟨style, about, known⟩)]
  · rw [mem_componentsInDirectory_after_iff, mem_componentsInDirectory_after_iff, ← alike.directory,
      ← WatchEvent.removesDirectory_congr same]
    refine and_congr_left fun known => not_congr ?_
    rw [agree id (.inl ⟨directory, known⟩)]

/-- After an event in two spellings the same is known if and only if, of the ids that are known beside the path of the
event, it removes the same. -/
theorem KnowsAlike.after_iff (alike : KnowsAlike t t') {kind : WatchKind} {path path' : Path}
    (same : path.Equivalent path') :
    KnowsAlike (t.after ⟨kind, path⟩) (t'.after ⟨kind, path'⟩) ↔
      ∀ id, t.KnowsBeside ⟨kind, path⟩ id →
        ((WatchEvent.mk kind path).Removes id ↔ (WatchEvent.mk kind path').Removes id) := by
  refine ⟨fun after id beside => ?_, alike.after same⟩
  by_cases removing : kind = .unlink
  · subst removing
    have noDirectory : ∀ path directory, ¬(WatchEvent.mk .unlink path).RemovesDirectory directory :=
      fun _ _ removed => nomatch removed.1
    rcases beside with ⟨directory, known⟩ | ⟨style, beside, known⟩
    · have stays := after.directory directory id
      have known' := (alike.directory directory id).mp known
      rw [mem_componentsInDirectory_after_iff, mem_componentsInDirectory_after_iff] at stays
      simpa [known, known', noDirectory, not_iff_not] using stays
    · have stays := after.style style id
      have known' := (alike.style style id).mp known
      have kept : ¬(WatchEvent.mk .unlink path).RemovesFile style := fun removed => beside removed.2
      have kept' := mt (WatchEvent.removesFile_congr same style).mpr kept
      rw [mem_componentsForStyle_after, mem_componentsForStyle_after] at stays
      simpa [known, known', kept, kept', not_iff_not] using stays
  · exact iff_of_false (fun removed => removing removed.1) fun removed => removing removed.1

/-- One step in two spellings. -/
theorem KnowsAlike.step_iff (alike : KnowsAlike t t') {next next' : TrackerStep} (respelled : next.Respelled next') :
    KnowsAlike (t.step next) (t'.step next') ↔ ∀ e e', next = .event e → next' = .event e' →
      ∀ id, t.KnowsBeside e id → (e.Removes id ↔ e'.Removes id) := by
  cases respelled with
  | record sameDirectory sameStyle =>
    exact iff_of_true (alike.record _ sameDirectory sameStyle) (fun _ _ isEvent => nomatch isEvent)
  | event same =>
    refine (alike.after_iff same).trans ?_
    constructor
    · rintro agree _ _ ⟨⟩ ⟨⟩
      exact agree
    · exact fun agree => agree _ _ rfl rfl

/-- The steps of two spellings of a history, from two trackers on: the same is known at each point if it was at the
start and each removed file names the same known components. By induction on the steps. -/
theorem knowsAlike_follow_iff {steps steps' : List TrackerStep}
    (respelled : List.Forall₂ TrackerStep.Respelled steps steps') (t t' : Tracker) :
    (∀ n, KnowsAlike (t.follow (steps.take n)) (t'.follow (steps'.take n))) ↔
      KnowsAlike t t' ∧ ∀ n e e', steps[n]? = some (.event e) → steps'[n]? = some (.event e') →
        ∀ id, (t.follow (steps.take n)).KnowsBeside e id → (e.Removes id ↔ e'.Removes id) := by
  induction respelled generalizing t t' with
  | nil => simp [follow]
  | @cons next next' steps steps' first _ ih =>
    have later := ih (t.step next) (t'.step next')
    constructor
    · intro always
      have alike : KnowsAlike t t' := always 0
      obtain ⟨stepped, agree⟩ := later.mp fun n => always (n + 1)
      refine ⟨alike, fun n => ?_⟩
      cases n with
      | zero =>
        intro e e' here here'
        exact (alike.step_iff first).mp stepped e e' (Option.some.inj here) (Option.some.inj here')
      | succ n => exact agree n
    · rintro ⟨alike, agree⟩ n
      cases n with
      | zero => exact alike
      | succ n =>
        have stepped := (alike.step_iff first).mpr fun e e' here here' =>
          agree 0 e e' (congrArg some here) (congrArg some here')
        exact later.mpr ⟨stepped, fun n => agree (n + 1)⟩ n

/-- A removed file is forgotten as a component that is known beside its path if its text is the path of the id. -/
theorem forgotten_iff {path : Path} {id : List Char} (known : t.KnowsBeside ⟨.unlink, path⟩ id) :
    (∀ directory, id ∉ (t.after ⟨.unlink, path⟩).componentsInDirectory directory)
      ∧ (∀ style, id ∉ (t.after ⟨.unlink, path⟩).componentsForStyle style) ↔
        modulePath id = (WatchEvent.mk .unlink path).component := by
  constructor
  · rintro ⟨directories, styles⟩
    by_contra other
    have kept : ¬(WatchEvent.mk .unlink path).Removes id := fun removed => other removed.2
    rcases known with ⟨directory, known⟩ | ⟨style, beside, known⟩
    · have noDirectory : ¬(WatchEvent.mk .unlink path).RemovesDirectory directory := fun removed => nomatch removed.1
      exact directories directory (mem_componentsInDirectory_after_iff.mpr
        ⟨fun either => either.elim kept noDirectory, known⟩)
    · exact styles style (mem_componentsForStyle_after.mpr
        ⟨fun either => either.elim kept fun removed => beside removed.2, known⟩)
  · intro named
    have removed : (WatchEvent.mk .unlink path).Removes id := ⟨rfl, named⟩
    refine ⟨fun directory inside => ?_, fun style inside => ?_⟩
    · exact (mem_componentsInDirectory_after_iff.mp inside).1 (.inl removed)
    · exact (mem_componentsForStyle_after.mp inside).1 (.inl removed)

end Alike

/-- Of the spellings of one path, only one reads as a given text. -/
theorem component_eq_iff {kind : WatchKind} {path : Path} {text : List Char} (same : path.Equivalent (.ofText text)) :
    text = (WatchEvent.mk kind path).component ↔ path = .ofText text := by
  constructor
  · exact fun reads => same.eq_ofText reads.symm
  · rintro rfl
    exact (Utf8.decodeLossy_encode text).symm

/-- Two histories that differ only in how paths are spelled give the same answers and the same reloads, at each of
their points, if and only if each removed file names the same components in both of its spellings, among those known
for more than a style at its path. And a removed file that is a known component, in some spelling, is forgotten if
and only if it is spelled as in the id, byte for byte. -/
theorem respelled_iff {steps steps' : List TrackerStep}
    (respelled : List.Forall₂ TrackerStep.Respelled steps steps') :
    ((∀ n, AnswersAlike (empty.follow (steps.take n)) (empty.follow (steps'.take n))) ↔
      ∀ n e e', steps[n]? = some (.event e) → steps'[n]? = some (.event e') →
        ∀ id, (empty.follow (steps.take n)).KnowsBeside e id → (e.Removes id ↔ e'.Removes id))
    ∧ ∀ id path, path.Equivalent (.ofText (modulePath id)) →
      (empty.follow steps).KnowsBeside ⟨.unlink, path⟩ id →
        ((∀ directory, id ∉ ((empty.follow steps).after ⟨.unlink, path⟩).componentsInDirectory directory)
          ∧ (∀ style, id ∉ ((empty.follow steps).after ⟨.unlink, path⟩).componentsForStyle style) ↔
            path = .ofText (modulePath id)) := by
  refine ⟨?_, fun id path same known => (forgotten_iff known).trans (component_eq_iff same)⟩
  have agrees := knowsAlike_follow_iff respelled empty empty
  have start : KnowsAlike empty empty := ⟨fun _ _ => Iff.rfl, fun _ _ => Iff.rfl⟩
  rw [and_iff_right start] at agrees
  rw [← agrees]
  constructor
  · exact fun answers n => (answers n).knows
  · intro knows n
    exact (knows n).answers (ordered_empty.follow _) (ordered_empty.follow _)

/-- A component that is bound to a style, and a file that is removed. -/
def removal (directory style removed : String) : List TrackerStep :=
  [.record "s/Card.tsx".toList (.ofText directory.toList) (.ofText style.toList),
    .event ⟨.unlink, .ofText removed.toList⟩]

/-- A style may be spelled in any way when it is bound and when it is removed; a component that is removed after
that may not. -/
theorem respelled_iff_style :
    List.Forall₂ TrackerStep.Respelled (removal "s" "s/Card.css" "s/Card.css")
      (removal "s/" "s/./Card.css" "s//Card.css/.")
    ∧ (∀ n, AnswersAlike (empty.follow ((removal "s" "s/Card.css" "s/Card.css").take n))
      (empty.follow ((removal "s/" "s/./Card.css" "s//Card.css/.").take n)))
    ∧ ∃ t, t = (empty.follow (removal "s" "s/Card.css" "s/Card.css")).after ⟨.unlink, .ofText "s//Card.tsx".toList⟩
      ∧ ¬((∀ directory, "s/Card.tsx".toList ∉ t.componentsInDirectory directory)
        ∧ ∀ style, "s/Card.tsx".toList ∉ t.componentsForStyle style) := by
  have respelled : List.Forall₂ TrackerStep.Respelled (removal "s" "s/Card.css" "s/Card.css")
      (removal "s/" "s/./Card.css" "s//Card.css/.") :=
    .cons (.record (by decide) (by decide)) (.cons (.event (by decide)) .nil)
  obtain ⟨answers, forgets⟩ := respelled_iff respelled
  refine ⟨respelled, answers.mpr ?_, _, rfl, fun forgotten => ?_⟩
  · rintro (_ | _ | n) e e' here here' id known
    · cases here
    · obtain rfl := TrackerStep.event.inj (Option.some.inj here)
      obtain rfl := TrackerStep.event.inj (Option.some.inj here')
      have recorded : id = "s/Card.tsx".toList := by
        rcases known with ⟨directory, known⟩ | ⟨style, _, known⟩
        · exact (mem_componentsInDirectory_record.mp known).elim And.right fun none => absurd none List.not_mem_nil
        · exact (mem_componentsForStyle_record.mp known).elim And.right fun none => absurd none List.not_mem_nil
      subst recorded
      exact iff_of_false (fun removed => absurd removed.2 (by decide +kernel))
        fun removed => absurd removed.2 (by decide +kernel)
    · cases here
  · have known : "s/Card.tsx".toList ∈
        (empty.follow (removal "s" "s/Card.css" "s/Card.css")).componentsInDirectory (.ofText "s".toList) := by
      decide +kernel
    have spelled := (forgets "s/Card.tsx".toList _ (by decide) (.inl ⟨_, known⟩)).mp forgotten
    exact absurd spelled (by decide)

/-- A component that is removed is not forgotten if its path is spelled with one separator more. -/
theorem respelled_component_kept :
    List.Forall₂ TrackerStep.Respelled (removal "s" "s/Card.css" "s/Card.tsx") (removal "s" "s/Card.css" "s//Card.tsx")
    ∧ (empty.follow (removal "s" "s/Card.css" "s/Card.tsx")).componentsForStyle (.ofText "s/Card.css".toList) = []
    ∧ (empty.follow (removal "s" "s/Card.css" "s/Card.tsx")).componentsInDirectory (.ofText "s".toList) = []
    ∧ (empty.follow (removal "s" "s/Card.css" "s//Card.tsx")).componentsForStyle (.ofText "s/Card.css".toList) =
      ["s/Card.tsx".toList]
    ∧ (empty.follow (removal "s" "s/Card.css" "s//Card.tsx")).componentsInDirectory (.ofText "s".toList) =
      ["s/Card.tsx".toList] := by
  refine ⟨?_, by decide +kernel, by decide +kernel, by decide +kernel, by decide +kernel⟩
  exact .cons (.record (by decide) (by decide)) (.cons (.event (by decide)) .nil)

end Tracker

end CompanionStyles
