import CompanionStyles.Proofs.Plugin.Tracking
import CompanionStyles.Proofs.Reload.History

/-!
Components that are bound again and again. The tracker keeps every style that a component was bound to,
until the style or the component is removed: a component is reloaded for a style that it has left.
-/

namespace CompanionStyles.Plugin

/-- The style that an action binds a component to, if it is a transform that gives an output. -/
def boundStyle (p : Plugin) (id : List Char) : Action → Option Path
  | .transform tree code other =>
    match p.answer tree ⟨code, other⟩ with
    | .ok (some out) => if other = id then some out.style else none
    | _ => none
  | _ => none

/-- The style that the last transform of a run to give an output for a component bound it to. -/
def lastStyle (p : Plugin) (id : List Char) : List Action → Option Path
  | [] => none
  | action :: actions => ((p.after action).lastStyle id actions).or (p.boundStyle id action)

/-- A transform of a run bound a component to a style, and no later event told that the style or the
component was removed. -/
def HoldsStyle (p : Plugin) (actions : List Action) (id : List Char) (style : Path) : Prop :=
  ∃ before action after own, actions = before ++ action :: after
    ∧ (p.run before).boundStyle id action = some own ∧ own.Equivalent style
    ∧ ∀ e, .watch e ∈ after → ¬(e.Removes id ∨ e.RemovesFile style)

/-- A transform of a run bound a component to a style, no later event told that the style or the component
was removed, and the last of the later transforms bound the component to another style. -/
def HasLeft (p : Plugin) (actions : List Action) (id : List Char) (style last : Path) : Prop :=
  ∃ before action after own, actions = before ++ action :: after
    ∧ (p.run before).boundStyle id action = some own ∧ own.Equivalent style
    ∧ (∀ e, .watch e ∈ after → ¬(e.Removes id ∨ e.RemovesFile style))
    ∧ (p.run (before ++ [action])).lastStyle id after = some last ∧ ¬last.Equivalent style

/-- What an action does to the tracker of a plugin in use. -/
def trackerSteps (p : Plugin) : List Action → List TrackerStep
  | [] => []
  | .configure config :: actions => (p.after (.configure config)).trackerSteps actions
  | .watch e :: actions => .event e :: (p.after (.watch e)).trackerSteps actions
  | .transform tree code id :: actions =>
    let later := (p.after (.transform tree code id)).trackerSteps actions
    match p.bindingOf (.transform tree code id) with
    | some b => .record id b.directory b.candidate.path :: later
    | none => later

theorem boundStyle_eq_some_iff {p : Plugin} {id : List Char} {tree : FileTree} {code other : List Char}
    {style : Path} :
    p.boundStyle id (.transform tree code other) = some style ↔
      other = id ∧ ∃ b, p.bindingOf (.transform tree code other) = some b ∧ b.candidate.path = style := by
  unfold boundStyle bindingOf
  dsimp only
  rw [answer_eq]
  cases p.binding tree code other with
  | error failure => simp [Functor.map, Except.map]
  | ok bound =>
    cases bound with
    | none => simp [Functor.map, Except.map]
    | some b => simp [Functor.map, Except.map, Binding.answer]

theorem lastStyle_append (p : Plugin) (id : List Char) (first second : List Action) :
    p.lastStyle id (first ++ second) = ((p.run first).lastStyle id second).or (p.lastStyle id first) := by
  induction first generalizing p with
  | nil => simp [lastStyle, run]
  | cons action first ih => rw [List.cons_append, lastStyle, ih, run_cons, lastStyle, Option.or_assoc]

theorem after_configure_of_isDev {p : Plugin} {config : HostConfig} (dev : p.isDev = true) :
    p.after (.configure config) = p := by
  have hosted : p.host ≠ none := by
    intro none
    unfold isDev at dev
    rw [none] at dev
    exact absurd dev (by simp)
  unfold after keep
  dsimp only
  split
  · rename_i q configured
    exact (configResolved_eq_ok configured).resolve_right fun fresh => hosted fresh.1
  · rfl

theorem isDev_after {p : Plugin} (dev : p.isDev = true) (action : Action) :
    (p.after action).isDev = true := by
  cases action with
  | configure config => rw [after_configure_of_isDev dev, dev]
  | transform tree code id => exact (alike_after_transform p tree code id).isDev.trans dev
  | watch e => exact (alike_after_watch dev).isDev.trans dev

/-- The tracker follows what a run does to it. -/
theorem run_tracker {p : Plugin} (dev : p.isDev = true) (actions : List Action) :
    (p.run actions).tracker = p.tracker.follow (p.trackerSteps actions) := by
  induction actions generalizing p with
  | nil => rfl
  | cons action actions ih =>
    rw [run_cons, ih (isDev_after dev action)]
    cases action with
    | configure config => rw [trackerSteps, after_configure_of_isDev dev]
    | watch e =>
      rw [trackerSteps, Tracker.follow_cons]
      refine congrArg (Tracker.follow · _) ?_
      rw [after_watch dev]
      rfl
    | transform tree code id =>
      rw [trackerSteps]
      have transformed := after_transform p tree code id
      split
      · rename_i b found
        rw [found] at transformed
        rw [Tracker.follow_cons]
        refine congrArg (Tracker.follow · _) ?_
        rw [transformed]
        exact if_pos dev
      · rename_i none
        rw [none] at transformed
        refine congrArg (Tracker.follow · _) ?_
        rw [transformed]

theorem event_mem_trackerSteps {p : Plugin} {actions : List Action} {e : WatchEvent} :
    .event e ∈ p.trackerSteps actions ↔ .watch e ∈ actions := by
  induction actions generalizing p with
  | nil => simp [trackerSteps]
  | cons action actions ih =>
    cases action with
    | configure config => simp [trackerSteps, ih]
    | watch f => simp [trackerSteps, ih]
    | transform tree code id =>
      rw [trackerSteps]
      split
      · simp [ih]
      · simp [ih]

theorem holdsStyle_cons {p : Plugin} {action : Action} {actions : List Action} {id : List Char}
    {style : Path} :
    p.HoldsStyle (action :: actions) id style ↔
      ((∃ own, p.boundStyle id action = some own ∧ own.Equivalent style)
        ∧ ∀ e, .watch e ∈ actions → ¬(e.Removes id ∨ e.RemovesFile style))
      ∨ (p.after action).HoldsStyle actions id style := by
  constructor
  · rintro ⟨before, first, later, own, split, bound, same, stays⟩
    cases before with
    | nil =>
      obtain ⟨rfl, rfl⟩ := List.cons.inj split
      exact Or.inl ⟨⟨own, bound, same⟩, stays⟩
    | cons other before =>
      obtain ⟨rfl, rfl⟩ := List.cons.inj split
      exact Or.inr ⟨before, first, later, own, rfl, bound, same, stays⟩
  · rintro (⟨⟨own, bound, same⟩, stays⟩ | ⟨before, first, later, own, rfl, bound, same, stays⟩)
    · exact ⟨[], action, actions, own, rfl, bound, same, stays⟩
    · exact ⟨action :: before, first, later, own, rfl, bound, same, stays⟩

/-- What stands in the tracker's history is what the run holds. -/
theorem standsForStyle_iff {p : Plugin} {actions : List Action} {id : List Char} {style : Path} :
    StandsForStyle (p.trackerSteps actions) id style ↔ p.HoldsStyle actions id style := by
  induction actions generalizing p with
  | nil =>
    refine iff_of_false not_stands_nil ?_
    rintro ⟨_, _, _, _, split, _⟩
    exact absurd split (by simp)
  | cons action actions ih =>
    rw [holdsStyle_cons, ← ih]
    have events : (∀ e, .event e ∈ (p.after action).trackerSteps actions →
        ¬(e.Removes id ∨ e.RemovesFile style)) ↔
        ∀ e, .watch e ∈ actions → ¬(e.Removes id ∨ e.RemovesFile style) := by
      simp only [event_mem_trackerSteps]
    cases action with
    | configure config =>
      rw [trackerSteps]
      exact (or_iff_right fun bound => absurd bound.1.choose_spec.1 (by simp [boundStyle])).symm
    | watch e =>
      rw [trackerSteps, StandsForStyle, stands_cons]
      refine or_congr_left (iff_of_false ?_ ?_)
      · rintro ⟨⟨_, _, same, _⟩, _⟩
        exact absurd same (by simp)
      · rintro ⟨⟨_, bound, _⟩, _⟩
        exact absurd bound (by simp [boundStyle])
    | transform tree code other =>
      simp only [boundStyle_eq_some_iff]
      rw [trackerSteps]
      cases found : p.bindingOf (.transform tree code other) with
      | none =>
        refine (or_iff_right ?_).symm
        rintro ⟨⟨_, ⟨_, _, none, _⟩, _⟩, _⟩
        exact absurd none (by simp)
      | some b =>
        dsimp only
        rw [StandsForStyle, stands_cons, events]
        refine or_congr_left (and_congr_left fun _ => ?_)
        constructor
        · rintro ⟨_, _, same, fits⟩
          obtain ⟨rfl, rfl, rfl⟩ := TrackerStep.record.inj same
          exact ⟨_, ⟨rfl, b, rfl, rfl⟩, fits⟩
        · rintro ⟨_, ⟨rfl, _, same, rfl⟩, fits⟩
          obtain rfl := Option.some.inj same
          exact ⟨_, _, rfl, fits⟩

/-- A component that holds a style that its last transform did not bind it to has left that style. -/
theorem hasLeft_iff {p : Plugin} {actions : List Action} {id : List Char} {style last : Path} :
    p.HasLeft actions id style last ↔
      p.HoldsStyle actions id style ∧ p.lastStyle id actions = some last ∧ ¬last.Equivalent style := by
  constructor
  · rintro ⟨before, action, after, own, rfl, bound, same, stays, later, other⟩
    refine ⟨⟨before, action, after, own, rfl, bound, same, stays⟩, ?_, other⟩
    rw [List.append_cons, lastStyle_append, later]
    rfl
  · rintro ⟨⟨before, action, after, own, rfl, bound, same, stays⟩, found, other⟩
    refine ⟨before, action, after, own, rfl, bound, same, stays, ?_, other⟩
    rw [List.append_cons, lastStyle_append] at found
    cases later : (p.run (before ++ [action])).lastStyle id after with
    | some path =>
      rw [later] at found
      exact found
    | none =>
      rw [later, Option.none_or, lastStyle_append, lastStyle, lastStyle, Option.none_or, bound,
        Option.some_or] at found
      obtain rfl := Option.some.inj found
      exact absurd same other

theorem HoldsStyle.exists_lastStyle {p : Plugin} {actions : List Action} {id : List Char} {style : Path}
    (holds : p.HoldsStyle actions id style) : ∃ last, p.lastStyle id actions = some last := by
  obtain ⟨before, action, after, own, rfl, bound, _, _⟩ := holds
  rw [lastStyle_append, lastStyle, bound]
  cases ((p.run before).after action).lastStyle id after with
  | none => exact ⟨own, rfl⟩
  | some last => exact ⟨last, rfl⟩

/-- The style of the last transform is held, unless an event of the run told that it was removed. -/
theorem holdsStyle_of_lastStyle {p : Plugin} {actions : List Action} {id : List Char} {last : Path}
    (bound : p.lastStyle id actions = some last)
    (stays : ∀ e, .watch e ∈ actions → ¬(e.Removes id ∨ e.RemovesFile last)) :
    p.HoldsStyle actions id last := by
  induction actions generalizing p with
  | nil => exact absurd bound (by simp [lastStyle])
  | cons action actions ih =>
    have later := fun e watched => stays e (List.mem_cons_of_mem action watched)
    rw [lastStyle] at bound
    refine holdsStyle_cons.mpr ?_
    cases found : (p.after action).lastStyle id actions with
    | some path =>
      rw [found, Option.some_or] at bound
      exact Or.inr (ih (found.trans bound) later)
    | none =>
      rw [found, Option.none_or] at bound
      exact Or.inl ⟨⟨last, bound, .refl last⟩, later⟩

/-- Of two styles that a component holds, it has left at least one. -/
theorem HoldsStyle.hasLeft_or {p : Plugin} {actions : List Action} {id : List Char} {one other last : Path}
    (holds : p.HoldsStyle actions id one) (holds' : p.HoldsStyle actions id other)
    (distinct : ¬one.Equivalent other) (found : p.lastStyle id actions = some last) :
    p.HasLeft actions id one last ∨ p.HasLeft actions id other last := by
  rw [hasLeft_iff, hasLeft_iff]
  by_cases same : last.Equivalent one
  · exact Or.inr ⟨holds', found, fun same' => distinct (same.symm.trans same')⟩
  · exact Or.inl ⟨holds, found, same⟩

/-- A style has, after a run, the components that hold it. -/
theorem run_mem_componentsForStyle {p : Plugin} (dev : p.isDev = true) (fresh : p.tracker = .empty)
    {actions : List Action} {id : List Char} {style : Path} :
    id ∈ (p.run actions).tracker.componentsForStyle style ↔ p.HoldsStyle actions id style := by
  rw [run_tracker dev, fresh, Tracker.follow_mem_componentsForStyle, standsForStyle_iff]

theorem isDev_run {p : Plugin} (dev : p.isDev = true) (actions : List Action) :
    (p.run actions).isDev = true := by
  induction actions generalizing p with
  | nil => exact dev
  | cons action actions ih => exact ih (isDev_after dev action)

/-- A changed or removed style asks to reload the components that hold it. -/
theorem run_mem_reloads {p : Plugin} (dev : p.isDev = true) (fresh : p.tracker = .empty)
    {actions : List Action} {id : List Char} {e : WatchEvent} (style : e.kind = .change ∨ e.kind = .unlink) :
    id ∈ (p.run actions).reloads e ↔ p.HoldsStyle actions id e.path := by
  rw [reloads, if_pos (isDev_run dev actions), ← run_mem_componentsForStyle dev fresh]
  unfold Tracker.affected
  rcases style with changed | removed
  · rw [changed]
  · rw [removed]

/-- A component is reloaded for a changed or removed style exactly if a transform bound it to that style and
no event since then told that the style or the component was removed. So it is reloaded for a style that its
last transform did not bind it to exactly if it has left that style: an earlier transform bound it to the
style, which was not removed, and a later one bound it to another. If it is known for two styles it has left
one of them. -/
theorem reloads_for_style {p : Plugin} (dev : p.isDev = true) (fresh : p.tracker = .empty)
    (actions : List Action) (id : List Char) :
    (∀ style, id ∈ (p.run actions).tracker.componentsForStyle style ↔ p.HoldsStyle actions id style)
    ∧ (∀ one other, id ∈ (p.run actions).tracker.componentsForStyle one →
      id ∈ (p.run actions).tracker.componentsForStyle other → ¬one.Equivalent other →
      ∃ last, p.HasLeft actions id one last ∨ p.HasLeft actions id other last)
    ∧ ∀ e, e.kind = .change ∨ e.kind = .unlink →
      (id ∈ (p.run actions).reloads e ↔ p.HoldsStyle actions id e.path)
      ∧ (id ∈ (p.run actions).reloads e → ∃ last, p.lastStyle id actions = some last)
      ∧ ∀ last, p.lastStyle id actions = some last →
        (id ∈ (p.run actions).reloads e ∧ ¬last.Equivalent e.path ↔ p.HasLeft actions id e.path last) := by
  refine ⟨fun style => run_mem_componentsForStyle dev fresh, ?_, fun e style => ?_⟩
  · intro one other known known' distinct
    have holds := (run_mem_componentsForStyle dev fresh).mp known
    have holds' := (run_mem_componentsForStyle dev fresh).mp known'
    obtain ⟨last, found⟩ := holds.exists_lastStyle
    exact ⟨last, holds.hasLeft_or holds' distinct found⟩
  · have reloaded := @run_mem_reloads p dev fresh actions id e style
    refine ⟨reloaded, fun asked => (reloaded.mp asked).exists_lastStyle, fun last found => ?_⟩
    rw [hasLeft_iff, reloaded]
    exact and_congr_right fun _ => (and_iff_right found).symm

def oldStyleTree : FileTree :=
  FileTree.empty.writeFile (.ofText "s/Card.scss".toList) (Utf8.encode ".x".toList)

/-- The tree with a style that comes before the other one. -/
def newStyleTree : FileTree :=
  oldStyleTree.writeFile (.ofText "s/Card.css".toList) (Utf8.encode ".y".toList)

def cardCall : TransformCall :=
  ⟨"f()".toList, "s/Card.tsx".toList⟩

/-- The component is bound to the old style; the new one is added, and the component is bound again. -/
def reboundActions : List Action :=
  [.transform oldStyleTree cardCall.code cardCall.id, .watch ⟨.add, .ofText "s/Card.css".toList⟩,
    .transform newStyleTree cardCall.code cardCall.id]

def oldStyleChanged : WatchEvent :=
  ⟨.change, .ofText "s/Card.scss".toList⟩

/-- What a transform answers if the files beside the component are known. -/
theorem answer_of_listing {p : Plugin} {tree : FileTree} {call : TransformCall} {directory : Path}
    {paths : List Path} {candidates : List Style.Candidate} {b : Binding}
    (lists : p.resolved.strategy.listsFiles = true) (own : isForeign call.id = false)
    (accepts : (p.resolved.filter.accepts (Path.ofText (modulePath call.id))).result = .ok true)
    (parent : (Path.ofText (modulePath call.id)).parent = some directory)
    (listed : tree.listDirectory directory = .ok paths)
    (resolved : (Style.resolve (Path.ofText (modulePath call.id)) paths p.resolved.strategy).result
      = .ok candidates)
    (bound : p.bindingTo tree call.code call.id directory candidates = .ok (some b)) :
    p.answer tree call = .ok (some b.answer) := by
  have searched : p.candidates tree call.id = .ok (some (directory, candidates)) :=
    candidates_eq_some_iff.mpr ⟨own, accepts, parent, paths, (listing_eq_some_iff lists).mpr listed, resolved⟩
  exact answer_eq_some_iff.mpr ⟨b, Traced.bind_eq_ok_iff.mpr ⟨_, searched, bound⟩, rfl⟩

/-- With default options, a plugin in use binds the component to the old style as long as it is alone, and
to the new one as soon as that is there. -/
theorem exists_rebound :
    ∃ (p p₀ : Plugin) (old new : TransformOutput), (create (.ofSettings .default)).result = .ok p
      ∧ (p.configResolved ⟨true, none⟩).result = .ok p₀
      ∧ p₀.isDev = true ∧ p₀.tracker = .empty
      ∧ p₀.answer oldStyleTree cardCall = .ok (some old) ∧ old.style = .ofText "s/Card.scss".toList
      ∧ p₀.answer newStyleTree cardCall = .ok (some new) ∧ new.style = .ofText "s/Card.css".toList := by
  have names : newStyleTree.fileNames [Utf8.encode "s".toList]
      = [Utf8.encode "Card.css".toList, Utf8.encode "Card.scss".toList] :=
    FileTree.fileNames_eq_of_perm (by decide +kernel) (by decide +kernel)
  have listed : newStyleTree.listDirectory (.ofText "s".toList)
      = .ok [.ofText "s/Card.css".toList, .ofText "s/Card.scss".toList] :=
    FileTree.listDirectory_eq_ok_iff.mpr
      ⟨[Utf8.encode "s".toList], rfl, rfl, by rw [names]; rfl⟩
  have ends : Traced.passes (fun p => Traced.passes (fun p₀ =>
        decide (p₀.isDev = true ∧ p₀.tracker = .empty ∧ p₀.resolved.strategy.listsFiles = true)
        && Traced.passes id (p₀.resolved.filter.accepts (.ofText (modulePath cardCall.id))).result
        && Traced.passes (fun bound => bound.any fun b =>
            decide (b.answer.style = .ofText "s/Card.scss".toList))
          (p₀.binding oldStyleTree cardCall.code cardCall.id)
        && Traced.passes (fun candidates => Traced.passes (fun bound => bound.any fun b =>
            decide (b.answer.style = .ofText "s/Card.css".toList))
            (p₀.bindingTo newStyleTree cardCall.code cardCall.id (.ofText "s".toList) candidates))
          (Style.resolve (.ofText (modulePath cardCall.id))
            [.ofText "s/Card.css".toList, .ofText "s/Card.scss".toList] p₀.resolved.strategy).result)
      (p.configResolved ⟨true, none⟩).result) (create (.ofSettings .default)).result = true := by
    decide +kernel
  obtain ⟨p, created, ends⟩ := Traced.passes_iff.mp ends
  obtain ⟨p₀, configured, ends⟩ := Traced.passes_iff.mp ends
  simp only [Bool.and_eq_true, decide_eq_true_eq] at ends
  obtain ⟨⟨⟨⟨dev, fresh, lists⟩, accepts⟩, old⟩, new⟩ := ends
  obtain ⟨_, accepts, rfl⟩ := Traced.passes_iff.mp accepts
  obtain ⟨_, old, oldStyle⟩ := Traced.passes_iff.mp old
  obtain ⟨b, rfl, oldStyle⟩ := (Option.any_eq_true _ _).mp oldStyle
  obtain ⟨candidates, resolved, new⟩ := Traced.passes_iff.mp new
  obtain ⟨_, new, newStyle⟩ := Traced.passes_iff.mp new
  obtain ⟨b', rfl, newStyle⟩ := (Option.any_eq_true _ _).mp newStyle
  have answer := answer_of_listing lists (by decide +kernel) accepts (by decide +kernel) listed resolved new
  exact ⟨p, p₀, b.answer, b'.answer, created, configured, dev, fresh,
    answer_eq_some_iff.mpr ⟨b, old, rfl⟩, of_decide_eq_true oldStyle, answer, of_decide_eq_true newStyle⟩

theorem boundStyle_of_answer {p : Plugin} {tree : FileTree} {call : TransformCall} {out : TransformOutput}
    (answered : p.answer tree call = .ok (some out)) :
    p.boundStyle call.id (.transform tree call.code call.id) = some out.style := by
  unfold boundStyle
  dsimp only
  rw [answered]
  exact if_pos rfl

theorem not_removes_of_reboundActions {e : WatchEvent} (watched : .watch e ∈ reboundActions) (id : List Char)
    (style : Path) : ¬(e.Removes id ∨ e.RemovesFile style) := by
  have added : e = ⟨.add, .ofText "s/Card.css".toList⟩ := by simpa [reboundActions] using watched
  rw [added]
  rintro (removed | removed)
  · exact absurd removed.1 (by decide)
  · exact absurd removed.1 (by decide)

/-- With default options, the component leaves the old style for the new one. -/
theorem exists_left :
    ∃ p p₀ : Plugin, (create (.ofSettings .default)).result = .ok p
      ∧ (p.configResolved ⟨true, none⟩).result = .ok p₀
      ∧ p₀.isDev = true ∧ p₀.tracker = .empty
      ∧ p₀.HasLeft reboundActions cardCall.id oldStyleChanged.path (.ofText "s/Card.css".toList) := by
  obtain ⟨p, p₀, old, new, created, configured, dev, fresh, first, oldStyle, second, newStyle⟩ := exists_rebound
  refine ⟨p, p₀, created, configured, dev, fresh,
    [], _, _, old.style, rfl, boundStyle_of_answer first, ?_, ?_, ?_, by decide +kernel⟩
  · rw [oldStyle]
    exact Path.Equivalent.refl _
  · intro e watched
    exact not_removes_of_reboundActions (List.mem_cons_of_mem _ watched) _ _
  · -- What the component is bound to at the end does not depend on what was done before.
    have started := alike_after_transform p₀ oldStyleTree cardCall.code cardCall.id
    have alike := (alike_after_watch (e := ⟨.add, .ofText "s/Card.css".toList⟩)
      (started.isDev.trans dev)).trans started
    have rebound := boundStyle_of_answer ((alike.answer newStyleTree cardCall).trans second)
    rw [newStyle] at rebound
    exact congrArg (fun style => (Option.or none style).or none) rebound

/-- The component that left the old style is reloaded for it. -/
theorem reloads_for_style_left :
    ∃ p₀ : Plugin, p₀.isDev = true ∧ p₀.tracker = .empty
      ∧ cardCall.id ∈ (p₀.run reboundActions).reloads oldStyleChanged := by
  obtain ⟨_, p₀, _, _, dev, fresh, left⟩ := exists_left
  obtain ⟨_, _, reloaded⟩ := reloads_for_style dev fresh reboundActions cardCall.id
  obtain ⟨_, _, leaves⟩ := reloaded oldStyleChanged (Or.inl rfl)
  exact ⟨p₀, dev, fresh, ((leaves _ (hasLeft_iff.mp left).2.1).mpr left).1⟩

/-- So with default options a component is reloaded for a style that is not the one that its last transform
bound it to, and the tracker has it under both. -/
theorem left_style_reloaded :
    ∃ (p p₀ : Plugin) (last : Path), (create (.ofSettings .default)).result = .ok p
      ∧ (p.configResolved ⟨true, none⟩).result = .ok p₀
      ∧ p₀.lastStyle cardCall.id reboundActions = some last ∧ ¬last.Equivalent oldStyleChanged.path
      ∧ cardCall.id ∈ (p₀.run reboundActions).reloads oldStyleChanged
      ∧ cardCall.id ∈ (p₀.run reboundActions).tracker.componentsForStyle last
      ∧ cardCall.id ∈ (p₀.run reboundActions).tracker.componentsForStyle oldStyleChanged.path := by
  obtain ⟨p, p₀, created, configured, dev, fresh, left⟩ := exists_left
  obtain ⟨holds, found, other⟩ := hasLeft_iff.mp left
  have stays := fun e watched =>
    @not_removes_of_reboundActions e watched cardCall.id (.ofText "s/Card.css".toList)
  exact ⟨p, p₀, _, created, configured, found, other, (run_mem_reloads dev fresh (Or.inl rfl)).mpr holds,
    (run_mem_componentsForStyle dev fresh).mpr (holdsStyle_of_lastStyle found stays),
    (run_mem_componentsForStyle dev fresh).mpr holds⟩

end CompanionStyles.Plugin
