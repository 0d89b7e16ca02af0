import CompanionStyles.Proofs.Plugin.Tracking

/-!
Reloads that are missed. A component that was bound by its last transform is reloaded whenever a transform
would give something else. A transform that binds nothing leaves no trace, so a component can miss the
style that it was waiting for.
-/

namespace CompanionStyles

namespace Plugin

/-- What is compared of two answers: the code and the path of the style, or the failure. -/
def outcome (answer : Except Failure (Option TransformOutput)) : Except Failure (Option (String × Path)) :=
  Option.map (fun out => (out.code, out.style)) <$> answer

/-- A component would be transformed to something else after an event that does not ask to reload it. -/
def Missed (p : Plugin) (e : WatchEvent) (tree : FileTree) (call : TransformCall)
    (answer : Except Failure (Option TransformOutput)) : Prop :=
  call.id ∉ p.reloads e ∧ outcome ((p.after (.watch e)).answer tree call) ≠ outcome answer

def Step.IsAnswer (call : TransformCall) (answer : Except Failure (Option TransformOutput)) : Step → Prop
  | transform _ call' answer' => call' = call ∧ answer' = answer
  | event _ _ => False

/-- An event names a file as the plugin does, if it is one in a component's directory or the component's
style. -/
structure Spelled (id : List Char) (style : Path) (tree : FileTree) (e : WatchEvent) : Prop where
  inDirectory : e.kind = .add → ∀ directory, LiesIn id directory →
    tree.locate directory = .ok (tree.placeOf e.path).dropLast →
    ∃ parent, e.path.parent = some parent ∧ directory.Equivalent parent
  asStyle : e.kind ≠ .add → tree.locate style = .ok (tree.placeOf e.path) →
    style.Equivalent e.path

/-- The last transform of a component, and what it answered. -/
def Answered (steps : List Step) (call : TransformCall)
    (answer : Except Failure (Option TransformOutput)) : Prop :=
  Since (Step.IsAnswer call answer) (Step.Transforms call.id) steps

/-- Why an event may not ask to reload a component: its last transform bound nothing, or it was removed
since, or an event since does not name a file as the plugin does. -/
def Loose (steps : List Step) (tree : FileTree) (e : WatchEvent) (id : List Char) :
    Except Failure (Option TransformOutput) → Prop
  | .ok (some out) =>
    Since (Step.Watches fun _ e => e.Removes id) (Step.Transforms id) steps
      ∨ Since (Step.Watches fun tree e => ¬Spelled id out.style tree e) (Step.Transforms id)
          (.event tree e :: steps)
  | .ok none => True
  | .error _ => True

/-- A component that the tracker knows, and that would be bound as its last transform bound it. -/
structure Settled (p : Plugin) (tree : FileTree) (call : TransformCall) (out : TransformOutput) : Prop where
  inDirectory : ∃ directory, (Path.ofText (modulePath call.id)).parent = some directory
    ∧ call.id ∈ p.tracker.componentsInDirectory directory
  forStyle : call.id ∈ p.tracker.componentsForStyle out.style
  bound : ∃ b, p.binding tree call.code call.id = .ok (some b)
    ∧ b.candidate.path = out.style ∧ b.output.code = out.code

theorem settled_of_answer {p : Plugin} {tree : FileTree} {call : TransformCall} {out : TransformOutput}
    (dev : p.isDev = true) (answered : p.answer tree call = .ok (some out)) :
    (p.after (.transform tree call.code call.id)).Settled tree call out := by
  obtain ⟨b, found, rfl⟩ := answer_eq_some_iff.mp answered
  have parent := parent_of_binding found
  refine ⟨⟨b.directory, parent, ?_⟩, ?_, b, ?_, rfl, rfl⟩
  · exact (mem_componentsInDirectory_transform dev).mpr
      (Or.inl (binds_iff.mpr ⟨rfl, b, found, b.directory, parent, .refl _⟩))
  · exact (mem_componentsForStyle_transform dev).mpr
      (Or.inl (binds_iff.mpr ⟨rfl, b, found, .refl _⟩))
  · rwa [(alike_after_transform p tree _ _).binding]

theorem Settled.transform {p : Plugin} {tree : FileTree} {call : TransformCall} {out : TransformOutput}
    (settled : p.Settled tree call out) (dev : p.isDev = true) (other : TransformCall) :
    (p.after (.transform tree other.code other.id)).Settled tree call out := by
  obtain ⟨⟨directory, parent, inDirectory⟩, forStyle, b, found, same⟩ := settled
  refine ⟨⟨directory, parent, ?_⟩, ?_, b, ?_, same⟩
  · exact (mem_componentsInDirectory_transform dev).mpr (Or.inr inDirectory)
  · exact (mem_componentsForStyle_transform dev).mpr (Or.inr forStyle)
  · rwa [(alike_after_transform p tree _ _).binding]

theorem reloads_of_add {p : Plugin} {e : WatchEvent} {directory : Path} (dev : p.isDev = true)
    (add : e.kind = .add) (named : e.path.parent = some directory) :
    p.reloads e = p.tracker.componentsInDirectory directory := by
  rw [reloads, if_pos dev, Tracker.affected, add]
  dsimp only
  rw [named]

theorem reloads_of_style {p : Plugin} {e : WatchEvent} (dev : p.isDev = true)
    (style : e.kind = .change ∨ e.kind = .unlink) :
    p.reloads e = p.tracker.componentsForStyle e.path := by
  rw [reloads, if_pos dev, Tracker.affected]
  rcases style with change | unlink
  · rw [change]
  · rw [unlink]

/-- A settled component that an event does not ask to reload is bound as before: the file was not added to
its directory, and is not its style. -/
theorem Settled.bound_of_changes {p : Plugin} {tree tree' : FileTree} {e : WatchEvent} {call : TransformCall}
    {out : TransformOutput} (settled : p.Settled tree call out) (dev : p.isDev = true)
    (lists : p.resolved.strategy.listsFiles = true)
    (changes : tree.Changes e.kind (tree.placeOf e.path) tree')
    (spelled : Spelled call.id out.style tree e) (absent : call.id ∉ p.reloads e) :
    ∃ b, p.binding tree' call.code call.id = .ok (some b)
      ∧ b.candidate.path = out.style ∧ b.output.code = out.code := by
  obtain ⟨⟨directory, parent, inDirectory⟩, forStyle, b, found, style, code⟩ := settled
  obtain rfl := Option.some.inj ((parent_of_binding found).symm.trans parent)
  have notAdded : e.kind = .add → tree.locate b.directory ≠ .ok (tree.placeOf e.path).dropLast := by
    intro add inside
    obtain ⟨named, isNamed, same⟩ :=
      spelled.inDirectory add b.directory ⟨b.directory, parent, .refl _⟩ inside
    rw [reloads_of_add dev add isNamed] at absent
    exact absent ((Associations.mem_get_congr same).mp inDirectory)
  have notStyle : e.kind ≠ .add → tree.locate b.candidate.path ≠ .ok (tree.placeOf e.path) := by
    intro notAdd there
    rw [style] at there
    rw [reloads_of_style dev (changes.turns.change_or_unlink notAdd)] at absent
    exact absent ((Associations.mem_get_congr (spelled.asStyle notAdd there)).mp forStyle)
  obtain ⟨b', found', candidate, output⟩ := binding_of_changes lists changes found notAdded notStyle
  exact ⟨b', found', by rw [candidate, style], by rw [output, code]⟩

theorem Settled.event {p : Plugin} {tree tree' : FileTree} {e : WatchEvent} {call : TransformCall}
    {out : TransformOutput} (settled : p.Settled tree call out) (dev : p.isDev = true)
    (lists : p.resolved.strategy.listsFiles = true)
    (changes : tree.Changes e.kind (tree.placeOf e.path) tree')
    (spelled : Spelled call.id out.style tree e) (absent : call.id ∉ p.reloads e)
    (stays : ¬e.Removes call.id) : (p.after (.watch e)).Settled tree' call out := by
  obtain ⟨b, found, same⟩ := settled.bound_of_changes dev lists changes spelled absent
  obtain ⟨⟨directory, parent, inDirectory⟩, forStyle, _⟩ := settled
  have styleStays : ¬e.RemovesFile out.style := by
    rintro ⟨unlink, named⟩
    rw [reloads_of_style dev (Or.inr unlink)] at absent
    exact absent ((Associations.mem_get_congr named).mpr forStyle)
  refine ⟨⟨directory, parent, ?_⟩, ?_, b, ?_, same⟩
  · rw [after_watch dev]
    exact (Tracker.mem_componentsInDirectory_after changes.turns.ne_unlinkDir).mpr ⟨stays, inDirectory⟩
  · rw [after_watch dev]
    exact Tracker.mem_componentsForStyle_after.mpr ⟨not_or.mpr ⟨stays, styleStays⟩, forStyle⟩
  · rwa [(alike_after_watch dev).binding]

/-- A component stays settled from its last transform on, as long as it is not removed and events name
files as the plugin does. -/
theorem Works.settled {p₀ p : Plugin} {tree : FileTree} {steps : List Step} {pending : List (List Char)}
    {call : TransformCall} {out : TransformOutput} (works : Works p₀ p tree steps pending)
    (dev : p₀.isDev = true) (lists : p₀.resolved.strategy.listsFiles = true)
    (answered : Answered steps call (.ok (some out))) (done : call.id ∉ pending)
    (stays : ¬Since (Step.Watches fun _ e => e.Removes call.id) (Step.Transforms call.id) steps)
    (spelled : ¬Since (Step.Watches fun tree e => ¬Spelled call.id out.style tree e)
      (Step.Transforms call.id) steps) : p.Settled tree call out := by
  induction works with
  | start tree => exact absurd answered since_nil
  | @transform p tree steps pending other before ih =>
    have devNow := (before.alike dev).isDev.trans dev
    rcases since_cons.mp answered with ⟨rfl, answer⟩ | ⟨another, answered⟩
    · exact settled_of_answer devNow answer
    · have apart : other.id ≠ call.id := another
      refine (ih answered ?_ ?_ ?_).transform devNow other
      · exact fun left => done (List.mem_filter.mpr ⟨left, decide_eq_true apart.symm⟩)
      · exact fun removed => stays (since_cons.mpr (Or.inr ⟨another, removed⟩))
      · exact fun misspelt => spelled (since_cons.mpr (Or.inr ⟨another, misspelt⟩))
  | @event p tree tree' steps e before changes ih =>
    have alike := before.alike dev
    have devNow := alike.isDev.trans dev
    rw [since_cons, not_or] at stays spelled
    have answered : Answered steps call (.ok (some out)) :=
      (since_cons.mp answered).elim (fun none => none.elim) And.right
    have settled := ih answered List.not_mem_nil (fun removed => stays.2 ⟨fun none => none, removed⟩)
      (fun misspelt => spelled.2 ⟨fun none => none, misspelt⟩)
    exact settled.event devNow (alike.resolved ▸ lists) changes (Classical.not_not.mp spelled.1) done stays.1

/-- An event misses a component exactly if a transform of it would give something else now, and no earlier
transform bound it to what the event is about. That only happens if the last transform of the component
bound nothing, if the component was removed since, or if an event did not name a file as the plugin
does. -/
theorem missed_iff {p₀ p : Plugin} {tree tree' : FileTree} {steps : List Step} {e : WatchEvent}
    {call : TransformCall} {answer : Except Failure (Option TransformOutput)} (dev : p₀.isDev = true)
    (fresh : p₀.tracker = .empty) (lists : p₀.resolved.strategy.listsFiles = true)
    (works : Works p₀ p tree steps []) (changes : tree.Changes e.kind (tree.placeOf e.path) tree')
    (answered : Answered steps call answer) :
    p.Missed e tree' call answer ↔
      Loose steps tree e call.id answer ∧ ¬Concerns steps e call.id
        ∧ outcome (p₀.answer tree' call) ≠ outcome answer := by
  have alike := works.alike dev
  have devNow := alike.isDev.trans dev
  rw [Missed, works.mem_reloads_iff dev fresh, ((alike_after_watch devNow).trans alike).answer]
  refine ⟨?_, And.right⟩
  rintro ⟨absent, changed⟩
  refine ⟨?_, absent, changed⟩
  match answer with
  | .error _ => trivial
  | .ok none => trivial
  | .ok (some out) =>
    refine Classical.byContradiction fun tight => ?_
    obtain ⟨stays, spelled⟩ := not_or.mp tight
    rw [since_cons, not_or] at spelled
    have settled := works.settled dev lists answered List.not_mem_nil stays
      fun misspelt => spelled.2 ⟨fun none => none, misspelt⟩
    obtain ⟨b, found, style, code⟩ := settled.bound_of_changes devNow (alike.resolved ▸ lists) changes
      (Classical.not_not.mp spelled.1) (mt (works.mem_reloads_iff dev fresh).mp absent)
    rw [alike.binding] at found
    have answer' := answer_eq_some_iff.mpr ⟨b, found, rfl⟩
    refine changed ?_
    rw [answer']
    exact congrArg (fun bound => Except.ok (some bound)) (Prod.ext code style)

def waitingTree : FileTree :=
  FileTree.empty.writeFile (.ofText "s/Card.tsx".toList) (Utf8.encode "f()".toList)

def styledTree : FileTree :=
  waitingTree.writeFile (.ofText "s/Card.css".toList) (Utf8.encode ".x".toList)

def waitingCall : TransformCall :=
  ⟨"f()".toList, "s/Card.tsx".toList⟩

def styleAdded : WatchEvent :=
  ⟨.add, .ofText "s/Card.css".toList⟩

theorem waitingTree_changes :
    waitingTree.Changes styleAdded.kind (waitingTree.placeOf styleAdded.path) styledTree := by
  have parents : waitingTree.makeParents (waitingTree.placeOf styleAdded.path)
      (fun _ => FileTree.isName_of_mem_placeOf) = waitingTree := by
    decide +kernel
  have free : waitingTree.get? (waitingTree.placeOf styleAdded.path) = none := by
    decide +kernel
  unfold styledTree FileTree.writeFile
  change waitingTree.Changes .add _ ((waitingTree.makeParents (waitingTree.placeOf styleAdded.path)
    fun _ => FileTree.isName_of_mem_placeOf).put (waitingTree.placeOf styleAdded.path)
      (fun _ => FileTree.isName_of_mem_placeOf) (.file (Utf8.encode ".x".toList)))
  rw [parents]
  refine FileTree.changes_put _ (by decide +kernel) ?_
  rw [free]
  exact .add _

/-- With default options, a plugin in use does not bind the component as long as there is no style, and
binds it as soon as there is one. -/
theorem exists_waiting :
    ∃ (p p₀ : Plugin) (out : TransformOutput), (create (.ofSettings .default)).result = .ok p
      ∧ (p.configResolved ⟨true, none⟩).result = .ok p₀
      ∧ p₀.isDev = true ∧ p₀.tracker = .empty
      ∧ p₀.resolved.strategy.listsFiles = true
      ∧ (p₀.resolved.filter.accepts (.ofText (modulePath waitingCall.id))).result = .ok true
      ∧ p₀.answer waitingTree waitingCall = .ok none
      ∧ p₀.answer styledTree waitingCall = .ok (some out) := by
  have names : styledTree.fileNames [Utf8.encode "s".toList]
      = [Utf8.encode "Card.css".toList, Utf8.encode "Card.tsx".toList] :=
    FileTree.fileNames_eq_of_perm (by decide +kernel) (by decide +kernel)
  have listed : styledTree.listDirectory (.ofText "s".toList)
      = .ok [.ofText "s/Card.css".toList, .ofText "s/Card.tsx".toList] :=
    FileTree.listDirectory_eq_ok_iff.mpr
      ⟨[Utf8.encode "s".toList], rfl, rfl, by rw [names]; rfl⟩
  have ends : Traced.passes (fun p => Traced.passes (fun p₀ =>
        decide (p₀.isDev = true ∧ p₀.tracker = .empty ∧ p₀.resolved.strategy.listsFiles = true)
        && Traced.passes id (p₀.resolved.filter.accepts (.ofText (modulePath waitingCall.id))).result
        && Traced.passes Option.isNone (p₀.binding waitingTree waitingCall.code waitingCall.id)
        && Traced.passes (fun candidates => Traced.passes Option.isSome
            (p₀.bindingTo styledTree waitingCall.code waitingCall.id (.ofText "s".toList) candidates))
          (Style.resolve (.ofText (modulePath waitingCall.id))
            [.ofText "s/Card.css".toList, .ofText "s/Card.tsx".toList] p₀.resolved.strategy).result)
      (p.configResolved ⟨true, none⟩).result) (create (.ofSettings .default)).result = true := by
    decide +kernel
  obtain ⟨p, created, ends⟩ := Traced.passes_iff.mp ends
  obtain ⟨p₀, configured, ends⟩ := Traced.passes_iff.mp ends
  simp only [Bool.and_eq_true, decide_eq_true_eq] at ends
  obtain ⟨⟨⟨⟨dev, fresh, lists⟩, accepts⟩, waits⟩, binds⟩ := ends
  obtain ⟨accepted, accepts, rfl⟩ := Traced.passes_iff.mp accepts
  obtain ⟨unbound, waits, none⟩ := Traced.passes_iff.mp waits
  obtain rfl := Option.isNone_iff_eq_none.mp none
  obtain ⟨candidates, resolved, binds⟩ := Traced.passes_iff.mp binds
  obtain ⟨bound, binds, some⟩ := Traced.passes_iff.mp binds
  obtain ⟨b, rfl⟩ := Option.isSome_iff_exists.mp some
  have searched : p₀.candidates styledTree waitingCall.id = .ok (.some (.ofText "s".toList, candidates)) :=
    candidates_eq_some_iff.mpr ⟨by decide +kernel, accepts, by decide +kernel, _,
      (listing_eq_some_iff lists).mpr listed, resolved⟩
  have styled := answer_eq_some_iff.mpr ⟨b, Traced.bind_eq_ok_iff.mpr ⟨_, searched, binds⟩, rfl⟩
  refine ⟨p, p₀, b.answer, created, configured, dev, fresh, lists, accepts, ?_, styled⟩
  rw [answer_eq, waits]
  rfl

theorem works_waiting {p₀ : Plugin} (unbound : p₀.answer waitingTree waitingCall = .ok none) :
    Works p₀ (p₀.after (.transform waitingTree waitingCall.code waitingCall.id)) waitingTree
      [.transform waitingTree waitingCall (.ok none)] [] := by
  rw [← unbound]
  exact (Works.start waitingTree).transform waitingCall

theorem not_concerns_waiting (id : List Char) :
    ¬Concerns [.transform waitingTree waitingCall (.ok none)] styleAdded id := by
  rintro ⟨directory, _, bound⟩
  rcases since_cons.mp bound with ⟨_, out, none, _⟩ | ⟨_, none⟩
  · exact absurd (Except.ok.inj none) (by simp)
  · exact since_nil none

/-- A component that was transformed while it had no style misses the style when it is added. -/
theorem missed_iff_waiting :
    ∃ p₀ : Plugin, p₀.isDev = true ∧ p₀.tracker = .empty
      ∧ p₀.resolved.strategy.listsFiles = true
      ∧ Works p₀ (p₀.after (.transform waitingTree waitingCall.code waitingCall.id)) waitingTree
        [.transform waitingTree waitingCall (.ok none)] []
      ∧ waitingTree.Changes styleAdded.kind (waitingTree.placeOf styleAdded.path) styledTree
      ∧ Answered [.transform waitingTree waitingCall (.ok none)] waitingCall (.ok none)
      ∧ (p₀.after (.transform waitingTree waitingCall.code waitingCall.id)).Missed styleAdded styledTree
        waitingCall (.ok none) := by
  obtain ⟨p, p₀, out, _, _, dev, fresh, lists, _, waits, styled⟩ := exists_waiting
  have works := works_waiting waits
  have answered : Answered [.transform waitingTree waitingCall (.ok none)] waitingCall (.ok none) :=
    since_cons.mpr (Or.inl ⟨rfl, rfl⟩)
  refine ⟨p₀, dev, fresh, lists, works, waitingTree_changes, answered, ?_⟩
  refine (missed_iff dev fresh lists works waitingTree_changes answered).mpr
    ⟨trivial, not_concerns_waiting _, ?_⟩
  rw [styled]
  intro same
  exact absurd (Except.ok.inj same) (by simp)

/-- A plugin in use whose component misses a style: the component is accepted, was transformed and is
still there; the event of the style that is added beside it asks to reload nothing, but a transform would
bind the component now. -/
theorem reload_missed :
    ∃ (p p₀ q : Plugin) (out : TransformOutput), (create (.ofSettings .default)).result = .ok p
      ∧ (p.configResolved ⟨true, none⟩).result = .ok p₀ ∧ p₀.isDev = true
      ∧ p₀.resolved.strategy.listsFiles = true
      ∧ (p₀.resolved.filter.accepts (.ofText (modulePath waitingCall.id))).result = .ok true
      ∧ Works p₀ (p₀.after (.transform waitingTree waitingCall.code waitingCall.id)) waitingTree
        [.transform waitingTree waitingCall (.ok none)] []
      ∧ waitingTree.Changes styleAdded.kind (waitingTree.placeOf styleAdded.path) styledTree
      ∧ styledTree.IsFile (styledTree.placeOf (.ofText (modulePath waitingCall.id)))
      ∧ ((p₀.after (.transform waitingTree waitingCall.code waitingCall.id)).watch styleAdded).result
        = .ok (q, [])
      ∧ q.answer styledTree waitingCall = .ok (some out) := by
  obtain ⟨p, p₀, out, created, configured, dev, fresh, lists, accepts, waits, styled⟩ := exists_waiting
  have works := works_waiting waits
  have alike := works.alike dev
  have devNow := alike.isDev.trans dev
  have nothing : (p₀.after (.transform waitingTree waitingCall.code waitingCall.id)).reloads styleAdded = [] :=
    List.eq_nil_iff_forall_not_mem.mpr fun id asked =>
      not_concerns_waiting id ((works.mem_reloads_iff dev fresh).mp asked)
  refine ⟨p, p₀, _, out, created, configured, dev, lists, accepts, works, waitingTree_changes,
    ⟨Utf8.encode "f()".toList, by decide +kernel⟩, (watch_result devNow).trans (by rw [nothing]), ?_⟩
  rw [((alike_after_watch devNow).trans alike).answer, styled]

end Plugin

end CompanionStyles
