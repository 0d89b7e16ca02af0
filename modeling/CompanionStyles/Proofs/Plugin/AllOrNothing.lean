import CompanionStyles.Plugin.Procedure
import CompanionStyles.Proofs.Plugin.Runs
import CompanionStyles.Proofs.Plugin.Unaffected
import CompanionStyles.Proofs.Reload.Tracker

/-!
Transforms are all or nothing. A procedure that changes the plugin on its way is compared with an operation
that gives a new plugin only if it succeeds; a transform agrees with one, since it changes nothing before
the last step that can fail.
-/

namespace CompanionStyles.Plugin

theorem Procedure.bind_of_error {α β : Type} {first : Procedure α} {next : α → Procedure β} {p : Plugin}
    {failure : Failure} (fails : (first p).1.result = .error failure) :
    (first >>= next) p = (⟨(first p).1.log, (first p).1.calls, .error failure⟩, (first p).2) := by
  change Procedure.andThen first next p = _
  unfold Procedure.andThen
  dsimp only
  rw [fails]

theorem Procedure.bind_of_ok {α β : Type} {first : Procedure α} {next : α → Procedure β} {p : Plugin}
    {value : α} (succeeds : (first p).1.result = .ok value) :
    (first >>= next) p =
      (⟨(first p).1.log ++ (next value (first p).2).1.log, (first p).1.calls ++ (next value (first p).2).1.calls,
        (next value (first p).2).1.result⟩, (next value (first p).2).2) := by
  change Procedure.andThen first next p = _
  unfold Procedure.andThen
  dsimp only
  rw [succeeds]

/-- From a plugin on, a procedure does what an operation does, and leaves the plugin that the operation
gives, or the old one if it fails. -/
structure Performs {α : Type} (procedure : Procedure α) (p : Plugin) (operation : Traced (Plugin × α)) :
    Prop where
  log : (procedure p).1.log = operation.log
  calls : (procedure p).1.calls = operation.calls
  result : (procedure p).1.result = Prod.snd <$> operation.result
  plugin : (procedure p).2 = p.keep Prod.fst operation.result

theorem Performs.of_eq {α : Type} {procedure : Procedure α} {p q : Plugin} {operation : Traced (Plugin × α)}
    {done : Traced α} (ends : procedure p = (done, q)) (log : done.log = operation.log)
    (calls : done.calls = operation.calls) (result : done.result = Prod.snd <$> operation.result)
    (plugin : q = p.keep Prod.fst operation.result) : Performs procedure p operation :=
  ⟨(congrArg (·.1.log) ends).trans log, (congrArg (·.1.calls) ends).trans calls,
    (congrArg (·.1.result) ends).trans result, (congrArg (·.2) ends).trans plugin⟩

theorem Performs.pure {α : Type} (p : Plugin) (value : α) :
    Performs (pure value) p (pure (p, value)) :=
  ⟨rfl, rfl, rfl, rfl⟩

/-- A step that only reads the plugin may come first. If it fails, both stop there; if not, both go on with
the same trace, from the same plugin. -/
theorem Performs.reading {α β : Type} {step : Plugin → Traced α} {next : α → Procedure β} {p : Plugin}
    {rest : α → Traced (Plugin × β)} (performs : ∀ value, Performs (next value) p (rest value)) :
    Performs (Procedure.reading step >>= next) p (step p >>= rest) := by
  cases found : (step p).result with
  | error failure =>
    rw [Traced.bind_of_error found]
    exact .of_eq (Procedure.bind_of_error found) rfl rfl rfl rfl
  | ok value =>
    obtain ⟨log, calls, result, plugin⟩ := performs value
    rw [Traced.bind_of_ok found]
    exact .of_eq (Procedure.bind_of_ok found) (congrArg ((step p).log ++ ·) log)
      (congrArg ((step p).calls ++ ·) calls) result plugin

/-- The last step of a transform, which cannot fail. -/
theorem commit_eq (p : Plugin) (id : List Char) (directory : Path) (c : Style.Candidate) (css : List Char) :
    Procedure.commit id directory c css p =
      (Traced.debug (boundText id c), p.bound id directory c.path css) := by
  obtain ⟨options, resolved, compiler, host, registry, tracker⟩ := p
  cases host with
  | none => rfl
  | some config =>
    obtain ⟨dev, modules⟩ := config
    cases dev with
    | true => rfl
    | false => rfl

theorem Performs.commit (p : Plugin) (id : List Char) (directory : Path) (c : Style.Candidate)
    (css : List Char) (out : TransformOutput) :
    Performs (Procedure.commit id directory c css >>= fun _ => Pure.pure (some out)) p
      (Traced.debug (boundText id c) >>= fun _ => Pure.pure (p.bound id directory c.path css, some out)) := by
  have done : (Procedure.commit id directory c css p).1.result = .ok () := by rw [commit_eq]; rfl
  have procedure : (Procedure.commit id directory c css >>= fun _ => Pure.pure (some out)) p = _ :=
    Procedure.bind_of_ok done
  rw [commit_eq] at procedure
  exact .of_eq procedure rfl rfl rfl rfl

/-- A transform that goes on step by step does what one does that gives the plugin at its end. -/
theorem transforming_performs (p : Plugin) (tree : FileTree) (code id : List Char) :
    Performs (transforming tree code id) p (p.transform tree code id) := by
  unfold transforming transform
  by_cases foreign : isForeign id = true
  · rw [if_pos foreign, if_pos foreign]
    exact .pure p none
  · rw [if_neg foreign, if_neg foreign]
    refine .reading fun accepted => ?_
    cases accepted with
    | false => exact .pure p none
    | true =>
      cases (Path.ofText (modulePath id)).parent with
      | none => exact .pure p none
      | some directory =>
        refine .reading fun listing => ?_
        cases listing with
        | none => exact .pure p none
        | some paths =>
          refine .reading fun candidates => .reading fun picked => ?_
          cases picked with
          | none => exact .pure p none
          | some candidate =>
            refine .reading fun style => .reading fun output => ?_
            exact .commit p id directory candidate style.css _

/-- Only the style is registered and the component may be recorded between two plugins; what was registered
under other paths, and what is known of other components, is as it was. -/
structure BindsOnly (p q : Plugin) (id key css : List Char) (directory style : Path) : Prop where
  alike : q.Alike p
  registered : ∀ path, q.registry.get? path = if path = key then some css else p.registry.get? path
  inDirectory : ∀ other path, other ∈ q.tracker.componentsInDirectory path ↔
    p.isDev = true ∧ other = id ∧ directory.Equivalent path ∨ other ∈ p.tracker.componentsInDirectory path
  forStyle : ∀ other path, other ∈ q.tracker.componentsForStyle path ↔
    p.isDev = true ∧ other = id ∧ style.Equivalent path ∨ other ∈ p.tracker.componentsForStyle path
  isTracked : ∀ path, q.tracker.isTrackedDirectory path = true ↔
    p.isDev = true ∧ directory.Equivalent path ∨ p.tracker.isTrackedDirectory path = true
  untracked : p.isDev = false → q.tracker = p.tracker

theorem bindsOnly_afterBinding (p : Plugin) (id : List Char) (b : Binding) :
    p.BindsOnly (p.afterBinding id b) id b.key b.style.css b.directory b.candidate.path := by
  have tracker : (p.afterBinding id b).tracker =
      if p.isDev then p.tracker.record id b.directory b.candidate.path else p.tracker :=
    rfl
  have registered : ∀ path, (p.afterBinding id b).registry.get? path =
      if path = b.key then some b.style.css else p.registry.get? path :=
    fun path => Registry.get?_register ..
  cases dev : p.isDev with
  | true =>
    rw [dev, if_pos rfl] at tracker
    refine ⟨alike_afterBinding p id b, registered, ?_, ?_, ?_, fun idle => absurd dev (by simp [idle])⟩
    · intro other path
      rw [tracker, Tracker.mem_componentsInDirectory_record, and_comm]
      exact or_congr_left (and_iff_right dev).symm
    · intro other path
      rw [tracker, Tracker.mem_componentsForStyle_record, and_comm]
      exact or_congr_left (and_iff_right dev).symm
    · intro path
      rw [tracker, Tracker.isTrackedDirectory_record]
      exact or_congr_left (and_iff_right dev).symm
  | false =>
    rw [dev, if_neg (by decide)] at tracker
    refine ⟨alike_afterBinding p id b, registered, ?_, ?_, ?_, fun _ => tracker⟩
    · intro other path
      rw [tracker]
      exact (or_iff_right fun changed => absurd changed.1 (by simp [dev])).symm
    · intro other path
      rw [tracker]
      exact (or_iff_right fun changed => absurd changed.1 (by simp [dev])).symm
    · intro path
      rw [tracker]
      exact (or_iff_right fun changed => absurd changed.1 (by simp [dev])).symm

/-- A transform is all or nothing, whatever the plugin, the files and the callbacks. If it fails, or binds
nothing, it leaves the plugin that it found. If it binds the component to a style, what has changed is that
the text of the style is registered under its path and, while components are worked on, that the component
is known for its directory and its style. -/
theorem transforming_all_or_nothing (p : Plugin) (tree : FileTree) (code id : List Char) :
    match transforming tree code id p with
    | (done, q) =>
      match done.result with
      | .error _ => q = p
      | .ok none => q = p
      | .ok (some out) => ∃ b, p.binding tree code id = .ok (some b) ∧ out = b.answer
        ∧ (Path.ofText (modulePath id)).parent = some b.directory
        ∧ (p.styleOf tree b.candidate).result = .ok b.style
        ∧ p.BindsOnly q id (registryKey out.style) b.style.css b.directory out.style := by
  obtain ⟨_, _, result, plugin⟩ := transforming_performs p tree code id
  rw [transform_result] at result plugin
  cases bound : p.binding tree code id with
  | error failure =>
    rw [bound] at result plugin
    dsimp only
    rw [result]
    exact plugin
  | ok found =>
    rw [bound] at result plugin
    dsimp only
    rw [result]
    cases found with
    | none => exact plugin
    | some b =>
      obtain ⟨candidates, _, chosen⟩ := binding_eq_some bound
      obtain ⟨_, _, read, _⟩ := bindingTo_eq_some chosen
      refine ⟨b, rfl, rfl, parent_of_binding bound, read, ?_⟩
      rw [plugin]
      exact bindsOnly_afterBinding p id b

end CompanionStyles.Plugin
