import CompanionStyles.Proofs.Plugin.Runs

/-!
What a plugin is configured with. The options that it was made with stay as they are, and of the
configurations of the host the first one that is right counts; names are scoped as the host says, if it says
anything about it.
-/

namespace CompanionStyles

/-- Whether the pattern of a host's modules, if it has any, can be read. -/
def HostConfig.isRight (config : HostConfig) : Bool :=
  match config.modules with
  | some modules => modules.parsedPattern.isOk
  | none => true

theorem HostConfig.exists_pattern {config : HostConfig} (right : config.isRight = true) {modules : Style.ModuleOptions}
    (given : config.modules = some modules) : ∃ pattern, modules.parsedPattern = .ok pattern := by
  unfold isRight at right
  rw [given] at right
  dsimp only at right
  cases parsed : modules.parsedPattern with
  | error fault =>
    rw [parsed] at right
    exact absurd right Bool.false_ne_true
  | ok pattern => exact ⟨pattern, rfl⟩

def Action.config? : Action → Option HostConfig
  | .configure config => if config.isRight then some config else none
  | .transform _ _ _ => none
  | .watch _ => none

/-- The configuration of the host that counts. -/
def configOf (actions : List Action) : Option HostConfig :=
  actions.findSome? Action.config?

/-- How names are scoped after some actions: as the host says, or else as the options do. -/
def Options.modulesAfter (o : Options) (actions : List Action) : Style.ModuleOptions :=
  ((configOf actions).bind HostConfig.modules).getD o.settings.modules

namespace Plugin

/-- A plugin that was made with options, of which those that the host's callbacks replace are replaced. -/
inductive Built : Options → Plugin → Prop
  | create {o : Options} {p : Plugin} (created : (create o).result = .ok p) : Built o p
  | createWithCallbacks {o : Options} {c : HostCallbacks} {p : Plugin}
      (created : (createWithCallbacks o c).result = .ok p) : Built (o.withCallbacks c) p
  | withPreprocessor {o : Options} {p : Plugin} (dialect : Style.Dialect) (preprocessor : Style.Preprocessor) :
      Built o p → Built o (p.withPreprocessor dialect preprocessor)

/-- What is known of a plugin from its making. -/
structure Begins (o : Options) (p : Plugin) : Prop where
  options : p.options = o
  resolved : o.resolve = .ok p.resolved
  pattern : ∃ pattern, o.settings.modules.parsedPattern = .ok pattern
  host : p.host = none

theorem create_eq_ok {o : Options} {p : Plugin} (created : (create o).result = .ok p) :
    ∃ resolved pattern, o.resolve = .ok resolved ∧ o.settings.modules.parsedPattern = .ok pattern
      ∧ p = ⟨o, resolved, .empty, none, .empty, .empty⟩ := by
  unfold create at created
  rw [Traced.result_bind] at created
  obtain ⟨resolved, resolves, created⟩ := Traced.bind_eq_ok_iff.mp created
  rw [Traced.result_bind] at created
  obtain ⟨pattern, reads, created⟩ := Traced.bind_eq_ok_iff.mp created
  exact ⟨resolved, pattern, resolves, reads, (Except.ok.inj created).symm⟩

/-- What holds of a new plugin, and is kept when a preprocessor is registered, holds of every one that was made. -/
theorem Built.of_create {holds : Options → Plugin → Prop}
    (created : ∀ o p, (Plugin.create o).result = .ok p → holds o p)
    (registered : ∀ o p dialect preprocessor, holds o p → holds o (p.withPreprocessor dialect preprocessor))
    {o : Options} {p : Plugin} (built : Built o p) : holds o p := by
  induction built with
  | create made => exact created _ _ made
  | @createWithCallbacks o c p made =>
    unfold Plugin.createWithCallbacks at made
    rw [Traced.result_bind] at made
    obtain ⟨q, plain, made⟩ := Traced.bind_eq_ok_iff.mp made
    obtain rfl := Except.ok.inj made
    exact List.foldlRecOn (motive := holds (o.withCallbacks c)) c.preprocessors _ (created _ _ plain)
      fun q start entry _ => registered _ q entry.1 entry.2 start
  | withPreprocessor dialect preprocessor _ ih => exact registered _ _ dialect preprocessor ih

theorem Built.begins {o : Options} {p : Plugin} (built : Built o p) : Begins o p := by
  refine built.of_create (fun o p created => ?_) fun o p _ _ begins => ?_
  · obtain ⟨resolved, pattern, resolves, reads, rfl⟩ := create_eq_ok created
    exact ⟨rfl, resolves, ⟨pattern, reads⟩, rfl⟩
  · exact ⟨begins.options, begins.resolved, begins.pattern, begins.host⟩

/-- Nothing is tracked yet. -/
theorem Built.tracker {o : Options} {p : Plugin} (built : Built o p) : p.tracker = .empty := by
  refine @Built.of_create (fun _ p => p.tracker = .empty) (fun o p created => ?_) (fun _ _ _ _ none => none) o p built
  obtain ⟨resolved, pattern, _, _, rfl⟩ := create_eq_ok created
  rfl

/-- A configuration that is right is taken, if there is none yet. -/
theorem configResolved_of_isRight (p : Plugin) {config : HostConfig} (right : config.isRight = true) :
    (p.configResolved config).result = .ok { p with host := p.host.or (some config) } := by
  obtain ⟨options, resolved, compiler, host, registry, tracker⟩ := p
  obtain ⟨dev, modules⟩ := config
  cases modules with
  | none => cases host <;> rfl
  | some modules =>
    obtain ⟨pattern, parsed⟩ := HostConfig.exists_pattern right rfl
    unfold configResolved
    dsimp only
    rw [parsed]
    cases host <;> rfl

theorem configResolved_of_not_isRight (p : Plugin) {config : HostConfig} (wrong : ¬config.isRight = true) :
    ∃ failure, (p.configResolved config).result = .error failure := by
  obtain ⟨dev, modules⟩ := config
  cases modules with
  | none => exact absurd rfl wrong
  | some modules =>
    unfold HostConfig.isRight at wrong
    unfold configResolved
    dsimp only at wrong ⊢
    cases parsed : modules.parsedPattern with
    | ok pattern =>
      rw [parsed] at wrong
      exact absurd rfl wrong
    | error failure => exact ⟨failure, rfl⟩

theorem after_configure (p : Plugin) (config : HostConfig) :
    p.after (.configure config) = { p with host := p.host.or (Action.configure config).config? } := by
  unfold after Action.config?
  dsimp only
  by_cases right : config.isRight = true
  · rw [configResolved_of_isRight p right, if_pos right]
    rfl
  · obtain ⟨failure, fails⟩ := configResolved_of_not_isRight p right
    rw [fails, if_neg right, Option.or_none]
    rfl

theorem alike_after_watching (p : Plugin) (e : WatchEvent) : (p.after (.watch e)).Alike p := by
  unfold after watch
  dsimp only
  split
  · exact ⟨rfl, rfl, rfl, rfl⟩
  · exact .refl p

/-- An action changes nothing of what a plugin was made with, but for the host's configuration. -/
theorem after_kept (p : Plugin) (action : Action) :
    (p.after action).options = p.options ∧ (p.after action).resolved = p.resolved
      ∧ (p.after action).compiler = p.compiler ∧ (p.after action).host = p.host.or action.config? := by
  cases action with
  | configure config =>
    rw [after_configure]
    exact ⟨rfl, rfl, rfl, rfl⟩
  | transform tree code id =>
    have alike := alike_after_transform p tree code id
    exact ⟨alike.options, alike.resolved, alike.compiler, alike.host.trans (Option.or_none).symm⟩
  | watch event =>
    have alike := alike_after_watching p event
    exact ⟨alike.options, alike.resolved, alike.compiler, alike.host.trans (Option.or_none).symm⟩

theorem run_kept (p : Plugin) (actions : List Action) :
    (p.run actions).options = p.options ∧ (p.run actions).resolved = p.resolved
      ∧ (p.run actions).compiler = p.compiler ∧ (p.run actions).host = p.host.or (configOf actions) := by
  induction actions generalizing p with
  | nil => exact ⟨rfl, rfl, rfl, Option.or_none.symm⟩
  | cons action actions ih =>
    obtain ⟨options, resolved, compiler, host⟩ := ih (p.after action)
    obtain ⟨options', resolved', compiler', host'⟩ := after_kept p action
    refine ⟨options.trans options', resolved.trans resolved', compiler.trans compiler', ?_⟩
    rw [run_cons, host, host', Option.or_assoc, configOf, configOf, List.findSome?_cons]
    cases action.config? <;> rfl

/-- The configuration that counts is right. -/
theorem isRight_of_configOf {actions : List Action} {config : HostConfig} (counts : configOf actions = some config) :
    config.isRight = true := by
  obtain ⟨action, _, given⟩ := List.exists_of_findSome?_eq_some counts
  cases action with
  | configure other =>
    unfold Action.config? at given
    dsimp only at given
    split at given
    · rename_i right
      rwa [← Option.some.inj given]
    · exact absurd given (by simp)
  | transform tree code id => exact absurd given (by simp [Action.config?])
  | watch event => exact absurd given (by simp [Action.config?])

theorem Built.moduleOptions_run {o : Options} {p : Plugin} (built : Built o p) (actions : List Action) :
    (p.run actions).moduleOptions = o.modulesAfter actions := by
  obtain ⟨options, _, _, host⟩ := run_kept p actions
  rw [built.begins.host, Option.none_or] at host
  unfold moduleOptions Options.modulesAfter
  rw [host, options, built.begins.options]
  cases configOf actions with
  | none => rfl
  | some config =>
    obtain ⟨dev, modules⟩ := config
    cases modules <;> rfl

/-- The pattern that is in effect can be read at any time. -/
theorem Built.exists_pattern {o : Options} {p : Plugin} (built : Built o p) (actions : List Action) :
    ∃ pattern, (p.run actions).moduleOptions.parsedPattern = .ok pattern := by
  rw [built.moduleOptions_run]
  unfold Options.modulesAfter
  cases counts : configOf actions with
  | none => exact built.begins.pattern
  | some config =>
    cases given : config.modules with
    | none =>
      simpa only [Option.bind_some, given, Option.getD_none] using built.begins.pattern
    | some modules =>
      simpa only [Option.bind_some, given, Option.getD_some] using HostConfig.exists_pattern (isRight_of_configOf counts) given

end Plugin

end CompanionStyles
