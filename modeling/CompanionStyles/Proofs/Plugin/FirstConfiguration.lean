import CompanionStyles.Proofs.Plugin.Validated

/-!
The one configuration of a host. Of all calls that bring one, the first that succeeds decides for good; those that
fail before it leave the plugin open for the next one. A call after it changes nothing, but it still fails if the
pattern that it brings cannot be read.
-/

namespace CompanionStyles

/-- What is wrong with a configuration: the pattern of its modules cannot be read. -/
def HostConfig.fault? (config : HostConfig) : Option Failure :=
  match config.modules with
  | some modules =>
    match modules.parsedPattern with
    | .error failure => some failure
    | .ok _ => none
  | none => none

namespace Plugin

/-- The message when a configuration comes too late. -/
def ignoredLine : LogLine :=
  ⟨.debug, name ++ ": host config already resolved, ignoring"⟩

/-- What a call with a configuration does, by what is wrong with it and by what the plugin has. -/
theorem configResolved_eq (p : Plugin) (config : HostConfig) :
    p.configResolved config =
      match config.fault?, p.host with
      | some failure, _ => ⟨[], [], .error failure⟩
      | none, some _ => ⟨[ignoredLine], [], .ok p⟩
      | none, none => ⟨[], [], .ok { p with host := some config }⟩ := by
  obtain ⟨dev, modules⟩ := config
  unfold configResolved HostConfig.fault?
  cases modules with
  | none => cases p.host <;> rfl
  | some modules =>
    dsimp only
    cases modules.parsedPattern with
    | error failure => rfl
    | ok pattern => cases p.host <;> rfl

/-- The configuration of the first call of a run that succeeds. -/
def accepted (p : Plugin) : List Action → Option HostConfig
  | [] => none
  | .configure config :: actions =>
    match (p.configResolved config).result with
    | .ok _ => some config
    | .error _ => (p.after (.configure config)).accepted actions
  | action :: actions => (p.after action).accepted actions

/-- A call succeeds if its own configuration is right, whatever was done before it. -/
theorem accepted_eq_configOf (p : Plugin) (actions : List Action) : p.accepted actions = configOf actions := by
  induction actions generalizing p with
  | nil => rfl
  | cons action actions ih =>
    rw [configOf, List.findSome?_cons]
    cases action with
    | transform tree code id => exact ih _
    | watch event => exact ih _
    | configure config =>
      rw [accepted]
      unfold Action.config?
      dsimp only
      by_cases right : config.isRight = true
      · rw [configResolved_of_isRight p right, if_pos right]
      · obtain ⟨failure, fails⟩ := configResolved_of_not_isRight p right
        rw [fails, if_neg right]
        exact ih _

theorem isDev_run_eq (p : Plugin) (actions : List Action) (new : p.host = none) :
    (p.run actions).isDev = ((configOf actions).map HostConfig.dev).getD false := by
  obtain ⟨_, _, _, host⟩ := run_kept p actions
  rw [new, Option.none_or] at host
  unfold isDev
  rw [host]
  cases configOf actions <;> rfl

/-- What counts of the configurations of a host. At every point of a run, the plugin works as the first
configuration that was accepted says, and as its own options say while there is none. A call that fails changes
nothing, and it fails exactly if the pattern that it brings cannot be read, also after one was accepted; any other
call is taken if it is the first one, and otherwise it changes nothing. -/
theorem first_configuration {o : Options} {p : Plugin} (built : Built o p) (actions : List Action) :
    (p.run actions).isDev = ((p.accepted actions).map HostConfig.dev).getD false
    ∧ (p.run actions).moduleOptions = ((p.accepted actions).bind HostConfig.modules).getD o.settings.modules
    ∧ (∀ later first, p.accepted actions = some first → p.accepted (actions ++ later) = some first)
    ∧ (∀ config failure, config.fault? = some failure →
      (p.run actions).configResolved config = ⟨[], [], .error failure⟩
        ∧ (p.run actions).after (.configure config) = p.run actions)
    ∧ (∀ config, config.fault? = none → p.accepted actions = none →
      (p.run actions).configResolved config = ⟨[], [], .ok { p.run actions with host := some config }⟩)
    ∧ ∀ config first, config.fault? = none → p.accepted actions = some first →
      (p.run actions).configResolved config = ⟨[ignoredLine], [], .ok (p.run actions)⟩ := by
  obtain ⟨_, _, _, host⟩ := run_kept p actions
  rw [built.begins.host, Option.none_or, ← accepted_eq_configOf p] at host
  refine ⟨?_, ?_, fun later first counts => ?_, fun config failure wrong => ?_, fun config right open_ => ?_,
    fun config first right counts => ?_⟩
  · rw [isDev_run_eq p actions built.begins.host, accepted_eq_configOf]
  · rw [built.moduleOptions_run, Options.modulesAfter, accepted_eq_configOf]
  · rw [accepted_eq_configOf] at counts ⊢
    rw [configOf, List.findSome?_append, ← configOf, counts]
    rfl
  · have refused : (p.run actions).configResolved config = ⟨[], [], .error failure⟩ := by
      rw [configResolved_eq, wrong]
    refine ⟨refused, ?_⟩
    rw [after, refused]
    rfl
  · rw [configResolved_eq, right, host, open_]
  · rw [configResolved_eq, right, host, counts]

/-- A configuration with a pattern that cannot be read: its name in brackets stands for nothing. -/
def wrongHost : HostConfig :=
  ⟨false, some ⟨some "[unknown]".toList, false, none⟩⟩

theorem wrongHost_fault? : wrongHost.fault? =
    some (.configuration (.scopePattern "[unknown]".toList (.unknownPlaceholder "[unknown]".toList 0))) := by
  decide +kernel

/-- A host whose components are worked on, with a pattern for the names of modules. -/
def patternHost (pattern : String) : HostConfig :=
  ⟨true, some ⟨some pattern.toList, false, none⟩⟩

/-- A call that fails, and one that is taken. -/
def takenActions : List Action :=
  [.configure wrongHost, .configure (patternHost "host_[local]")]

/-- An event, and a call that comes too late. -/
def lateActions : List Action :=
  [.watch ⟨.unlink, .ofText "s/Card.css".toList⟩, .configure (patternHost "late_[local]")]

theorem first_configuration_late :
    ∃ p, Built (.ofSettings .default) p
      ∧ (p.run [.configure wrongHost]).isDev = false ∧ (p.run takenActions).isDev = true
      ∧ (p.run (takenActions ++ lateActions)).moduleOptions = ⟨some "host_[local]".toList, false, none⟩
      ∧ (p.run takenActions).configResolved (patternHost "late_[local]") =
        ⟨[ignoredLine], [], .ok (p.run takenActions)⟩ := by
  obtain ⟨p, created, _⟩ := create_default
  have built : Built (.ofSettings .default) p := .create created
  have none_ : p.accepted [.configure wrongHost] = none := by
    rw [accepted_eq_configOf]
    decide +kernel
  have counts : p.accepted takenActions = some (patternHost "host_[local]") := by
    rw [accepted_eq_configOf]
    decide +kernel
  obtain ⟨dev, _, kept, _, _, ignored⟩ := first_configuration built takenActions
  refine ⟨p, built, ?_, ?_, ?_, ignored _ _ (by decide +kernel) counts⟩
  · rw [(first_configuration built _).1, none_]
    rfl
  · rw [dev, counts]
    rfl
  · rw [(first_configuration built _).2.1, kept lateActions _ counts]
    rfl

/-- Once a configuration was taken, a later one with a pattern that cannot be read is not ignored, but fails. -/
theorem late_configuration_refused :
    ∃ p q, (create (.ofSettings .default)).result = .ok p
      ∧ (p.configResolved ⟨true, none⟩).result = .ok q
      ∧ (q.configResolved wrongHost).result =
        .error (.configuration (.scopePattern "[unknown]".toList (.unknownPlaceholder "[unknown]".toList 0))) := by
  obtain ⟨p, created, _⟩ := create_default
  refine ⟨p, _, created, configResolved_of_isRight p rfl, ?_⟩
  rw [configResolved_eq, wrongHost_fault?]

end Plugin

end CompanionStyles
