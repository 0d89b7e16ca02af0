import CompanionStyles.Proofs.Plugin.Configured
import CompanionStyles.Proofs.Plugin.Unaffected

/-!
Calls of the manifest hook. A transform calls the hook in effect once if its style is compiled as a module, with
the path of the style and the manifest by which the component is rewritten. A host that has options for modules
takes the place of the plugin's hook with its own, and with none if it has none.
-/

namespace CompanionStyles

/-- A hook that is called, with the path and the manifest that it is given. -/
def Call.hooked? : Call → Option (ManifestHook × Path × Manifest)
  | .manifestHook hook path manifest => some (hook, path, manifest)
  | .filter _ _ => none
  | .resolver _ _ _ => none
  | .preprocess _ _ _ => none

namespace Traced

variable {α β : Type}

/-- The hooks that an operation calls, in order. -/
def hooked (operation : Traced α) : List (ManifestHook × Path × Manifest) :=
  operation.calls.filterMap Call.hooked?

theorem hooked_bind (first : Traced α) (next : α → Traced β) :
    (first >>= next).hooked =
      first.hooked ++ match first.result with
        | .ok value => (next value).hooked
        | .error _ => [] := by
  unfold hooked
  cases ends : first.result with
  | error failure =>
    rw [bind_of_error ends]
    exact (List.append_nil _).symm
  | ok value =>
    rw [bind_of_ok ends]
    exact List.filterMap_append

/-- Behind a step that calls no hook, those are called that the next step calls. -/
theorem hooked_bind_of_ok {first : Traced α} {next : α → Traced β} {value : α} (quiet : first.hooked = [])
    (succeeds : first.result = .ok value) : (first >>= next).hooked = (next value).hooked := by
  rw [hooked_bind, quiet, succeeds]
  rfl

theorem hooked_bind_of_error {first : Traced α} {next : α → Traced β} {failure : Failure} (quiet : first.hooked = [])
    (fails : first.result = .error failure) : (first >>= next).hooked = [] := by
  rw [hooked_bind, quiet, fails]
  rfl

/-- Nothing is called behind steps of which the second one never calls a hook. -/
theorem hooked_bind_of_quiet {first : Traced α} {next : α → Traced β} (quiet : ∀ value, (next value).hooked = []) :
    (first >>= next).hooked = first.hooked := by
  rw [hooked_bind]
  cases first.result with
  | error failure => exact List.append_nil _
  | ok value => exact (congrArg (first.hooked ++ ·) (quiet value)).trans (List.append_nil _)

end Traced

namespace Style

/-- The calls of a hook, if there is one, with the manifest of a compiled style, if there is one. -/
def hookCalls (hook : Option ManifestHook) (path : Path) (compiled : Option Compiled) :
    List (ManifestHook × Path × Manifest) :=
  match hook, compiled with
  | some hook, some style => [(hook, path, style.manifest)]
  | _, _ => []

theorem hookCalls_none (hook : Option ManifestHook) (path : Path) : hookCalls hook path none = [] := by
  cases hook <;> rfl

theorem hooked_preprocess (c : Compiler) (path : Path) (source : List Char) :
    (c.preprocess path source).hooked = [] := by
  unfold Compiler.preprocess
  dsimp only
  split
  · rfl
  · exact Traced.hooked_bind_of_quiet fun _ => rfl

/-- A compiled module is given to the hook once; a style that does not compile is given to none. -/
theorem hooked_compile (c : Compiler) (path : Path) (source : List Char) (o : ModuleOptions) :
    (c.compile path source o).hooked = hookCalls o.hook path (c.compile path source o).result.toOption := by
  unfold Compiler.compile
  dsimp only
  have quiet := hooked_preprocess c path source
  cases processed : (c.preprocess path source).result with
  | error failure =>
    rw [Traced.hooked_bind_of_error quiet processed, Traced.result_bind, processed]
    cases o.hook <;> rfl
  | ok css =>
    rw [Traced.hooked_bind_of_ok quiet processed, Traced.result_bind, processed, Traced.ok_bind]
    cases o.parsedPattern with
    | error failure => cases o.hook <;> rfl
    | ok pattern =>
      rw [Traced.hooked_bind_of_ok rfl rfl, Traced.result_bind, Traced.result_ofExcept, Traced.ok_bind]
      cases scopeSheet (Utf8.decodeLossy path.bytes) pattern o.dashedIdents css with
      | error fault => cases o.hook <;> rfl
      | ok written => cases o.hook <;> rfl

theorem hooked_resolve (component : Path) (listing : List Path) (strategy : StyleStrategy) :
    (resolve component listing strategy).hooked = [] := by
  cases strategy with
  | callback resolver => rfl
  | glob glob always => rfl
  | extensions extensions matchComponentName always =>
    exact Traced.hooked_bind_of_quiet fun _ => rfl

end Style

theorem ComponentFilter.hooked_accepts (filter : ComponentFilter) (path : Path) :
    (filter.accepts path).hooked = [] := by
  cases filter with
  | callback test => rfl
  | extensions extensions => rfl

/-- The hook in effect after some actions: the host's if it has options for modules, and else the plugin's. -/
def Options.hookAfter (o : Options) (actions : List Action) : Option ManifestHook :=
  match (configOf actions).bind HostConfig.modules with
  | some modules => modules.hook
  | none => o.settings.modules.hook

theorem Options.hook_modulesAfter (o : Options) (actions : List Action) :
    (o.modulesAfter actions).hook = o.hookAfter actions := by
  unfold modulesAfter hookAfter
  cases (configOf actions).bind HostConfig.modules <;> rfl

/-- A hook of the plugin is out of effect exactly if the host has options for modules without one. -/
theorem Options.hookAfter_eq_none_iff {o : Options} {own : ManifestHook} (given : o.settings.modules.hook = some own)
    (actions : List Action) : o.hookAfter actions = none ↔
      ∃ modules, (configOf actions).bind HostConfig.modules = some modules ∧ modules.hook = none := by
  unfold hookAfter
  cases (configOf actions).bind HostConfig.modules with
  | none => simp [given]
  | some modules => simp

namespace Plugin

theorem hooked_listing (p : Plugin) (tree : FileTree) (id : List Char) (directory : Path) :
    (p.listing tree id directory).hooked = [] := by
  unfold listing
  split
  · rfl
  · split <;> rfl

theorem hooked_pick (id : List Char) (candidates : List Style.Candidate) : (pick id candidates).hooked = [] := by
  cases candidates <;> rfl

theorem hooked_rewritten (code id : List Char) (manifest : Manifest) (styleId : List Char) :
    (rewritten code id manifest styleId).hooked = [] := by
  unfold rewritten
  refine (Traced.hooked_bind_of_quiet fun _ => ?_).trans rfl
  split <;> rfl

/-- A candidate as it is compiled, if it is a module and compiles. -/
def moduleOf? (p : Plugin) (tree : FileTree) (c : Style.Candidate) : Option Style.Compiled :=
  if c.isModule then (p.styleOf tree c).result.toOption else none

/-- The style of a component, if it is a module and compiles, with its path. -/
def moduleStyle? (p : Plugin) (tree : FileTree) (id : List Char) : Option (Path × Style.Compiled) :=
  match p.candidates tree id with
  | .ok (some (_, candidate :: _)) => (p.moduleOf? tree candidate).map (candidate.path, ·)
  | _ => none

theorem moduleOf?_eq_some_iff {p : Plugin} {tree : FileTree} {c : Style.Candidate} {style : Style.Compiled} :
    p.moduleOf? tree c = some style ↔ c.isModule = true ∧ (p.styleOf tree c).result = .ok style := by
  unfold moduleOf?
  cases c.isModule with
  | false => simp
  | true => cases (p.styleOf tree c).result <;> simp [Except.toOption]

theorem moduleStyle?_of_candidates {p : Plugin} {tree : FileTree} {id : List Char} {directory : Path}
    {candidate : Style.Candidate} {others : List Style.Candidate} {style : Style.Compiled}
    (searched : p.candidates tree id = .ok (some (directory, candidate :: others)))
    (compiled : p.moduleOf? tree candidate = some style) :
    p.moduleStyle? tree id = some (candidate.path, style) := by
  unfold moduleStyle?
  rw [searched]
  exact congrArg (Option.map (candidate.path, ·)) compiled

/-- A style that is compiled as a module is given to the hook once; any other is given to none. -/
theorem hooked_styleOf (p : Plugin) (tree : FileTree) (c : Style.Candidate) :
    (p.styleOf tree c).hooked = Style.hookCalls p.moduleOptions.hook c.path (p.moduleOf? tree c) := by
  unfold moduleOf? styleOf
  cases tree.readText c.path with
  | error fault =>
    cases c.isModule <;> exact (Style.hookCalls_none _ _).symm
  | ok source =>
    have read : (Traced.ofExcept ((Except.ok source).mapError (Failure.access c.path))).result = .ok source := rfl
    rw [Traced.hooked_bind_of_ok rfl read, Traced.result_bind, read, Traced.ok_bind]
    cases c.isModule with
    | false => exact (Style.hookCalls_none _ _).symm
    | true => exact Style.hooked_compile p.compiler c.path source p.moduleOptions

/-- To bind a component calls those hooks that the reading of its style calls. -/
theorem hooked_bind (p : Plugin) (tree : FileTree) (code id : List Char) (directory : Path)
    (candidates : List Style.Candidate) :
    (p.bind tree code id directory candidates).hooked =
      match candidates with
      | candidate :: _ => (p.styleOf tree candidate).hooked
      | [] => [] := by
  unfold bind
  cases candidates with
  | nil => rfl
  | cons candidate others =>
    rw [Traced.hooked_bind_of_ok (hooked_pick id _) rfl]
    refine Traced.hooked_bind_of_quiet fun style => ?_
    refine (Traced.hooked_bind_of_quiet fun output => ?_).trans (hooked_rewritten code id _ _)
    rfl

/-- A transform calls those hooks that the reading of the component's style calls. -/
theorem hooked_transform (p : Plugin) (tree : FileTree) (code id : List Char) :
    (p.transform tree code id).hooked =
      match p.candidates tree id with
      | .ok (some (_, candidate :: _)) => (p.styleOf tree candidate).hooked
      | _ => [] := by
  unfold transform candidates
  by_cases foreign : isForeign id = true
  · rw [if_pos foreign, if_pos foreign]
    rfl
  · rw [if_neg foreign, if_neg foreign]
    dsimp only
    have accepting := p.resolved.filter.hooked_accepts (Path.ofText (modulePath id))
    cases accepts : (p.resolved.filter.accepts (Path.ofText (modulePath id))).result with
    | error failure => exact Traced.hooked_bind_of_error accepting accepts
    | ok accepted =>
      rw [Traced.hooked_bind_of_ok accepting accepts, Traced.ok_bind]
      cases accepted with
      | false => rfl
      | true =>
        cases (Path.ofText (modulePath id)).parent with
        | none => rfl
        | some directory =>
          dsimp only
          have quiet := p.hooked_listing tree id directory
          cases listed : (p.listing tree id directory).result with
          | error failure => exact Traced.hooked_bind_of_error quiet listed
          | ok listing =>
            rw [Traced.hooked_bind_of_ok quiet listed, Traced.ok_bind]
            cases listing with
            | none => rfl
            | some paths =>
              dsimp only
              have resolving := Style.hooked_resolve (Path.ofText (modulePath id)) paths p.resolved.strategy
              cases resolved : (Style.resolve (Path.ofText (modulePath id)) paths p.resolved.strategy).result with
              | error failure => exact Traced.hooked_bind_of_error resolving resolved
              | ok candidates =>
                rw [Traced.hooked_bind_of_ok resolving resolved, Traced.ok_bind, hooked_bind]
                cases candidates <;> rfl

/-- A transform gives the style of the component to the hook once if it is a module that compiles, and else
to none. -/
theorem hooked_transform_eq_moduleStyle (p : Plugin) (tree : FileTree) (code id : List Char) :
    (p.transform tree code id).hooked =
      match p.moduleOptions.hook, p.moduleStyle? tree id with
      | some hook, some (path, style) => [(hook, path, style.manifest)]
      | _, _ => [] := by
  rw [hooked_transform]
  unfold moduleStyle?
  cases p.candidates tree id with
  | error failure => cases p.moduleOptions.hook <;> rfl
  | ok found =>
    rcases found with _ | ⟨directory, _ | ⟨candidate, others⟩⟩
    · cases p.moduleOptions.hook <;> rfl
    · cases p.moduleOptions.hook <;> rfl
    · dsimp only
      rw [hooked_styleOf]
      cases p.moduleOptions.hook <;> cases p.moduleOf? tree candidate <;> rfl

/-- A component with a compiled module is rewritten by the names of that module, or fails to be. -/
theorem answer_of_moduleStyle {p : Plugin} {tree : FileTree} {id : List Char} {path : Path} {style : Style.Compiled}
    (compiles : p.moduleStyle? tree id = some (path, style)) (code : List Char) :
    ∃ warnings, p.answer tree ⟨code, id⟩ =
      (fun output => some ⟨output.code, output.map, path, warnings⟩) <$> (rewritten code id style.manifest
        (VirtualModule.virtualId (registryKey path) (some style.css))).result := by
  unfold moduleStyle? at compiles
  split at compiles
  · rename_i directory candidate others found
    obtain ⟨style', compiled, same⟩ := Option.map_eq_some_iff.mp compiles
    obtain ⟨rfl, rfl⟩ := Prod.mk.inj same
    obtain ⟨_, read⟩ := moduleOf?_eq_some_iff.mp compiled
    refine ⟨warnings id (candidate :: others), ?_⟩
    rw [answer_eq, binding, found, Traced.ok_bind]
    unfold bindingTo
    dsimp only
    rw [read, Traced.ok_bind]
    cases (rewritten code id style'.manifest _).result <;> rfl
  · exact absurd compiles (by simp)

/-- What is called when a transform compiles a module. At every point of a run, a transform whose style is a
module that compiles calls the hook in effect once, with the path of the style and the manifest by which the
component is rewritten, and any other transform calls none. Where the plugin has a hook, none is called for such
a module exactly if the host has options for modules, but no hook. -/
theorem transform_hooked {o : Options} {p : Plugin} (built : Built o p) (actions : List Action) (tree : FileTree)
    (code id : List Char) :
    ((p.run actions).transform tree code id).hooked =
      (match o.hookAfter actions, (p.run actions).moduleStyle? tree id with
        | some hook, some (path, style) => [(hook, path, style.manifest)]
        | _, _ => [])
    ∧ (∀ path style, (p.run actions).moduleStyle? tree id = some (path, style) →
      ∃ warnings, (p.run actions).answer tree ⟨code, id⟩ =
        (fun output => some ⟨output.code, output.map, path, warnings⟩) <$> (rewritten code id style.manifest
          (VirtualModule.virtualId (registryKey path) (some style.css))).result)
    ∧ ∀ own path style, o.settings.modules.hook = some own →
      (p.run actions).moduleStyle? tree id = some (path, style) →
      (((p.run actions).transform tree code id).hooked = [] ↔
        ∃ modules, (configOf actions).bind HostConfig.modules = some modules ∧ modules.hook = none) := by
  have called := (p.run actions).hooked_transform_eq_moduleStyle tree code id
  rw [built.moduleOptions_run, Options.hook_modulesAfter] at called
  refine ⟨called, fun path style compiles => answer_of_moduleStyle compiles code, ?_⟩
  intro own path style given compiles
  rw [called, compiles, ← Options.hookAfter_eq_none_iff given]
  cases o.hookAfter actions <;> simp

/-- A module beside a component. -/
def moduleTree : FileTree :=
  FileTree.empty.writeFile (.ofText "s/Card.module.css".toList) (Utf8.encode ".a\x7bcolor:red\x7d".toList)

/-- Default options with a hook. -/
def hookedOptions : Options :=
  .ofSettings { Settings.default with modules := { Style.ModuleOptions.default with hook := some ⟨"own"⟩ } }

/-- A host that says how names are scoped, but has no hook. -/
def hooklessHost : HostConfig :=
  ⟨false, some ⟨some "x_[local]".toList, false, none⟩⟩

theorem moduleTree_listed : moduleTree.listDirectory (.ofText "s".toList) = .ok [.ofText "s/Card.module.css".toList] := by
  have names : moduleTree.fileNames [Utf8.encode "s".toList] = [Utf8.encode "Card.module.css".toList] :=
    FileTree.fileNames_eq_of_perm (by decide +kernel) (by decide +kernel)
  exact FileTree.listDirectory_eq_ok_iff.mpr ⟨[Utf8.encode "s".toList], rfl, rfl, by rw [names]; rfl⟩

/-- The module compiles, whether the host says how its names are scoped or not. -/
theorem exists_moduleStyle {config : HostConfig} (either : config ∈ [⟨false, none⟩, hooklessHost]) :
    ∃ p style, (create hookedOptions).result = .ok p
      ∧ (p.run [.configure config]).moduleStyle? moduleTree "s/Card.tsx".toList =
        some (.ofText "s/Card.module.css".toList, style) := by
  have ends : [(⟨false, none⟩ : HostConfig), hooklessHost].all (fun config => Traced.passes (fun p =>
        let q := p.run [.configure config]
        decide (q.resolved.strategy.listsFiles = true)
        && Traced.passes id (q.resolved.filter.accepts (.ofText (modulePath "s/Card.tsx".toList))).result
        && Traced.passes (fun candidates => candidates.head?.any fun candidate =>
            decide (candidate.path = .ofText "s/Card.module.css".toList)
            && (q.moduleOf? moduleTree candidate).isSome)
          (Style.resolve (.ofText (modulePath "s/Card.tsx".toList)) [.ofText "s/Card.module.css".toList]
            q.resolved.strategy).result)
      (create hookedOptions).result) = true := by
    decide +kernel
  obtain ⟨p, created, ends⟩ := Traced.passes_iff.mp (List.all_eq_true.mp ends config either)
  simp only [Bool.and_eq_true, decide_eq_true_eq] at ends
  obtain ⟨⟨lists, accepts⟩, found⟩ := ends
  obtain ⟨accepted, accepts, rfl⟩ := Traced.passes_iff.mp accepts
  obtain ⟨candidates, resolved, found⟩ := Traced.passes_iff.mp found
  obtain ⟨candidate, first, found⟩ := (Option.any_eq_true _ _).mp found
  obtain ⟨others, rfl⟩ := List.head?_eq_some_iff.mp first
  obtain ⟨named, compiles⟩ := Bool.and_eq_true_iff.mp found
  obtain ⟨style, compiled⟩ := Option.isSome_iff_exists.mp compiles
  have searched := candidates_eq_some_iff.mpr ⟨by decide +kernel, accepts, by decide +kernel, _,
    (listing_eq_some_iff lists).mpr moduleTree_listed, resolved⟩
  exact ⟨p, style, created, of_decide_eq_true named ▸ moduleStyle?_of_candidates searched compiled⟩

/-- A host without options for modules leaves the hook of the plugin in effect. -/
theorem transform_hooked_own :
    ∃ (p : Plugin) (style : Style.Compiled), Built hookedOptions p
      ∧ ((p.run [.configure ⟨false, none⟩]).transform moduleTree "f()".toList "s/Card.tsx".toList).hooked =
        [(⟨"own"⟩, .ofText "s/Card.module.css".toList, style.manifest)] := by
  obtain ⟨p, style, created, compiles⟩ := exists_moduleStyle (List.mem_cons_self)
  refine ⟨p, style, .create created, ?_⟩
  rw [(transform_hooked (.create created) _ _ _ _).1, compiles]
  rfl

/-- A host that says how names are scoped, but has no hook, takes the hook of the plugin out of effect: it is
not called for a module that is compiled. -/
theorem own_hook_dropped :
    ∃ p style, (create hookedOptions).result = .ok p
      ∧ hookedOptions.settings.modules.hook = some ⟨"own"⟩
      ∧ (p.run [.configure hooklessHost]).moduleStyle? moduleTree "s/Card.tsx".toList =
        some (.ofText "s/Card.module.css".toList, style)
      ∧ ((p.run [.configure hooklessHost]).transform moduleTree "f()".toList "s/Card.tsx".toList).hooked = [] := by
  obtain ⟨p, style, created, compiles⟩ := exists_moduleStyle (List.mem_cons_of_mem _ List.mem_cons_self)
  refine ⟨p, style, created, rfl, compiles, ?_⟩
  rw [hooked_transform_eq_moduleStyle, (Built.create created).moduleOptions_run]
  rfl

end Plugin

end CompanionStyles
