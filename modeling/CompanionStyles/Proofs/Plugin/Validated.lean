import CompanionStyles.Proofs.Glob.Literal
import CompanionStyles.Proofs.Plugin.Configured
import CompanionStyles.Proofs.Plugin.Unaffected

/-!
What can still be wrong with a configuration that has been checked. The pattern of scoped names and a glob of
the options are read once and for all, but the globs of extensions are made for each component, and a backslash
in its name or in an extension can keep such a glob from reading as a pattern.
-/

namespace CompanionStyles

theorem mapM_eq_error_iff {α β : Type} {f : α → Except Failure β} {values : List α} {failure : Failure} :
    values.mapM f = .error failure ↔ ∃ before value after, values = before ++ value :: after
      ∧ (∀ other ∈ before, ∃ result, f other = .ok result) ∧ f value = .error failure := by
  induction values with
  | nil => simp [pure, Except.pure]
  | cons first values ih =>
    rw [List.mapM_cons, Traced.bind_eq_error_iff]
    constructor
    · rintro (fails | ⟨result, succeeds, later⟩)
      · exact ⟨[], first, values, rfl, fun other member => absurd member List.not_mem_nil, fails⟩
      · rcases Traced.bind_eq_error_iff.mp later with fails | ⟨results, _, fails⟩
        · obtain ⟨before, value, after, rfl, succeed, fails⟩ := ih.mp fails
          refine ⟨first :: before, value, after, rfl, ?_, fails⟩
          intro other member
          rcases List.mem_cons.mp member with rfl | member
          · exact ⟨result, succeeds⟩
          · exact succeed other member
        · exact absurd fails (by simp [pure, Except.pure])
    · rintro ⟨before, value, after, split, succeed, fails⟩
      cases before with
      | nil =>
        obtain ⟨rfl, rfl⟩ := List.cons.inj split
        exact Or.inl fails
      | cons first' before =>
        obtain ⟨rfl, rfl⟩ := List.cons.inj split
        obtain ⟨result, succeeds⟩ := succeed first List.mem_cons_self
        refine Or.inr ⟨result, succeeds, Traced.bind_eq_error_iff.mpr (Or.inl (ih.mpr ?_))⟩
        exact ⟨before, value, after, rfl, fun other member => succeed other (List.mem_cons_of_mem first member), fails⟩

theorem map_eq_error_iff {α β : Type} {f : α → β} {result : Except Failure α} {failure : Failure} :
    f <$> result = .error failure ↔ result = .error failure := by
  cases result <;> simp [Functor.map, Except.map]

theorem mapError_ne_error {ε α : Type} {result : Except ε α} {wrap : ε → Failure} {failure : Failure}
    (other : ∀ fault, wrap fault ≠ failure) : result.mapError wrap ≠ .error failure := by
  cases result with
  | error fault => exact fun same => other fault (Except.error.inj same)
  | ok value => exact nofun

theorem StyleGlob.parse_eq_error_iff {text : List Char} {failure : Failure} :
    StyleGlob.parse text = .error failure ↔
      ∃ cause, Glob.parse text = .error cause ∧ failure = .configuration (.styleGlob text cause) := by
  unfold StyleGlob.parse
  cases Glob.parse text with
  | ok tokens => simp
  | error cause => simp [eq_comm]

theorem StyleGlob.exists_parse_iff {text : List Char} :
    (∃ glob, StyleGlob.parse text = .ok glob) ↔ ∃ tokens, Glob.parse text = .ok tokens := by
  unfold StyleGlob.parse
  cases Glob.parse text with
  | ok tokens => simp
  | error cause => simp

namespace Style

/-- The text in front of the star in the globs that a component's style is looked for with. -/
def globStem (component : Path) (matchComponentName : Bool) : List Char :=
  if matchComponentName then componentStem component else []

/-- Styles cannot be looked for exactly if a glob that they are looked for with cannot be read. -/
theorem resolve_eq_error_iff {component : Path} {listing : List Path} {strategy : StyleStrategy}
    {failure : Failure} : (resolve component listing strategy).result = .error failure ↔
      globs component strategy = .error failure := by
  cases lists : strategy.listsFiles with
  | true =>
    have heads := head?_resolve component listing strategy lists
    rw [← map_eq_error_iff, heads, map_eq_error_iff]
  | false =>
    cases strategy with
    | callback resolver => exact iff_of_false (by simp [resolve]) (by simp [globs])
    | glob glob always => exact absurd lists.symm Bool.false_ne_true
    | extensions extensions matchComponentName always => exact absurd lists.symm Bool.false_ne_true

/-- The glob of the first extension whose glob cannot be read is the one that is at fault. -/
theorem globs_eq_error_iff {component : Path} {strategy : StyleStrategy} {failure : Failure} :
    globs component strategy = .error failure ↔
      ∃ before extension after matchComponentName always cause,
        strategy = .extensions (before ++ extension :: after) matchComponentName always
          ∧ (∀ other ∈ before, ∃ tokens,
            Glob.parse (extensionGlob (globStem component matchComponentName) other) = .ok tokens)
          ∧ Glob.parse (extensionGlob (globStem component matchComponentName) extension) = .error cause
          ∧ failure = .configuration
            (.styleGlob (extensionGlob (globStem component matchComponentName) extension) cause) := by
  cases strategy with
  | callback resolver => simp [globs]
  | glob glob always => simp [globs]
  | extensions extensions matchComponentName always =>
    change (extensions.mapM fun extension =>
      StyleGlob.parse (extensionGlob (globStem component matchComponentName) extension)) = _ ↔ _
    simp only [mapM_eq_error_iff, StyleGlob.parse_eq_error_iff, StyleGlob.exists_parse_iff]
    constructor
    · rintro ⟨before, extension, after, rfl, read, cause, fails, rfl⟩
      exact ⟨before, extension, after, matchComponentName, always, cause, rfl, read, fails, rfl⟩
    · rintro ⟨before, extension, after, _, _, cause, same, read, fails, rfl⟩
      obtain ⟨rfl, rfl, rfl⟩ := StyleStrategy.extensions.inj same
      exact ⟨before, extension, after, rfl, read, cause, fails, rfl⟩

end Style

theorem ComponentFilter.exists_accepts (filter : ComponentFilter) (path : Path) :
    ∃ accepted, (filter.accepts path).result = .ok accepted := by
  cases filter with
  | callback test => exact ⟨_, rfl⟩
  | extensions extensions => exact ⟨_, rfl⟩

namespace Plugin

theorem listing_eq_error {p : Plugin} {tree : FileTree} {id : List Char} {directory : Path} {failure : Failure}
    (fails : (p.listing tree id directory).result = .error failure) : ∃ fault, failure = .access directory fault := by
  unfold listing at fails
  split at fails
  · exact absurd fails (by simp)
  · split at fails
    · exact absurd fails (by simp)
    · exact absurd fails (by simp)
    · exact absurd fails (by simp)
    · exact ⟨_, (Except.error.inj fails).symm⟩

/-- Of what is searched, only the globs of extensions can be at fault for a configuration. -/
theorem candidates_eq_configuration_iff {p : Plugin} {tree : FileTree} {id : List Char} {fault : Misconfiguration} :
    p.candidates tree id = .error (.configuration fault) ↔
      isForeign id = false
        ∧ (p.resolved.filter.accepts (Path.ofText (modulePath id))).result = .ok true
        ∧ ∃ directory paths, (Path.ofText (modulePath id)).parent = some directory
          ∧ (p.listing tree id directory).result = .ok (some paths)
          ∧ Style.globs (Path.ofText (modulePath id)) p.resolved.strategy = .error (.configuration fault) := by
  unfold Plugin.candidates
  by_cases foreign : isForeign id = true
  · simp [foreign]
  · rw [if_neg foreign]
    rw [Bool.not_eq_true] at foreign
    obtain ⟨accepted, accepts⟩ := p.resolved.filter.exists_accepts (Path.ofText (modulePath id))
    dsimp only
    rw [accepts, Traced.ok_bind]
    cases accepted with
    | false => exact iff_of_false nofun (by simp)
    | true =>
      cases parent : (Path.ofText (modulePath id)).parent with
      | none => exact iff_of_false nofun (by simp)
      | some directory =>
        dsimp only
        rw [Traced.bind_eq_error_iff]
        constructor
        · rintro (fails | ⟨listing, listed, fails⟩)
          · obtain ⟨access, same⟩ := listing_eq_error fails
            exact absurd same (by simp)
          · cases listing with
            | none => exact nomatch fails
            | some paths =>
              rcases Traced.bind_eq_error_iff.mp fails with fails | ⟨_, _, fails⟩
              · exact ⟨foreign, rfl, directory, paths, rfl, listed, Style.resolve_eq_error_iff.mp fails⟩
              · exact nomatch fails
        · rintro ⟨_, _, directory', paths, same, listed, fails⟩
          obtain rfl := Option.some.inj same
          refine Or.inr ⟨some paths, listed, Traced.bind_eq_error_iff.mpr (Or.inl ?_)⟩
          exact Style.resolve_eq_error_iff.mpr fails

theorem preprocess_ne_configuration {c : Style.Compiler} {path : Path} {source : List Char} {fault : Misconfiguration} :
    (c.preprocess path source).result ≠ .error (.configuration fault) := by
  unfold Style.Compiler.preprocess
  dsimp only
  split
  · exact nofun
  · rename_i preprocessor _
    rw [Traced.result_bind, Traced.result_call, Traced.ok_bind, Traced.result_ofExcept]
    exact mapError_ne_error fun _ => nofun

theorem compile_ne_configuration {c : Style.Compiler} {path : Path} {source : List Char} {o : Style.ModuleOptions}
    {fault : Misconfiguration} (reads : ∃ pattern, o.parsedPattern = .ok pattern) :
    (c.compile path source o).result ≠ .error (.configuration fault) := by
  obtain ⟨pattern, reads⟩ := reads
  intro fails
  unfold Style.Compiler.compile at fails
  dsimp only at fails
  rw [Traced.result_bind] at fails
  rcases Traced.bind_eq_error_iff.mp fails with fails | ⟨css, _, fails⟩
  · exact preprocess_ne_configuration fails
  · rw [Traced.result_bind, Traced.result_ofExcept, reads, Traced.ok_bind, Traced.result_bind,
      Traced.result_ofExcept] at fails
    rcases Traced.bind_eq_error_iff.mp fails with fails | ⟨written, _, fails⟩
    · exact absurd fails (mapError_ne_error fun _ => nofun)
    · rw [Traced.result_bind, Traced.result_write, Traced.ok_bind] at fails
      split at fails
      · exact nomatch fails
      · exact nomatch fails

/-- A style that is compiled by a pattern that reads is not at fault for a configuration. -/
theorem styleOf_ne_configuration {p : Plugin} {tree : FileTree} {c : Style.Candidate} {fault : Misconfiguration}
    (reads : ∃ pattern, p.moduleOptions.parsedPattern = .ok pattern) :
    (p.styleOf tree c).result ≠ .error (.configuration fault) := by
  intro fails
  unfold styleOf at fails
  rw [Traced.result_bind, Traced.result_ofExcept] at fails
  rcases Traced.bind_eq_error_iff.mp fails with fails | ⟨source, _, fails⟩
  · exact absurd fails (mapError_ne_error fun _ => nofun)
  · split at fails
    · exact compile_ne_configuration reads fails
    · exact nomatch fails

theorem rewritten_ne_configuration {code id : List Char} {manifest : Manifest} {styleId : List Char}
    {fault : Misconfiguration} : (rewritten code id manifest styleId).result ≠ .error (.configuration fault) := by
  unfold rewritten
  rw [Traced.result_bind, Traced.result_write, Traced.ok_bind]
  split
  · exact nofun
  · exact nofun

theorem bindingTo_ne_configuration {p : Plugin} {tree : FileTree} {code id : List Char} {directory : Path}
    {candidates : List Style.Candidate} {fault : Misconfiguration}
    (reads : ∃ pattern, p.moduleOptions.parsedPattern = .ok pattern) :
    p.bindingTo tree code id directory candidates ≠ .error (.configuration fault) := by
  cases candidates with
  | nil => simp [bindingTo]
  | cons candidate others =>
    intro fails
    rcases Traced.bind_eq_error_iff.mp fails with fails | ⟨style, _, fails⟩
    · exact styleOf_ne_configuration reads fails
    · rcases Traced.bind_eq_error_iff.mp fails with fails | ⟨_, _, fails⟩
      · exact rewritten_ne_configuration fails
      · exact absurd fails (by simp [pure, Except.pure])

/-- Which transforms fail for a fault of the configuration, where its pattern reads. -/
theorem transform_eq_configuration_iff {p : Plugin} {tree : FileTree} {code id : List Char} {fault : Misconfiguration}
    (reads : ∃ pattern, p.moduleOptions.parsedPattern = .ok pattern) :
    (p.transform tree code id).result = .error (.configuration fault) ↔
      p.candidates tree id = .error (.configuration fault) := by
  rw [transform_result, map_eq_error_iff, binding, Traced.bind_eq_error_iff]
  refine or_iff_left ?_
  rintro ⟨found, _, fails⟩
  cases found with
  | none => exact nomatch fails
  | some pair => exact bindingTo_ne_configuration reads fails

/-- What remains of the faults of a configuration once a plugin has been made with it. The pattern that is in
effect can always be read, and a transform of a run fails for a fault of the configuration exactly if its styles
are looked for by extensions, and the glob of one of them behind the component's name cannot be read; the first
such glob is the fault. All globs of names and extensions can be read in which no backslash stands in front of
a bracket that opens or closes something, or at the end. -/
theorem transform_configuration_iff {o : Options} {p : Plugin} (built : Built o p) (actions : List Action) :
    (∃ pattern, (p.run actions).moduleOptions.parsedPattern = .ok pattern)
      ∧ (∀ tree code id fault, ((p.run actions).transform tree code id).result = .error (.configuration fault) ↔
        isForeign id = false
          ∧ (p.resolved.filter.accepts (Path.ofText (modulePath id))).result = .ok true
          ∧ ∃ directory paths before extension after matchComponentName always cause,
            (Path.ofText (modulePath id)).parent = some directory
              ∧ (p.listing tree id directory).result = .ok (some paths)
              ∧ p.resolved.strategy = .extensions (before ++ extension :: after) matchComponentName always
              ∧ (∀ other ∈ before, ∃ tokens, Glob.parse (Style.extensionGlob
                (Style.globStem (Path.ofText (modulePath id)) matchComponentName) other) = .ok tokens)
              ∧ Glob.parse (Style.extensionGlob
                (Style.globStem (Path.ofText (modulePath id)) matchComponentName) extension) = .error cause
              ∧ fault = .styleGlob (Style.extensionGlob
                (Style.globStem (Path.ofText (modulePath id)) matchComponentName) extension) cause)
      ∧ ∀ stem extension, Glob.takesPlain false (stem ++ '*' :: extension) = true →
        ∃ tokens, Glob.parse (Style.extensionGlob stem extension) = .ok tokens := by
  have reads := built.exists_pattern actions
  obtain ⟨_, resolved, _, _⟩ := run_kept p actions
  refine ⟨reads, fun tree code id fault => ?_, fun stem extension plain =>
    (Glob.isMatch_extensionGlob plain).imp fun _ => And.left⟩
  have listing (directory : Path) : (p.run actions).listing tree id directory = p.listing tree id directory := by
    unfold Plugin.listing
    rw [resolved]
  rw [transform_eq_configuration_iff reads, candidates_eq_configuration_iff, resolved]
  simp only [listing, Style.globs_eq_error_iff, Failure.configuration.injEq]
  constructor
  · rintro ⟨own, accepts, directory, paths, parent, listed, before, extension, after, matching, always, cause, found⟩
    exact ⟨own, accepts, directory, paths, before, extension, after, matching, always, cause, parent, listed, found⟩
  · rintro ⟨own, accepts, directory, paths, before, extension, after, matching, always, cause, parent, listed, found⟩
    exact ⟨own, accepts, directory, paths, parent, listed, before, extension, after, matching, always, cause, found⟩

/-- A component whose name has a backslash in front of a bracket. -/
def bracketTree : FileTree :=
  FileTree.empty.writeFile (.ofText "s/a\\\x7d.tsx".toList) []

theorem bracketTree_listed : ∃ paths, bracketTree.listDirectory (.ofText "s".toList) = .ok paths :=
  ⟨_, FileTree.listDirectory_eq_ok_iff.mpr ⟨[Utf8.encode "s".toList], rfl, rfl, rfl⟩⟩

theorem bracket_accepted : ((ComponentFilter.extensions [".tsx".toList, ".jsx".toList]).accepts
    (.ofText (modulePath "s/a\\\x7d.tsx".toList))).result = .ok true :=
  congrArg Except.ok (by decide +kernel)

/-- The escaped bracket of the name closes a group that was never opened. -/
theorem parse_bracket : Glob.parse (Style.extensionGlob
    (Style.globStem (.ofText (modulePath "s/a\\\x7d.tsx".toList)) true) ".css".toList) =
      .error .unopenedAlternates := by
  have fails : (match Glob.parse (Style.extensionGlob
      (Style.globStem (.ofText (modulePath "s/a\\\x7d.tsx".toList)) true) ".css".toList) with
      | .error cause => decide (cause = .unopenedAlternates)
      | .ok _ => false) = true := by
    decide +kernel
  split at fails
  · rename_i parsed
    rw [parsed, of_decide_eq_true fails]
  · exact absurd fails Bool.false_ne_true

/-- With default options, a plugin that looks for styles of all components by the same extensions. -/
theorem create_default :
    ∃ p, (create (.ofSettings .default)).result = .ok p
      ∧ p.resolved = ⟨.extensions [".tsx".toList, ".jsx".toList],
        .extensions [".css".toList, ".scss".toList, ".less".toList] true false⟩ :=
  ⟨_, rfl, rfl⟩

theorem transform_configuration_iff_bracket :
    ∃ p, Built (.ofSettings .default) p
      ∧ ((p.run [.configure ⟨true, none⟩]).transform bracketTree "f()".toList "s/a\\\x7d.tsx".toList).result =
        .error (.configuration (.styleGlob "a\\[\x7d]*.css".toList .unopenedAlternates)) := by
  obtain ⟨p, created, resolved⟩ := create_default
  obtain ⟨paths, listed⟩ := bracketTree_listed
  refine ⟨p, .create created, ((transform_configuration_iff (.create created) _).2.1 _ _ _ _).mpr ?_⟩
  rw [resolved]
  refine ⟨by decide +kernel, bracket_accepted, .ofText "s".toList, paths, [], ".css".toList, _, true, false, _,
    by decide +kernel, ?_, rfl, fun other member => absurd member List.not_mem_nil, parse_bracket, by decide +kernel⟩
  exact (listing_eq_some_iff (by rw [resolved]; rfl)).mpr listed

/-- With default options, a component whose name has a backslash in front of a bracket cannot be transformed. -/
theorem bracket_not_escaped :
    ∃ p, (create (.ofSettings .default)).result = .ok p
      ∧ (p.transform bracketTree "f()".toList "s/a\\\x7d.tsx".toList).result =
        .error (.configuration (.styleGlob "a\\[\x7d]*.css".toList .unopenedAlternates)) := by
  obtain ⟨p, created, resolved⟩ := create_default
  obtain ⟨paths, listed⟩ := bracketTree_listed
  have reads : ∃ pattern, p.moduleOptions.parsedPattern = .ok pattern := (Built.create created).exists_pattern []
  refine ⟨p, created, (transform_eq_configuration_iff reads).mpr (candidates_eq_configuration_iff.mpr ?_)⟩
  rw [resolved]
  refine ⟨by decide +kernel, bracket_accepted, .ofText "s".toList, paths, by decide +kernel, ?_, ?_⟩
  · exact (listing_eq_some_iff (by rw [resolved]; rfl)).mpr listed
  · refine Style.globs_eq_error_iff.mpr ⟨[], ".css".toList, _, true, false, _, rfl, fun other member => ?_,
      parse_bracket, by decide +kernel⟩
    exact absurd member List.not_mem_nil

end Plugin

end CompanionStyles
