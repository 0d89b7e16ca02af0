import CompanionStyles.Style.Resolve

/-!
The first candidate. It is the first file of the listing that matches the first glob which any file
matches, so it stays the first one while other files leave the listing.
-/

namespace CompanionStyles

/-- Whether styles are looked for among files. -/
def StyleStrategy.listsFiles : StyleStrategy → Bool
  | .callback _ => false
  | .glob _ _ => true
  | .extensions _ _ _ => true

namespace Style

/-- The first file that matches, an earlier glob before a later one. -/
def firstMatch (globs : List StyleGlob) (listing : List Path) : Option Path :=
  globs.findSome? fun glob => listing.find? (matchesGlob glob)

/-- The globs that a component's style is looked for with. -/
def globs (component : Path) : StyleStrategy → Except Failure (List StyleGlob)
  | .callback _ => .ok []
  | .glob glob _ => .ok [glob]
  | .extensions extensions matchComponentName _ =>
    let stem := if matchComponentName then componentStem component else []
    extensions.mapM fun extension => StyleGlob.parse (extensionGlob stem extension)

/-- Whether a strategy takes every style for a module. -/
def alwaysModule : StyleStrategy → Bool
  | .callback _ => false
  | .glob _ always => always
  | .extensions _ _ always => always

theorem firstMatch_cons (glob : StyleGlob) (globs : List StyleGlob) (listing : List Path) :
    firstMatch (glob :: globs) listing =
      (listing.find? (matchesGlob glob)).or (firstMatch globs listing) := by
  unfold firstMatch
  rw [List.findSome?_cons]
  cases listing.find? (matchesGlob glob) <;> rfl

theorem head?_addNew (found paths : List Path) :
    (addNew found paths).head? = found.head?.or paths.head? := by
  unfold addNew
  induction paths generalizing found with
  | nil => rw [List.foldl_nil, List.head?_nil, Option.or_none]
  | cons path paths ih =>
    rw [List.foldl_cons, ih]
    cases found with
    | nil => rfl
    | cons first others =>
      split <;> rfl

/-- The paths for extensions are those for their globs, added one glob after another. -/
theorem extensionMatches_eq (stem : List Char) (listing : List Path) (extensions : List (List Char))
    (found : List Path) : extensionMatches stem listing extensions found =
      (fun globs => globs.foldl (fun found glob => addNew found (listing.filter (matchesGlob glob))) found) <$>
        extensions.mapM fun extension => StyleGlob.parse (extensionGlob stem extension) := by
  induction extensions generalizing found with
  | nil => rfl
  | cons extension extensions ih =>
    rw [extensionMatches, List.mapM_cons]
    cases StyleGlob.parse (extensionGlob stem extension) with
    | error failure => rfl
    | ok glob =>
      refine (ih _).trans ?_
      cases extensions.mapM fun extension => StyleGlob.parse (extensionGlob stem extension) <;> rfl

theorem head?_foldl_addNew (globs : List StyleGlob) (listing found : List Path) :
    (globs.foldl (fun found glob => addNew found (listing.filter (matchesGlob glob))) found).head? =
      found.head?.or (firstMatch globs listing) := by
  induction globs generalizing found with
  | nil => exact Option.or_none.symm
  | cons glob globs ih => rw [List.foldl_cons, ih, head?_addNew, List.head?_filter, Option.or_assoc, firstMatch_cons]

theorem head?_extensionMatches (stem : List Char) (listing : List Path) (extensions : List (List Char))
    (found : List Path) :
    List.head? <$> extensionMatches stem listing extensions found =
      (fun globs => found.head?.or (firstMatch globs listing)) <$>
        extensions.mapM fun extension => StyleGlob.parse (extensionGlob stem extension) := by
  rw [extensionMatches_eq, Functor.map_map]
  exact congrArg (· <$> _) (funext fun globs => head?_foldl_addNew globs listing found)

/-- Where files are listed, the first candidate is the first match. -/
theorem head?_resolve (component : Path) (listing : List Path) (strategy : StyleStrategy)
    (lists : strategy.listsFiles = true) :
    List.head? <$> (resolve component listing strategy).result =
      (fun globs => (firstMatch globs listing).map (Candidate.classify · (alwaysModule strategy))) <$>
        globs component strategy := by
  cases strategy with
  | callback resolver => exact absurd lists Bool.false_ne_true
  | glob glob always =>
    refine congrArg Except.ok ?_
    dsimp only
    rw [List.head?_map, List.head?_filter, firstMatch_cons]
    exact congrArg (Option.map _) Option.or_none.symm
  | extensions extensions matchComponentName always =>
    have heads := head?_extensionMatches (if matchComponentName then componentStem component else []) listing
      extensions []
    unfold resolve globs
    dsimp only
    rw [Traced.result_bind, Traced.result_ofExcept]
    calc
      _ = Option.map (Candidate.classify · always) <$> List.head? <$>
          extensionMatches (if matchComponentName then componentStem component else []) listing
            extensions [] := by
        cases extensionMatches (if matchComponentName then componentStem component else []) listing
            extensions [] with
        | error failure => rfl
        | ok paths => exact congrArg Except.ok (List.head?_map ..)
      _ = _ := by
        rw [heads, Functor.map_map]
        rfl

/-- Whether the style of a component is looked for under a path. -/
def wants (component : Path) (strategy : StyleStrategy) (path : Path) : Bool :=
  Traced.passes (fun globs => globs.any fun glob => matchesGlob glob path) (globs component strategy)

/-- The candidates depend on nothing in a listing but the files that a style is looked for under. -/
theorem resolve_filter_wants {component : Path} {strategy : StyleStrategy} (lists : strategy.listsFiles = true)
    (listing : List Path) : resolve component (listing.filter (wants component strategy)) strategy
      = resolve component listing strategy := by
  have kept : ∀ {parsed : List StyleGlob}, globs component strategy = .ok parsed → ∀ glob ∈ parsed,
      (listing.filter (wants component strategy)).filter (matchesGlob glob) = listing.filter (matchesGlob glob) := by
    intro parsed parses glob among
    rw [List.filter_filter]
    refine List.filter_congr fun path _ => ?_
    rw [wants, parses, Bool.and_eq_left_iff_imp]
    exact fun matched => List.any_eq_true.mpr ⟨glob, among, matched⟩
  cases strategy with
  | callback resolver => exact absurd lists Bool.false_ne_true
  | glob glob always =>
    unfold resolve
    dsimp only
    rw [kept rfl glob (List.mem_singleton.mpr rfl)]
  | extensions extensions matchComponentName always =>
    unfold resolve
    dsimp only
    rw [extensionMatches_eq, extensionMatches_eq]
    cases parses : extensions.mapM fun extension => StyleGlob.parse
        (extensionGlob (if matchComponentName then componentStem component else []) extension) with
    | error failure => rfl
    | ok parsed =>
      have found := congrArg (List.foldl addNew []) (List.map_congr_left (kept parses))
      rw [List.foldl_map, List.foldl_map] at found
      exact congrArg (fun paths => Traced.ofExcept (.ok paths) >>= fun found =>
        pure (found.map (Candidate.classify · always))) found

/-- The first match stays the first one while other files leave the listing. -/
theorem firstMatch_filter {globs : List StyleGlob} {listing : List Path} {keep : Path → Bool}
    {path : Path} (first : firstMatch globs listing = some path) (kept : keep path = true) :
    firstMatch globs (listing.filter keep) = some path := by
  induction globs with
  | nil => exact absurd first (by simp [firstMatch])
  | cons glob globs ih =>
    rw [firstMatch_cons] at first ⊢
    cases found : listing.find? (matchesGlob glob) with
    | none =>
      have others : (listing.filter keep).find? (matchesGlob glob) = none :=
        List.find?_eq_none.mpr fun other among =>
          List.find?_eq_none.mp found other (List.mem_filter.mp among).1
      rw [found, Option.none_or] at first
      rw [others, Option.none_or, ih first]
    | some path' =>
      rw [found, Option.some_or] at first
      obtain rfl := Option.some.inj first
      obtain ⟨isMatch, front, back, split, earlier⟩ := List.find?_eq_some_iff_append.mp found
      have stays : (listing.filter keep).find? (matchesGlob glob) = some path' := by
        refine List.find?_eq_some_iff_append.mpr
          ⟨isMatch, front.filter keep, back.filter keep, ?_, fun other among => ?_⟩
        · rw [split, List.filter_append, List.filter_cons_of_pos kept]
        · exact earlier other (List.mem_filter.mp among).1
      rw [stays, Option.some_or]

theorem mem_of_firstMatch {globs : List StyleGlob} {listing : List Path} {path : Path}
    (first : firstMatch globs listing = some path) : path ∈ listing := by
  obtain ⟨glob, _, found⟩ := List.exists_of_findSome?_eq_some first
  exact List.mem_of_find?_eq_some found

theorem exists_firstMatch {component : Path} {listing : List Path} {strategy : StyleStrategy}
    {candidates : List Candidate} {c : Candidate} (lists : strategy.listsFiles = true)
    (resolved : (resolve component listing strategy).result = .ok candidates)
    (first : candidates.head? = some c) :
    ∃ parsed path, globs component strategy = .ok parsed ∧ firstMatch parsed listing = some path
      ∧ c = Candidate.classify path (alwaysModule strategy) := by
  have heads := head?_resolve component listing strategy lists
  rw [resolved] at heads
  cases parsed : globs component strategy with
  | error failure =>
    rw [parsed] at heads
    exact absurd heads (by simp [Functor.map, Except.map])
  | ok found =>
    rw [parsed] at heads
    obtain ⟨path, isFirst, same⟩ := Option.map_eq_some_iff.mp ((Except.ok.inj heads).symm.trans first)
    exact ⟨found, path, rfl, isFirst, same.symm⟩

theorem path_mem_listing {component : Path} {listing : List Path} {strategy : StyleStrategy}
    {candidates : List Candidate} {c : Candidate} (lists : strategy.listsFiles = true)
    (resolved : (resolve component listing strategy).result = .ok candidates)
    (first : candidates.head? = some c) : c.path ∈ listing := by
  obtain ⟨_, path, _, isFirst, rfl⟩ := exists_firstMatch lists resolved first
  exact mem_of_firstMatch isFirst

/-- The first candidate stays the first one while other files leave the listing. -/
theorem resolve_filter {component : Path} {listing : List Path} {strategy : StyleStrategy}
    {candidates : List Candidate} {c : Candidate} {keep : Path → Bool}
    (lists : strategy.listsFiles = true)
    (resolved : (resolve component listing strategy).result = .ok candidates)
    (first : candidates.head? = some c) (kept : keep c.path = true) :
    ∃ candidates', (resolve component (listing.filter keep) strategy).result = .ok candidates'
      ∧ candidates'.head? = some c := by
  obtain ⟨parsed, path, parses, isFirst, rfl⟩ := exists_firstMatch lists resolved first
  have heads := head?_resolve component (listing.filter keep) strategy lists
  rw [parses] at heads
  cases resolved' : (resolve component (listing.filter keep) strategy).result with
  | error failure =>
    rw [resolved'] at heads
    exact absurd heads (by simp [Functor.map, Except.map])
  | ok candidates' =>
    rw [resolved'] at heads
    refine ⟨candidates', rfl, (Except.ok.inj heads).trans ?_⟩
    exact congrArg (Option.map _) (firstMatch_filter isFirst kept)

end Style

end CompanionStyles
