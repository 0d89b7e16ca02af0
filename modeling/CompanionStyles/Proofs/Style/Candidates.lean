import CompanionStyles.Proofs.Path.FileName
import CompanionStyles.Proofs.Style.First
import CompanionStyles.Proofs.Text.Encoding

/-!
The candidates for extensions. They are the files of the listing that match a glob of one of the extensions, each
once, in the order of the first glob that they match and of the places where the listing has them first.
-/

namespace CompanionStyles.Style

open CompanionStyles.Path

/-- A path stands in a listing, and none in front of it denotes the same. -/
def FirstIn (listing : List Path) (p : Path) : Prop :=
  ∃ before after, listing = before ++ p :: after ∧ ∀ q ∈ before, ¬q.Equivalent p

/-- The place where a listing first has a path, however it is spelled. -/
def listedAt (listing : List Path) (p : Path) : Nat :=
  listing.findIdx fun q => decide (q.Equivalent p)

theorem isVisible_encode_iff {glob name : List Char} :
    isVisible glob (Utf8.encode name) = true ↔ (name.head? = some '.' → glob.head? = some '.') := by
  have dotted : (Utf8.encode name).head? = some dot ↔ name.head? = some '.' := by
    rw [Utf8.head?_encode_eq_some_iff (by decide)]
    constructor
    · rintro ⟨c, first, value⟩
      rw [first, ← Char.ofNat_toNat c, value]
      rfl
    · exact fun first => ⟨'.', first, rfl⟩
  rw [isVisible, Bool.or_eq_true, bne_iff_ne, ne_eq, dotted, beq_iff_eq]
  exact Decidable.imp_iff_not_or.symm

/-- The file name of a path is text, shows to a glob and matches it. -/
def Fits (glob : StyleGlob) (p : Path) : Prop :=
  ∃ name, p.fileName = some (Utf8.encode name) ∧ (name.head? = some '.' → glob.text.head? = some '.')
    ∧ Glob.isMatch glob.tokens (Utf8.encode name) = true

theorem matchesGlob_iff {glob : StyleGlob} {p : Path} : matchesGlob glob p = true ↔ Fits glob p := by
  rw [matchesGlob, Fits]
  cases named : p.fileName with
  | none => simp
  | some bytes =>
    dsimp only
    constructor
    · intro matched
      simp only [Bool.and_eq_true, Option.isSome_iff_exists, Utf8.decode?_eq_some_iff] at matched
      obtain ⟨⟨⟨name, rfl⟩, visible⟩, isMatch⟩ := matched
      exact ⟨name, rfl, isVisible_encode_iff.mp visible, isMatch⟩
    · rintro ⟨name, same, visible, isMatch⟩
      obtain rfl := Option.some.inj same
      simp only [Bool.and_eq_true, Option.isSome_iff_exists]
      exact ⟨⟨⟨name, Utf8.decode?_encode name⟩, isVisible_encode_iff.mpr visible⟩, isMatch⟩

instance (glob : StyleGlob) (p : Path) : Decidable (Fits glob p) :=
  decidable_of_iff _ matchesGlob_iff

/-- The place of the first glob that a path matches. -/
def matchedAt (globs : List StyleGlob) (p : Path) : Nat :=
  globs.findIdx fun glob => decide (Fits glob p)

/-- The paths that are found in a listing for some globs: those that match, each once and in order. -/
structure Picked (globs : List StyleGlob) (listing found : List Path) : Prop where
  mem_iff : ∀ p, p ∈ found ↔ FirstIn listing p ∧ ∃ glob ∈ globs, Fits glob p
  distinct : found.Pairwise fun p q => ¬p.Equivalent q
  ordered : found.Pairwise fun p q => matchedAt globs p < matchedAt globs q
    ∨ matchedAt globs p = matchedAt globs q ∧ listedAt listing p < listedAt listing q

/-- The paths of a listing without those that one in front of them is equivalent to. -/
def firsts : List Path → List Path
  | [] => []
  | p :: listing => p :: (firsts listing).filter fun q => !decide (p.Equivalent q)

theorem addNew_eq (found paths : List Path) :
    addNew found paths = found ++ (firsts paths).filter fun p => !found.any fun q => decide (q.Equivalent p) := by
  induction paths generalizing found with
  | nil => exact (List.append_nil found).symm
  | cons p paths ih =>
    have step : addNew found (p :: paths) =
        addNew (if found.any fun q => decide (q.Equivalent p) then found else found ++ [p]) paths := rfl
    rw [step, ih, firsts]
    by_cases known : (found.any fun q => decide (q.Equivalent p)) = true
    · rw [if_pos known, List.filter_cons_of_neg (by simp [known]), List.filter_filter]
      congr 1
      refine List.filter_congr fun q _ => ?_
      by_cases same : p.Equivalent q
      · obtain ⟨r, among, alike⟩ := List.any_eq_true.mp known
        have again : (found.any fun r => decide (r.Equivalent q)) = true :=
          List.any_eq_true.mpr ⟨r, among, decide_eq_true ((of_decide_eq_true alike).trans same)⟩
        rw [again]
        rfl
      · rw [decide_eq_false same, Bool.not_false, Bool.and_true]
    · rw [if_neg known, List.filter_cons_of_pos (by simp [known]), List.append_assoc, List.singleton_append,
        List.filter_filter]
      congr 2
      refine List.filter_congr fun q _ => ?_
      rw [List.any_append, List.any_cons, List.any_nil, Bool.or_false, Bool.not_or]

theorem not_firstIn_nil (p : Path) : ¬FirstIn [] p := by
  rintro ⟨before, after, split, _⟩
  exact absurd split (by simp)

theorem firstIn_cons {first : Path} {listing : List Path} {p : Path} :
    FirstIn (first :: listing) p ↔ p = first ∨ FirstIn listing p ∧ ¬first.Equivalent p := by
  constructor
  · rintro ⟨before, after, split, others⟩
    cases before with
    | nil => exact .inl (List.cons.inj split).1.symm
    | cons q before =>
      obtain ⟨rfl, rfl⟩ := List.cons.inj split
      obtain ⟨other, others⟩ := List.forall_mem_cons.mp others
      exact .inr ⟨⟨before, after, rfl, others⟩, other⟩
  · rintro (rfl | ⟨⟨before, after, rfl, others⟩, other⟩)
    · exact ⟨[], listing, rfl, List.forall_mem_nil _⟩
    · exact ⟨first :: before, after, rfl, List.forall_mem_cons.mpr ⟨other, others⟩⟩

theorem mem_firsts {listing : List Path} {p : Path} : p ∈ firsts listing ↔ FirstIn listing p := by
  induction listing with
  | nil => exact ⟨nofun, fun first => absurd first (not_firstIn_nil p)⟩
  | cons first listing ih => rw [firsts, List.mem_cons, List.mem_filter, ih, firstIn_cons, Bool.not_eq_true',
      decide_eq_false_iff_not]

theorem firsts_distinct (listing : List Path) : (firsts listing).Pairwise fun p q => ¬p.Equivalent q := by
  induction listing with
  | nil => exact .nil
  | cons p listing ih =>
    refine .cons (fun q among => ?_) (ih.filter _)
    simpa using (List.mem_filter.mp among).2

theorem listedAt_cons (first : Path) (listing : List Path) (p : Path) :
    listedAt (first :: listing) p = if first.Equivalent p then 0 else listedAt listing p + 1 := by
  rw [listedAt, List.findIdx_cons]
  by_cases same : first.Equivalent p
  · rw [if_pos same, decide_eq_true same, cond_true]
  · rw [if_neg same, decide_eq_false same, cond_false]
    rfl

theorem firsts_ordered (listing : List Path) :
    (firsts listing).Pairwise fun p q => listedAt listing p < listedAt listing q := by
  induction listing with
  | nil => exact .nil
  | cons p listing ih =>
    have other : ∀ q ∈ (firsts listing).filter fun q => !decide (p.Equivalent q), ¬p.Equivalent q := fun q among => by
      simpa using (List.mem_filter.mp among).2
    refine .cons (fun q among => ?_) ((ih.filter _).imp_of_mem fun amongFirst amongSecond before => ?_)
    · rw [listedAt_cons, listedAt_cons, if_pos (Equivalent.refl p), if_neg (other q among)]
      exact Nat.succ_pos _
    · rw [listedAt_cons, listedAt_cons, if_neg (other _ amongFirst), if_neg (other _ amongSecond)]
      exact Nat.succ_lt_succ before

/-- Whether equivalent paths are left out before or after a test makes no difference if they pass it alike. -/
theorem firsts_filter {test : Path → Bool} (respects : ∀ p q, p.Equivalent q → test p = test q) (listing : List Path) :
    firsts (listing.filter test) = (firsts listing).filter test := by
  induction listing with
  | nil => rfl
  | cons p listing ih =>
    rw [firsts]
    by_cases passes : test p = true
    · rw [List.filter_cons_of_pos passes, List.filter_cons_of_pos passes, firsts, ih, List.filter_filter,
        List.filter_filter]
      congr 1
      exact List.filter_congr fun q _ => Bool.and_comm ..
    · rw [List.filter_cons_of_neg passes, List.filter_cons_of_neg passes, ih, List.filter_filter]
      refine List.filter_congr fun q _ => ?_
      by_cases same : p.Equivalent q
      · rw [← respects p q same, Bool.eq_false_iff.mpr passes]
        rfl
      · rw [decide_eq_false same, Bool.not_false, Bool.and_true]

theorem fits_of_equivalent (glob : StyleGlob) {p q : Path} (same : p.Equivalent q) : Fits glob p ↔ Fits glob q := by
  rw [Fits, Fits, same.fileName_eq]

theorem filter_matchesGlob (glob : StyleGlob) (listing : List Path) :
    listing.filter (matchesGlob glob) = listing.filter fun p => decide (Fits glob p) :=
  List.filter_congr fun _ _ => Bool.eq_iff_iff.mpr (matchesGlob_iff.trans decide_eq_true_iff.symm)

/-- Nothing is found without globs. -/
theorem picked_nil (listing : List Path) : Picked [] listing [] where
  mem_iff := fun _ => ⟨nofun, fun ⟨_, _, among, _⟩ => absurd among List.not_mem_nil⟩
  distinct := .nil
  ordered := .nil

theorem matchedAt_lt {globs : List StyleGlob} {p : Path} (matched : ∃ glob ∈ globs, Fits glob p) :
    matchedAt globs p < globs.length := by
  obtain ⟨glob, among, fits⟩ := matched
  exact List.findIdx_lt_length_of_exists ⟨glob, among, decide_eq_true fits⟩

theorem matchedAt_concat {globs : List StyleGlob} {p : Path} (matched : ∃ glob ∈ globs, Fits glob p)
    (glob : StyleGlob) : matchedAt (globs ++ [glob]) p = matchedAt globs p := by
  rw [matchedAt, List.findIdx_append]
  exact if_pos (matchedAt_lt matched)

theorem matchedAt_concat_new {globs : List StyleGlob} {glob : StyleGlob} {p : Path}
    (others : ∀ glob ∈ globs, ¬Fits glob p) (fits : Fits glob p) : matchedAt (globs ++ [glob]) p = globs.length := by
  have none : globs.findIdx (fun glob => decide (Fits glob p)) = globs.length :=
    List.findIdx_eq_length.mpr fun glob among => decide_eq_false (others glob among)
  rw [matchedAt, List.findIdx_append, none, if_neg (Nat.lt_irrefl _), List.findIdx_cons, decide_eq_true fits, cond_true,
    Nat.zero_add]

/-- The paths that the last one of some globs is the first one to match, in the order of a listing. -/
def newFor (globs : List StyleGlob) (glob : StyleGlob) (listing : List Path) : List Path :=
  (firsts listing).filter fun p => decide (Fits glob p) && globs.all fun glob => !decide (Fits glob p)

theorem mem_newFor {globs : List StyleGlob} {glob : StyleGlob} {listing : List Path} {p : Path} :
    p ∈ newFor globs glob listing ↔ FirstIn listing p ∧ Fits glob p ∧ ∀ glob ∈ globs, ¬Fits glob p := by
  simp [newFor, List.mem_filter, mem_firsts]

/-- One more glob adds the paths that it is the first one to match, behind those found before. -/
theorem Picked.addNew_eq {globs : List StyleGlob} {listing found : List Path} (picked : Picked globs listing found)
    (glob : StyleGlob) : addNew found (listing.filter (matchesGlob glob)) = found ++ newFor globs glob listing := by
  have alike : ∀ p q, p.Equivalent q → decide (Fits glob p) = decide (Fits glob q) := fun p q same =>
    decide_eq_decide.mpr (fits_of_equivalent glob same)
  rw [Style.addNew_eq, filter_matchesGlob, firsts_filter alike, List.filter_filter]
  congr 1
  refine List.filter_congr fun p among => ?_
  have known : (found.any fun q => decide (q.Equivalent p)) = globs.any fun glob => decide (Fits glob p) := by
    rw [Bool.eq_iff_iff, List.any_eq_true, List.any_eq_true]
    constructor
    · rintro ⟨q, inside, same⟩
      obtain ⟨_, glob, member, fits⟩ := (picked.mem_iff q).mp inside
      exact ⟨glob, member, decide_eq_true ((fits_of_equivalent glob (of_decide_eq_true same)).mp fits)⟩
    · rintro ⟨glob, member, fits⟩
      have inside := (picked.mem_iff p).mpr ⟨mem_firsts.mp among, glob, member, of_decide_eq_true fits⟩
      exact ⟨p, inside, decide_eq_true (Equivalent.refl p)⟩
  rw [known, List.not_any_eq_all_not, Bool.and_comm]

theorem Picked.concat {globs : List StyleGlob} {listing found : List Path} (picked : Picked globs listing found)
    (glob : StyleGlob) : Picked (globs ++ [glob]) listing (addNew found (listing.filter (matchesGlob glob))) := by
  rw [picked.addNew_eq]
  constructor
  case mem_iff =>
    intro p
    rw [List.mem_append, mem_newFor, picked.mem_iff]
    constructor
    · rintro (⟨first, other, member, fits⟩ | ⟨first, fits, _⟩)
      · exact ⟨first, other, List.mem_append_left _ member, fits⟩
      · exact ⟨first, glob, List.mem_append_right _ (List.mem_singleton.mpr rfl), fits⟩
    · rintro ⟨first, other, member, fits⟩
      by_cases earlier : ∃ glob ∈ globs, Fits glob p
      · exact .inl ⟨first, earlier⟩
      · rcases List.mem_append.mp member with old | last
        · exact absurd ⟨other, old, fits⟩ earlier
        · exact .inr ⟨first, List.mem_singleton.mp last ▸ fits, fun glob member fits => earlier ⟨glob, member, fits⟩⟩
  case distinct =>
    refine List.pairwise_append.mpr ⟨picked.distinct, (firsts_distinct listing).filter _, fun p old q added same => ?_⟩
    obtain ⟨_, other, member, fits⟩ := (picked.mem_iff p).mp old
    exact (mem_newFor.mp added).2.2 other member ((fits_of_equivalent other same).mp fits)
  case ordered =>
    have kept : ∀ p ∈ found, matchedAt (globs ++ [glob]) p = matchedAt globs p := fun p old =>
      matchedAt_concat ((picked.mem_iff p).mp old).2 glob
    have last : ∀ p ∈ newFor globs glob listing, matchedAt (globs ++ [glob]) p = globs.length := fun p added =>
      matchedAt_concat_new (mem_newFor.mp added).2.2 (mem_newFor.mp added).2.1
    refine List.pairwise_append.mpr ⟨?_, ?_, fun p old q added => .inl ?_⟩
    · refine picked.ordered.imp_of_mem fun {p q} first second before => ?_
      rw [kept p first, kept q second]
      exact before
    · refine ((firsts_ordered listing).filter _).imp_of_mem fun {p q} first second before => .inr ⟨?_, before⟩
      rw [last p first, last q second]
    · rw [kept p old, last q added]
      exact matchedAt_lt ((picked.mem_iff p).mp old).2

theorem Picked.foldl {globs : List StyleGlob} {listing found : List Path} (picked : Picked globs listing found)
    (more : List StyleGlob) : Picked (globs ++ more) listing
      (more.foldl (fun found glob => addNew found (listing.filter (matchesGlob glob))) found) := by
  induction more generalizing globs found with
  | nil => rw [List.append_nil]; exact picked
  | cons glob more ih =>
    have next := ih (picked.concat glob)
    rwa [List.append_assoc, List.singleton_append] at next

/-- What is found for globs is determined by them and the listing. -/
theorem Picked.unique {globs : List StyleGlob} {listing found found' : List Path} (picked : Picked globs listing found)
    (picked' : Picked globs listing found') : found = found' := by
  have nodup : ∀ {found}, Picked globs listing found → found.Nodup := fun picked =>
    picked.distinct.imp fun {p q} other same => other (congrArg components same)
  refine List.Perm.eq_of_pairwise (fun p q _ _ before after => ?_) picked.ordered picked'.ordered
    ((List.perm_ext_iff_of_nodup (nodup picked) (nodup picked')).mpr fun p =>
      (picked.mem_iff p).trans (picked'.mem_iff p).symm)
  omega

/-- The paths found for extensions are those found for their globs. -/
theorem extensionMatches_eq_ok_iff {stem : List Char} {listing found paths : List Path}
    {extensions : List (List Char)} : extensionMatches stem listing extensions found = .ok paths ↔
      ∃ globs, (extensions.mapM fun extension => StyleGlob.parse (extensionGlob stem extension)) = .ok globs
        ∧ globs.foldl (fun found glob => addNew found (listing.filter (matchesGlob glob))) found = paths := by
  rw [extensionMatches_eq]
  cases extensions.mapM fun extension => StyleGlob.parse (extensionGlob stem extension) with
  | error failure => simp [Functor.map, Except.map]
  | ok globs => simp [Functor.map, Except.map]

theorem picked_of_extensionMatches {stem : List Char} {listing paths : List Path} {extensions : List (List Char)} :
    extensionMatches stem listing extensions [] = .ok paths ↔
      ∃ globs, (extensions.mapM fun extension => StyleGlob.parse (extensionGlob stem extension)) = .ok globs
        ∧ Picked globs listing paths := by
  rw [extensionMatches_eq_ok_iff]
  refine exists_congr fun globs => and_congr_right fun _ => ?_
  have found := (picked_nil listing).foldl globs
  exact ⟨fun same => same ▸ found, found.unique⟩

/-- A file whose name is text is a module by its name if its stem ends with the mark of modules. -/
theorem hasModuleSuffix_iff {p : Path} {name : List Char} (named : p.fileName = some (Utf8.encode name)) :
    hasModuleSuffix p = true ↔ ∃ stem, p.fileStem = some stem ∧ moduleSuffix <:+ stem := by
  have isText : ∃ stem, (splitName (Utf8.encode name)).1 = Utf8.encode stem := by
    rcases splitName_cases (Utf8.encode name) with whole | ⟨after, split⟩
    · exact ⟨name, whole⟩
    · obtain ⟨stem, _, _, same, _⟩ := Utf8.encode_eq_append split (by simp; decide)
      exact ⟨stem, same⟩
  obtain ⟨stem, isText⟩ := isText
  rw [hasModuleSuffix, moduleStem?, fileStem, named, Option.map_some, isText, Option.bind_some, Utf8.decode?_encode]
  simp only [Option.isSome_some, true_and, List.isSuffixOf_iff_suffix, Option.some.injEq, exists_eq_left']
  split <;> simp [*]

/-- The candidates for extensions are the files found for their globs. Each is a module because every one is, or
because its stem ends with the mark of modules. -/
theorem resolve_extensions_eq_ok_iff {component : Path} {listing : List Path} {extensions : List (List Char)}
    {matchComponentName always : Bool} {candidates : List Candidate} :
    (resolve component listing (.extensions extensions matchComponentName always)).result = .ok candidates ↔
      ∃ globs, (extensions.mapM fun extension => StyleGlob.parse
          (extensionGlob (if matchComponentName then componentStem component else []) extension)) = .ok globs
        ∧ Picked globs listing (candidates.map (·.path))
        ∧ ∀ c ∈ candidates, c.isModule = true ↔
          always = true ∨ ∃ stem, c.path.fileStem = some stem ∧ moduleSuffix <:+ stem := by
  have classified : ∀ {globs found}, Picked globs listing found → ∀ p ∈ found, (Candidate.classify p always).isModule =
      true ↔ always = true ∨ ∃ stem, p.fileStem = some stem ∧ moduleSuffix <:+ stem := by
    intro globs found picked p among
    obtain ⟨_, glob, _, name, named, _⟩ := (picked.mem_iff p).mp among
    rw [Candidate.classify, Bool.or_eq_true, hasModuleSuffix_iff named]
  rw [resolve, Traced.result_bind, Traced.result_ofExcept, Traced.bind_eq_ok_iff]
  constructor
  · rintro ⟨found, searched, same⟩
    obtain rfl := Except.ok.inj same
    obtain ⟨globs, parses, picked⟩ := picked_of_extensionMatches.mp searched
    have paths : (found.map (Candidate.classify · always)).map (·.path) = found := by
      rw [List.map_map]
      exact List.map_id found
    refine ⟨globs, parses, paths.symm ▸ picked, fun c among => ?_⟩
    obtain ⟨p, inside, rfl⟩ := List.mem_map.mp among
    exact classified picked p inside
  · rintro ⟨globs, parses, picked, modules⟩
    refine ⟨_, picked_of_extensionMatches.mpr ⟨globs, parses, picked⟩, congrArg Except.ok ?_⟩
    rw [List.map_map]
    refine (List.map_congr_left fun c among => ?_).trans (List.map_id candidates)
    have same := (classified picked c.path (List.mem_map_of_mem among)).trans (modules c among).symm
    rw [Function.comp_apply]
    exact congrArg (Candidate.mk c.path) (Bool.eq_iff_iff.mpr same)

end CompanionStyles.Style
