import CompanionStyles.Proofs.Glob.Literal

/-!
Names that the globs of escaped texts match, whatever their backslashes take. A backslash of a name costs two of the
glob, one that takes the other, so that a glob which reads as a pattern matches some name with at most half of its
backslashes.
-/

namespace CompanionStyles.Glob

/-- In an escaped text, and behind any part of it, a bracket that opens a class or a group stands in front of a
character that is taken literally, and no two stars stand together. -/
def Guarded : List Char → Prop
  | [] => True
  | c :: rest => (c = '[' → ∃ d ∈ ['?', '*', '[', ']', '\x7b', '\x7d'], rest.head? = some d)
    ∧ (c = '\x7b' → rest.head? = some ']') ∧ (c = '*' → rest.head? ≠ some '*') ∧ Guarded rest

theorem Guarded.tail {c : Char} {rest : List Char} (guarded : Guarded (c :: rest)) : Guarded rest :=
  guarded.2.2.2

theorem Guarded.of_suffix {text rest : List Char} (guarded : Guarded text) (behind : rest <:+ text) : Guarded rest := by
  induction text with
  | nil => rwa [List.suffix_nil.mp behind]
  | cons c text ih =>
    rcases List.suffix_cons_iff.mp behind with rfl | behind
    · exact guarded
    · exact ih guarded.tail behind

theorem guarded_of_plain {c : Char} (plain : c ∉ ['[', '\x7b', '*']) {rest : List Char} (guarded : Guarded rest) :
    Guarded (c :: rest) := by
  simp only [List.mem_cons, List.not_mem_nil, or_false, not_or] at plain
  exact ⟨(absurd · plain.1), (absurd · plain.2.1), (absurd · plain.2.2), guarded⟩

theorem guarded_escape_append (text : List Char) {tail : List Char} (guarded : Guarded tail) :
    Guarded (escape text ++ tail) := by
  induction text with
  | nil => exact guarded
  | cons c text ih =>
    by_cases special : c ∈ ['?', '*', '[', ']', '\x7b', '\x7d']
    · rw [escape_cons_of_special special]
      have closing := guarded_of_plain (by decide : ']' ∉ _) ih
      have taken : Guarded (c :: ']' :: (escape text ++ tail)) :=
        ⟨fun _ => ⟨']', by decide, rfl⟩, fun _ => rfl, fun _ => by simp, closing⟩
      exact ⟨fun _ => ⟨c, special, rfl⟩, (absurd · (by decide)), (absurd · (by decide)), taken⟩
    · rw [escape_cons_of_plain special]
      simp only [List.mem_cons, List.not_mem_nil, or_false, not_or] at special
      exact guarded_of_plain (by simp [special]) ih

theorem guarded_extensionGlob (stem extension : List Char) : Guarded (Style.extensionGlob stem extension) := by
  have last : Guarded (escape extension ++ []) := guarded_escape_append extension trivial
  rw [List.append_nil] at last
  have star : Guarded ('*' :: escape extension) :=
    ⟨(absurd · (by decide)), (absurd · (by decide)), fun _ => head?_escape_ne_star extension, last⟩
  exact guarded_escape_append stem star

/-- A token stands for some text, perhaps among others. No token but the dot stands for a text that starts with one. -/
structure Allows (token : Token) (text : List Char) : Prop where
  leaves : ∀ more, more ∈ token.rests (Utf8.encode text ++ more)
  ofDot : text.head? = some '.' → token = .ofChar '.'
  nonempty : text ≠ []

theorem allows_ofChar (c : Char) : Allows (.ofChar c) [c] where
  leaves more := by rw [Token.ofChar, Token.rests, mem_behindBytes, Utf8.encode, List.flatMap_singleton]
  ofDot isDot := by rw [Option.some.inj isDot]
  nonempty := List.cons_ne_nil c []

theorem allows_any : Allows .any ['z'] where
  leaves more := by
    rw [Token.rests]
    exact mem_behindByte.mpr ⟨0x7A, by decide, rfl⟩
  ofDot isDot := absurd isDot (by decide)
  nonempty := List.cons_ne_nil _ _

theorem allows_star : Allows .star ['z'] where
  leaves _ := mem_behindRun.mpr ⟨_, rfl, by decide⟩
  ofDot isDot := absurd isDot (by decide)
  nonempty := List.cons_ne_nil _ _

/-- Tokens stand in turn for the parts of a text. -/
inductive Spells : List Token → List Char → Prop
  | nil : Spells [] []
  | cons {token : Token} {tokens : List Token} {first rest : List Char} (allows : Allows token first)
      (spells : Spells tokens rest) : Spells (token :: tokens) (first ++ rest)

theorem Spells.leaves {tokens : List Token} {text : List Char} (spells : Spells tokens text) (more : Bytes) :
    more ∈ restsOfAll tokens [Utf8.encode text ++ more] := by
  induction spells with
  | nil => exact List.mem_singleton.mpr rfl
  | @cons token tokens first rest allows spells ih =>
    rw [Utf8.encode_append, List.append_assoc, mem_restsOfAll_cons]
    exact ⟨_, allows.leaves _, ih⟩

theorem Spells.isMatch {tokens : List Token} {text : List Char} (spells : Spells tokens text) :
    Glob.isMatch tokens (Utf8.encode text) = true := by
  have left := spells.leaves []
  rw [List.append_nil] at left
  rw [Glob.isMatch.eq_def]
  split
  · rfl
  · exact List.any_eq_true.mpr ⟨[], left, rfl⟩

theorem Spells.ofDot {tokens : List Token} {text : List Char} (spells : Spells tokens text)
    (isDot : text.head? = some '.') : ∃ others, tokens = .ofChar '.' :: others := by
  cases spells with
  | nil => exact absurd isDot (by decide)
  | @cons token tokens first rest allows spells =>
    obtain ⟨c, first, rfl⟩ := List.exists_cons_of_ne_nil allows.nonempty
    exact ⟨tokens, by rw [allows.ofDot isDot]⟩

theorem Allows.isNothing {token : Token} {text : List Char} (allows : Allows token text) : token.isNothing = false := by
  cases token with
  | alternates branches =>
    rw [Token.isNothing, Bool.eq_false_iff]
    intro empty
    have left := allows.leaves []
    rw [List.append_nil, Token.rests, if_pos empty, List.mem_singleton] at left
    exact allows.nonempty (Utf8.encode_inj left.symm)
  | _ => rfl

/-- A name that matches starts with the character that its pattern does. -/
theorem head?_of_isMatch {c : Char} {others : List Token} {name : List Char}
    (matched : isMatch (.ofChar c :: others) (Utf8.encode name) = true) : name.head? = some c := by
  rw [isMatch, List.any_eq_true] at matched
  · obtain ⟨rest, left, _⟩ := matched
    obtain ⟨next, taken, _⟩ := mem_restsOfAll_cons.mp left
    rw [Token.ofChar, Token.rests, mem_behindBytes] at taken
    have split : Utf8.encode name = Utf8.encode [c] ++ next := by rw [taken, Utf8.encode, List.flatMap_singleton]
    obtain ⟨behind, rfl, _⟩ := Utf8.encode_eq_encode_append split
    rfl
  · simp [Token.ofChar]

/-- A group allows what its first branch does, if that is anything. -/
theorem allows_alternates {tokens : List Token} (others : List (List Token)) {text : List Char}
    (spells : Spells tokens text) (nonempty : text ≠ []) (notDot : text.head? ≠ some '.') :
    Allows (.alternates (tokens :: others)) text where
  leaves more := by
    have solid : tokensEmpty tokens = false := by
      cases spells with
      | nil => exact absurd rfl nonempty
      | cons allows spells => rw [tokensEmpty, allows.isNothing, Bool.false_and]
    rw [Token.rests, branchesEmpty, solid, Bool.false_and, if_neg Bool.false_ne_true, branchRests, solid,
      if_neg Bool.false_ne_true]
    exact List.mem_append_left _ (spells.leaves more)
  ofDot isDot := absurd isDot notDot
  nonempty := nonempty

/-- A sample of what is read of a text in front of a rest: of two backslashes that are read it has one at most, and a
star that is read gives it a character that is no dot. -/
structure Sample (text rest sample : List Char) : Prop where
  behind : rest <:+ text
  sparing : 2 * sample.count '\\' + rest.count '\\' ≤ text.count '\\'
  mem : ∀ c ∈ sample, c ∈ text ∨ c = 'z'
  solid : '*' ∈ text → '*' ∈ rest ∨ ∃ c ∈ sample, c ≠ '.'

theorem Sample.refl (text : List Char) : Sample text text [] where
  behind := List.suffix_rfl
  sparing := by simp
  mem := by simp
  solid := .inl

theorem Sample.append {text middle rest first second : List Char} (front : Sample text middle first)
    (back : Sample middle rest second) : Sample text rest (first ++ second) where
  behind := back.behind.trans front.behind
  sparing := by
    have sparing := front.sparing
    have sparing' := back.sparing
    rw [List.count_append]
    omega
  mem c inside := by
    rcases List.mem_append.mp inside with inside | inside
    · exact front.mem c inside
    · exact (back.mem c inside).imp_left fun inside => front.behind.mem inside
  solid inside := by
    rcases front.solid inside with inside | ⟨c, inside, notDot⟩
    · rcases back.solid inside with inside | ⟨c, inside, notDot⟩
      · exact .inl inside
      · exact .inr ⟨c, List.mem_append_right _ inside, notDot⟩
    · exact .inr ⟨c, List.mem_append_left _ inside, notDot⟩

/-- A sample that has a character that is no dot is one of more text, too. -/
theorem Sample.widen {text middle rest whole sample : List Char} (found : Sample text middle sample)
    (before : text <:+ whole) (behind : rest <:+ middle) (solid : ∃ c ∈ sample, c ≠ '.') :
    Sample whole rest sample where
  behind := (behind.trans found.behind).trans before
  sparing := by
    have sparing := found.sparing
    have more := before.sublist.count_le '\\'
    have less := behind.sublist.count_le '\\'
    omega
  mem c inside := (found.mem c inside).imp_left fun inside => before.mem inside
  solid _ := .inr solid

/-- A character that nothing is read of. -/
theorem sample_skip {c : Char} (notStar : c ≠ '*') (rest : List Char) : Sample (c :: rest) rest [] where
  behind := List.suffix_cons c rest
  sparing := by simpa using (List.suffix_cons c rest).sublist.count_le _
  mem := by simp
  solid inside := .inl ((List.mem_cons.mp inside).resolve_left notStar.symm)

/-- A single character is a sample of what is read if it is not a backslash and no dot. -/
theorem sample_char {text rest : List Char} {c : Char} (behind : rest <:+ text) (among : c ∈ text ∨ c = 'z')
    (notBackslash : c ≠ '\\') (notDot : c ≠ '.') : Sample text rest [c] where
  behind := behind
  sparing := by
    rw [List.count_singleton, if_neg (by simpa using notBackslash)]
    simpa using behind.sublist.count_le _
  mem d inside := by rwa [List.mem_singleton.mp inside]
  solid _ := .inr ⟨c, List.mem_singleton.mpr rfl, notDot⟩

/-- A character that has no meaning of its own is a sample of itself. -/
theorem sample_self {c : Char} (notBackslash : c ≠ '\\') (notStar : c ≠ '*') (rest : List Char) :
    Sample (c :: rest) rest [c] where
  behind := List.suffix_cons c rest
  sparing := by
    rw [List.count_singleton, if_neg (by simpa using notBackslash)]
    simpa using (List.suffix_cons c rest).sublist.count_le _
  mem d inside := by simp [List.mem_singleton.mp inside]
  solid inside := .inl ((List.mem_cons.mp inside).resolve_left notStar.symm)

/-- A character that a backslash takes is a sample of both. -/
theorem sample_taken (c : Char) (rest : List Char) : Sample ('\\' :: c :: rest) rest [c] where
  behind := ⟨['\\', c], rfl⟩
  sparing := by
    simp only [List.count_cons, List.count_nil, beq_self_eq_true, if_true]
    split <;> omega
  mem d inside := by simp [List.mem_singleton.mp inside]
  solid inside := by
    rcases List.mem_cons.mp ((List.mem_cons.mp inside).resolve_left (by decide)) with rfl | inside
    · exact .inr ⟨'*', List.mem_singleton.mpr rfl, by decide⟩
    · exact .inl inside

theorem classRanges_cons {ranges found : List (Char × Char)} {inRange : Bool} {text rest : List Char} {first last : Char}
    (read : classRanges ranges false inRange text = .ok (found, rest)) (among : (first, last) ∈ ranges)
    (ordered : first ≤ last) : rest <:+ text ∧ ∃ last', (first, last') ∈ found ∧ first ≤ last' := by
  induction text generalizing ranges inRange last with
  | nil => exact absurd read (by simp [classRanges])
  | cons c text ih =>
    have step : ∀ {ranges inRange last}, classRanges ranges false inRange text = .ok (found, rest) →
        (first, last) ∈ ranges → first ≤ last → rest <:+ c :: text ∧ ∃ last', (first, last') ∈ found ∧ first ≤ last' :=
      fun read among ordered => (ih read among ordered).imp_left fun behind => behind.trans (List.suffix_cons c text)
    unfold classRanges at read
    split at read
    · obtain ⟨rfl, rfl⟩ := Prod.mk.inj (Except.ok.inj read)
      refine ⟨List.suffix_cons c text, last, ?_, ordered⟩
      split
      · exact List.mem_cons_of_mem _ among
      · exact among
    · split at read
      · exact step read among ordered
      · split at read
        · split at read
          · rename_i start previous others
            split at read
            · exact absurd read (by simp)
            · rename_i notBefore
              rcases List.mem_cons.mp among with same | among
              · obtain ⟨rfl, rfl⟩ := Prod.mk.inj same
                exact step read List.mem_cons_self (Char.not_lt.mp notBefore)
              · exact step read (List.mem_cons_of_mem _ among) ordered
          · exact absurd among List.not_mem_nil
        · exact step read (List.mem_cons_of_mem _ among) ordered

/-- The byte of a character below 0x80 is in each range that the character opens. -/
theorem exists_mem_byteRanges {first last : Char} (low : first.toNat < 0x80) (ordered : first ≤ last) :
    ∃ b top, Utf8.encodeChar first = [b] ∧ (b, top) ∈ byteRanges first last ∧ b ≤ top := by
  obtain ⟨b, tails, written, _⟩ := Utf8.exists_encodeChar_eq first
  obtain ⟨value, rfl⟩ := (written ▸ Utf8.encodes_encodeChar first).low_iff.mp (.inl low)
  refine ⟨b, ?_⟩
  by_cases same : first = last
  · subst same
    exact ⟨b, written, by simp [byteRanges, written], UInt8.le_refl b⟩
  · obtain ⟨lead, tails, written', _⟩ := Utf8.exists_encodeChar_eq last
    refine ⟨lead, written, by simp [byteRanges, same, written, written'], UInt8.le_iff_toNat_le.mpr ?_⟩
    have ordered : first.toNat ≤ last.toNat := ordered
    have value' := (written' ▸ Utf8.encodes_encodeChar last).low_iff.mp
    rcases Nat.lt_or_ge lead.toNat 0x80 with low' | high
    · have := (value' (.inr low')).1
      omega
    · omega

/-- A class that a character without a meaning of its own in it opens allows that character. -/
theorem allows_class {c : Char} {more rest : List Char} {token : Token}
    (special : c ∈ ['?', '*', '[', ']', '\x7b', '\x7d']) (read : parseClass (c :: more) = .ok (token, rest)) :
    Allows token [c] ∧ rest <:+ more := by
  have opened : parseClass (c :: more) = (classRanges [(c, c)] false false more).map fun found =>
      (.oneOf false (found.1.reverse.flatMap fun (a, b) => byteRanges a b), found.2) := by
    simp only [List.mem_cons, List.not_mem_nil, or_false] at special
    rcases special with rfl | rfl | rfl | rfl | rfl | rfl <;> rfl
  have plain : c.toNat < 0x80 ∧ c ≠ '.' := by
    simp only [List.mem_cons, List.not_mem_nil, or_false] at special
    rcases special with rfl | rfl | rfl | rfl | rfl | rfl <;> decide
  obtain ⟨found, ranges, rfl⟩ : ∃ found, classRanges [(c, c)] false false more = .ok (found, rest)
      ∧ token = .oneOf false (found.reverse.flatMap fun (a, b) => byteRanges a b) := by
    rw [opened] at read
    cases ranges : classRanges [(c, c)] false false more with
    | error cause => exact absurd (ranges ▸ read) (by simp [Except.map])
    | ok read' =>
      rw [ranges] at read
      obtain ⟨rfl, rfl⟩ := Prod.mk.inj (Except.ok.inj read)
      exact ⟨read'.1, rfl, rfl⟩
  obtain ⟨behind, last, among, ordered⟩ := classRanges_cons ranges List.mem_cons_self (Char.le_refl c)
  obtain ⟨b, top, written, inside, below⟩ := exists_mem_byteRanges plain.1 ordered
  refine ⟨⟨fun others => ?_, fun isDot => absurd (Option.some.inj isDot) plain.2, List.cons_ne_nil c []⟩, behind⟩
  rw [Token.rests, mem_behindByte, Utf8.encode, List.flatMap_singleton, written]
  refine ⟨b, ?_, rfl⟩
  rw [Bool.bne_false, inRanges, List.any_eq_true]
  exact ⟨(b, top), List.mem_flatMap.mpr ⟨(c, last), List.mem_reverse.mpr among, inside⟩, by simpa using below⟩

/-- The tokens of a branch behind those before it spell a sample of what is read; outside of groups and with enough
fuel that is all. A closing bracket in front is read unless fuel is short. -/
def Sampled (fuel depth : Nat) (before : List Token) (text : List Char)
    (read : Except Cause (List Token × Ending × List Char)) : Prop :=
  ∀ tokens ending rest, read = .ok (tokens, ending, rest) → ∃ others sample, tokens = before.reverse ++ others
    ∧ Spells others sample ∧ Sample text rest sample ∧ (depth = 0 → text.length < fuel → rest = [])
    ∧ (ending ≠ .text → text.head? = some ']' → sample.head? = some ']')

variable {fuel depth : Nat} {before : List Token} {text rest : List Char}

theorem sampled_end {ending : Ending} (behind : Sample text rest []) (ends : depth = 0 → text.length < fuel → rest = [])
    (other : ending ≠ .text → text.head? ≠ some ']') :
    Sampled fuel depth before text (.ok (before.reverse, ending, rest)) := by
  intro tokens ending rest same
  simp only [Except.ok.injEq, Prod.mk.injEq] at same
  obtain ⟨rfl, rfl, rfl⟩ := same
  exact ⟨[], [], (List.append_nil _).symm, .nil, behind, ends, fun marked first => absurd first (other marked)⟩

theorem sampled_error (cause : Cause) : Sampled fuel depth before text (.error cause) :=
  fun _ _ _ same => absurd same (by simp)

/-- One step of reading takes a token and leaves a rest to read. -/
theorem Sampled.step {token : Token} {first : List Char} {read : Except Cause (List Token × Ending × List Char)}
    (sampled : Sampled fuel depth (token :: before) rest read) (allows : Allows token first)
    (sample : Sample text rest first) (shorter : rest.length < text.length)
    (closing : text.head? = some ']' → first.head? = some ']') : Sampled (fuel + 1) depth before text read := by
  intro tokens ending rest' same
  obtain ⟨others, second, rfl, spells, sample', ends, _⟩ := sampled tokens ending rest' same
  refine ⟨token :: others, first ++ second, by simp, .cons allows spells, sample.append sample', ?_, fun _ first' => ?_⟩
  · exact fun top enough => ends top (by omega)
  · rw [List.head?_append, closing first', Option.some_or]

/-- A group in which a closing bracket stands first allows a sample of it. -/
def SampledGroup (text : List Char) (read : Except Cause (List (List Token) × List Char)) : Prop :=
  ∀ branches rest, read = .ok (branches, rest) → rest <:+ text ∧ (text.head? = some ']' →
    ∃ sample, Allows (.alternates branches) sample ∧ Sample text rest sample ∧ ∃ c ∈ sample, c ≠ '.')

def SampledBranches (fuel : Nat) : Prop :=
  ∀ depth previous before text, Guarded text →
    Sampled fuel depth before text (parseBranch fuel depth previous before text)

def SampledGroups (fuel : Nat) : Prop :=
  ∀ depth previous text, Guarded text → SampledGroup text (parseBranches fuel depth previous text)

theorem SampledBranches.behindClass (branch : SampledBranches fuel) (guarded : Guarded ('[' :: text)) :
    Sampled (fuel + 1) depth before ('[' :: text) (do
      let (token, rest) ← parseClass text
      parseBranch fuel depth (some ']') (token :: before) rest) := by
  obtain ⟨c, special, first⟩ := guarded.1 rfl
  obtain ⟨more, rfl⟩ := List.head?_eq_some_iff.mp first
  cases read : parseClass (c :: more) with
  | error cause => exact sampled_error cause
  | ok found =>
    obtain ⟨token, rest⟩ := found
    obtain ⟨allows, behind⟩ := allows_class special read
    have behind' : rest <:+ '[' :: c :: more := behind.trans ⟨['[', c], rfl⟩
    have plain : c ≠ '\\' ∧ c ≠ '.' := by
      constructor <;> rintro rfl <;> exact absurd special (by decide)
    refine (branch _ _ _ _ (guarded.of_suffix behind')).step allows
      (sample_char behind' (.inl (by simp)) plain.1 plain.2) ?_ (by simp)
    have shorter := behind.length_le
    simp only [List.length_cons]
    omega

theorem SampledBranches.behindGroup (branch : SampledBranches fuel) (groups : SampledGroups fuel)
    (guarded : Guarded ('\x7b' :: text)) :
    Sampled (fuel + 1) depth before ('\x7b' :: text) (do
      let (branches, rest) ← parseBranches fuel (depth + 1) '\x7b' text
      parseBranch fuel depth (some '\x7d') (.alternates branches :: before) rest) := by
  cases read : parseBranches fuel (depth + 1) '\x7b' text with
  | error cause => exact sampled_error cause
  | ok found =>
    obtain ⟨branches, rest⟩ := found
    obtain ⟨behind, sampled⟩ := groups _ _ _ guarded.tail _ _ read
    obtain ⟨sample, allows, found, solid⟩ := sampled (guarded.2.1 rfl)
    exact (branch _ _ _ _ (guarded.tail.of_suffix behind)).step allows
      (found.widen (List.suffix_cons _ _) List.suffix_rfl solid) (Nat.lt_succ_of_le behind.length_le) (by simp)

theorem SampledBranches.succ (branch : SampledBranches fuel) (groups : SampledGroups fuel) :
    SampledBranches (fuel + 1) := by
  intro depth previous before text guarded
  cases text with
  | nil => exact sampled_end (.refl []) (fun _ _ => rfl) (absurd rfl)
  | cons c text =>
    have own (token : Token) (c' : Char) (allows : Allows token [c']) (sample : Sample (c :: text) text [c'])
        (closing : c = ']' → c' = ']') (previous : Option Char) :
        Sampled (fuel + 1) depth before (c :: text) (parseBranch fuel depth previous (token :: before) text) :=
      (branch _ _ _ _ guarded.tail).step allows sample (Nat.lt_succ_self _) (by simpa using closing)
    have any : ∀ {c}, Sample (c :: text) text ['z'] :=
      sample_char (List.suffix_cons _ _) (.inr rfl) (by decide) (by decide)
    unfold parseBranch
    dsimp only
    split
    · exact own _ _ allows_any any (by decide) _
    · split
      · exact absurd rfl (guarded.2.2.1 rfl)
      · exact own _ _ allows_star any (by decide) _
    · exact branch.behindClass guarded
    · exact branch.behindGroup groups guarded
    · split
      · exact sampled_error _
      · rename_i inside
        exact sampled_end (sample_skip (by decide) text) (fun top => absurd top inside) (by simp)
    · split
      · exact own _ _ (allows_ofChar ',') (sample_self (by decide) (by decide) text) id _
      · rename_i inside
        exact sampled_end (sample_skip (by decide) text) (fun top => absurd top inside) (by simp)
    · split
      · exact sampled_error _
      · rename_i d rest
        exact (branch _ _ _ _ guarded.tail.tail).step (allows_ofChar d) (sample_taken d rest)
          (Nat.lt_succ_of_lt (Nat.lt_succ_self _)) (by simp)
    · rename_i notStar _ _ _ _ notBackslash
      exact own _ _ (allows_ofChar c) (sample_self notBackslash notStar text) id _

theorem SampledGroups.succ (branch : SampledBranches fuel) (groups : SampledGroups fuel) : SampledGroups (fuel + 1) := by
  intro depth previous text guarded branches rest same
  rw [parseBranches] at same
  cases read : parseBranch fuel depth (some previous) [] text with
  | error cause => exact absurd (read ▸ same) (by simp [bind, Except.bind])
  | ok first =>
    obtain ⟨tokens, ending, middle⟩ := first
    obtain ⟨others, sample, isFirst, spells, sampled, _, closing⟩ := branch _ _ _ _ guarded _ _ _ read
    obtain rfl : tokens = others := isFirst
    have group (marked : ending ≠ .text) (more : List (List Token)) (behind : rest <:+ middle) :
        rest <:+ text ∧ (text.head? = some ']' → ∃ sample, Allows (.alternates (tokens :: more)) sample
          ∧ Sample text rest sample ∧ ∃ c ∈ sample, c ≠ '.') := by
      refine ⟨behind.trans sampled.behind, fun first => ?_⟩
      obtain ⟨sample, rfl⟩ := List.head?_eq_some_iff.mp (closing marked first)
      have solid : ∃ c ∈ ']' :: sample, c ≠ '.' := ⟨']', List.mem_cons_self, by decide⟩
      exact ⟨_, allows_alternates more spells (List.cons_ne_nil _ _) (by simp),
        sampled.widen List.suffix_rfl behind solid, solid⟩
    rw [read] at same
    cases ending with
    | text => exact absurd same (by simp [bind, Except.bind])
    | bracket =>
      simp only [bind, Except.bind, pure, Except.pure, Except.ok.injEq, Prod.mk.injEq] at same
      obtain ⟨rfl, rfl⟩ := same
      exact group (by decide) [] List.suffix_rfl
    | comma =>
      cases later : parseBranches fuel depth ',' middle with
      | error cause => exact absurd same (by simp [later, bind, Except.bind])
      | ok found =>
        simp only [later, bind, Except.bind, pure, Except.pure, Except.ok.injEq, Prod.mk.injEq] at same
        obtain ⟨rfl, rfl⟩ := same
        exact group (by decide) _ (groups _ _ _ (guarded.of_suffix sampled.behind) _ _ later).1

theorem sampled_parse (fuel : Nat) : SampledBranches fuel ∧ SampledGroups fuel := by
  induction fuel with
  | zero =>
    refine ⟨fun depth previous before text _ => ?_, fun depth previous text _ branches rest same => ?_⟩
    · exact sampled_end (.refl text) (fun _ enough => absurd enough (Nat.not_lt_zero _)) (absurd rfl)
    · exact absurd same (by simp [parseBranches])
  | succ fuel ih => exact ⟨ih.1.succ ih.2, .succ ih.1 ih.2⟩

/-- A glob of escaped texts that reads as a pattern matches a name with at most half of its backslashes. -/
theorem exists_sample {tokens : List Token} (guarded : Guarded text) (parsed : parse text = .ok tokens) :
    ∃ sample, Spells tokens sample ∧ Sample text [] sample := by
  rw [parse] at parsed
  cases read : parseBranch (2 * text.length + 2) 0 none [] text with
  | error cause => exact absurd (read ▸ parsed) (by simp [bind, Except.bind])
  | ok found =>
    obtain ⟨tokens', ending, rest⟩ := found
    obtain rfl : tokens' = tokens := by
      rw [read] at parsed
      exact Except.ok.inj parsed
    obtain ⟨others, sample, isWhole, spells, sampled, ends, _⟩ := (sampled_parse _).1 _ _ _ _ guarded _ _ _ read
    obtain rfl : tokens' = others := isWhole
    obtain rfl := ends rfl (by omega)
    exact ⟨sample, spells, sampled⟩

end CompanionStyles.Glob
