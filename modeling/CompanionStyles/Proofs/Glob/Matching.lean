import CompanionStyles.Glob.Basic

/-!
What tokens take of a name: a character takes the bytes that it is written with, a star any run without a separator,
and tokens in a row take what each of them does.
-/

namespace CompanionStyles.Glob

/-- Each text that is left is left of one of the texts that there are. -/
theorem mem_restsOfAll_iff {tokens : List Token} {texts : List Bytes} {rest : Bytes} :
    rest ∈ restsOfAll tokens texts ↔ ∃ text ∈ texts, rest ∈ restsOfAll tokens [text] := by
  induction tokens generalizing texts with
  | nil => simp [restsOfAll]
  | cons token tokens ih =>
    simp only [restsOfAll]
    rw [ih]
    constructor
    · rintro ⟨next, leaves, among⟩
      obtain ⟨text, inside, leaves⟩ := List.mem_flatMap.mp (List.mem_eraseDups.mp leaves)
      exact ⟨text, inside, ih.mpr ⟨next, by simpa using leaves, among⟩⟩
    · rintro ⟨text, inside, among⟩
      obtain ⟨next, leaves, among⟩ := ih.mp among
      refine ⟨next, List.mem_eraseDups.mpr (List.mem_flatMap.mpr ⟨text, inside, ?_⟩), among⟩
      simpa using leaves

theorem mem_restsOfAll_cons {token : Token} {tokens : List Token} {text rest : Bytes} :
    rest ∈ restsOfAll (token :: tokens) [text] ↔ ∃ next ∈ token.rests text, rest ∈ restsOfAll tokens [next] := by
  rw [restsOfAll, mem_restsOfAll_iff]
  simp

/-- Tokens stand for the texts of a language and nothing else: these are what they take of any text. -/
structure Takes (tokens : List Token) (language : Bytes → Prop) : Prop where
  leaves : ∀ text rest, rest ∈ restsOfAll tokens [text] ↔ ∃ front, language front ∧ text = front ++ rest
  first : tokens.head? ≠ some .leadingStars

theorem takes_nil : Takes [] (· = []) where
  leaves := by simp [restsOfAll, eq_comm]
  first := by simp

theorem takes_single {token : Token} {language : Bytes → Prop} (other : token ≠ .leadingStars)
    (leaves : ∀ text rest, rest ∈ token.rests text ↔ ∃ front, language front ∧ text = front ++ rest) :
    Takes [token] language where
  leaves text rest := by
    rw [mem_restsOfAll_cons, ← leaves]
    simp [restsOfAll]
  first same := other (Option.some.inj same)

theorem Takes.cons {token : Token} {tokens : List Token} {first language : Bytes → Prop} (one : Takes [token] first)
    (takes : Takes tokens language) :
    Takes (token :: tokens) fun text => ∃ front back, first front ∧ language back ∧ text = front ++ back where
  leaves text rest := by
    have single : ∀ next, next ∈ token.rests text ↔ ∃ front, first front ∧ text = front ++ next := fun next => by
      rw [← one.leaves, mem_restsOfAll_cons]
      simp [restsOfAll]
    rw [mem_restsOfAll_cons]
    constructor
    · rintro ⟨next, left, among⟩
      obtain ⟨front, isFirst, rfl⟩ := (single next).mp left
      obtain ⟨back, isBack, rfl⟩ := (takes.leaves next rest).mp among
      exact ⟨front ++ back, ⟨front, back, isFirst, isBack, rfl⟩, (List.append_assoc ..).symm⟩
    · rintro ⟨_, ⟨front, back, isFirst, isBack, rfl⟩, rfl⟩
      exact ⟨back ++ rest, (single _).mpr ⟨front, isFirst, List.append_assoc ..⟩,
        (takes.leaves _ _).mpr ⟨back, isBack, rfl⟩⟩
  first := one.first

theorem Takes.congr {tokens : List Token} {language language' : Bytes → Prop} (takes : Takes tokens language)
    (same : ∀ text, language text ↔ language' text) : Takes tokens language' where
  leaves text rest := by simp only [takes.leaves, same]
  first := takes.first

/-- Tokens match the texts that they stand for. -/
theorem Takes.isMatch_iff {tokens : List Token} {language : Bytes → Prop} (takes : Takes tokens language) (name : Bytes) :
    isMatch tokens name = true ↔ language name := by
  have leaves : [] ∈ restsOfAll tokens [name] ↔ language name := by
    rw [takes.leaves]
    simp
  rw [← leaves, isMatch]
  · simp
  · rintro rfl
    exact takes.first rfl

theorem mem_behindBytes {bytes text rest : Bytes} : rest ∈ behindBytes bytes text ↔ text = bytes ++ rest := by
  induction bytes generalizing text with
  | nil => simp [behindBytes, eq_comm]
  | cons b bytes ih =>
    cases text with
    | nil => simp [behindBytes]
    | cons first text =>
      rw [behindBytes]
      split
      · rename_i same
        rw [ih, List.cons_append, same, List.cons.injEq, and_iff_right rfl]
      · rename_i other
        simp [Ne.symm other]

theorem mem_behindByte {takes : UInt8 → Bool} {text rest : Bytes} :
    rest ∈ behindByte takes text ↔ ∃ b, takes b = true ∧ text = b :: rest := by
  cases text with
  | nil => simp [behindByte]
  | cons b text =>
    rw [behindByte]
    split
    · rename_i taken
      constructor
      · intro among
        exact ⟨b, taken, by rw [List.mem_singleton.mp among]⟩
      · rintro ⟨_, _, same⟩
        exact List.mem_singleton.mpr (List.cons.inj same).2.symm
    · rename_i left
      refine ⟨fun among => absurd among List.not_mem_nil, ?_⟩
      rintro ⟨first, taken, same⟩
      exact absurd ((List.cons.inj same).1 ▸ taken) left

/-- A run has no separators, and can end anywhere. -/
theorem mem_behindRun {text rest : Bytes} :
    rest ∈ behindRun text ↔ ∃ run, text = run ++ rest ∧ separator ∉ run := by
  induction text with
  | nil =>
    rw [behindRun, List.mem_singleton]
    constructor
    · rintro rfl
      exact ⟨[], rfl, List.not_mem_nil⟩
    · rintro ⟨run, none, _⟩
      exact (List.append_eq_nil_iff.mp none.symm).2
  | cons b text ih =>
    -- the run stops in front of the first byte, or takes it
    have behind : (∃ run, b :: text = run ++ rest ∧ separator ∉ run) ↔
        rest = b :: text ∨ b ≠ separator ∧ ∃ run, text = run ++ rest ∧ separator ∉ run := by
      constructor
      · rintro ⟨run, split, whole⟩
        cases run with
        | nil => exact .inl split.symm
        | cons first run =>
          obtain ⟨rfl, rfl⟩ := List.cons.inj split
          exact .inr ⟨fun same => whole (same ▸ List.mem_cons_self), run, rfl, fun inside =>
            whole (List.mem_cons_of_mem _ inside)⟩
      · rintro (rfl | ⟨other, run, rfl, whole⟩)
        · exact ⟨[], rfl, List.not_mem_nil⟩
        · exact ⟨b :: run, rfl, List.not_mem_cons_of_ne_of_not_mem other.symm whole⟩
    rw [behind, behindRun]
    split
    · rename_i same
      simp [same]
    · rename_i other
      rw [List.mem_cons, ih]
      simp [other]

/-- A character takes the bytes that it is written with. -/
theorem takes_ofChar (c : Char) : Takes [.ofChar c] (· = Utf8.encodeChar c) :=
  takes_single (by simp [Token.ofChar]) fun text rest => by simp [Token.ofChar, Token.rests, mem_behindBytes]

theorem takes_any : Takes [.any] fun text => ∃ b, b ≠ separator ∧ text = [b] :=
  takes_single (by simp) fun text rest => by
    rw [Token.rests, mem_behindByte]
    simp only [bne_iff_ne]
    constructor
    · rintro ⟨b, other, rfl⟩
      exact ⟨[b], ⟨b, other, rfl⟩, rfl⟩
    · rintro ⟨_, ⟨b, other, rfl⟩, rfl⟩
      exact ⟨b, other, rfl⟩

theorem takes_star : Takes [.star] fun text => separator ∉ text :=
  takes_single (by simp) fun text rest => by
    rw [Token.rests, mem_behindRun]
    simp only [and_comm]

/-- The class of a special character takes that character. -/
theorem takes_class {c : Char} (special : c ∈ ['?', '*', '[', ']', '\x7b', '\x7d']) :
    Takes [.oneOf false (byteRanges c c)] (· = Utf8.encodeChar c) := by
  have single : ∃ b, Utf8.encodeChar c = [b] ∧ byteRanges c c = [(b, b)] := by
    simp only [List.mem_cons, List.not_mem_nil, or_false] at special
    rcases special with rfl | rfl | rfl | rfl | rfl | rfl <;> exact ⟨_, rfl, rfl⟩
  obtain ⟨b, written, ranges⟩ := single
  refine takes_single (by simp) fun text rest => ?_
  rw [Token.rests, mem_behindByte, ranges, written]
  constructor
  · rintro ⟨other, inside, rfl⟩
    have inside : b ≤ other ∧ other ≤ b := by simpa [inRanges] using inside
    exact ⟨[b], rfl, by rw [UInt8.le_antisymm inside.2 inside.1]; rfl⟩
  · rintro ⟨_, rfl, rfl⟩
    exact ⟨b, by simp [inRanges], rfl⟩

end CompanionStyles.Glob
