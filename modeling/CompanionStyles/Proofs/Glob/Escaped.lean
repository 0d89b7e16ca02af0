import CompanionStyles.Style.Resolve

/-!
Globs made of escaped texts, read one token after the other. Escaping leaves the backslash alone, which then takes
what follows it.
-/

namespace CompanionStyles.Glob

/-- Whether each backslash of a text takes a character, and none that opens or closes a group or opens a class.
`taken` tells whether a backslash stands in front of the text. -/
def takesPlain : Bool → List Char → Bool
  | taken, [] => !taken
  | true, c :: rest => c ≠ '[' && c ≠ '\x7b' && c ≠ '\x7d' && takesPlain false rest
  | false, c :: rest => takesPlain (c = '\\') rest

/-- A text reads as some tokens from any place outside of groups on. -/
def Reads (text : List Char) (tokens : List Token) : Prop :=
  ∀ fuel previous before, text.length < fuel →
    parseBranch fuel 0 previous before text = .ok (before.reverse ++ tokens, .text, [])

theorem reads_nil : Reads [] [] := by
  intro fuel previous before enough
  rw [List.append_nil]
  cases fuel with
  | zero => exact absurd enough (Nat.not_lt_zero _)
  | succ fuel => rfl

/-- One step of reading takes a token and leaves a rest to read. -/
theorem Reads.of_step {text rest : List Char} {token : Token} {tokens : List Token} (reads : Reads rest tokens)
    (shorter : rest.length < text.length) (step : ∀ fuel previous before, ∃ previous',
      parseBranch (fuel + 1) 0 previous before text = parseBranch fuel 0 previous' (token :: before) rest) :
    Reads text (token :: tokens) := by
  intro fuel previous before enough
  cases fuel with
  | zero => exact absurd enough (Nat.not_lt_zero _)
  | succ fuel =>
    obtain ⟨previous', goes⟩ := step fuel previous before
    rw [goes, reads fuel previous' (token :: before) (by omega), List.reverse_cons, List.append_assoc,
      List.singleton_append]

/-- A backslash takes the next character. -/
theorem Reads.taken {rest : List Char} {tokens : List Token} (reads : Reads rest tokens) (c : Char) :
    Reads ('\\' :: c :: rest) (.ofChar c :: tokens) :=
  reads.of_step (by simp only [List.length_cons]; omega) fun _ _ _ => ⟨_, rfl⟩

theorem Reads.any {rest : List Char} {tokens : List Token} (reads : Reads rest tokens) :
    Reads ('?' :: rest) (.any :: tokens) :=
  reads.of_step (by simp) fun _ _ _ => ⟨_, rfl⟩

theorem Reads.star {rest : List Char} {tokens : List Token} (reads : Reads rest tokens)
    (single : rest.head? ≠ some '*') : Reads ('*' :: rest) (.star :: tokens) := by
  refine reads.of_step (by simp) fun fuel previous before => ⟨some '*', ?_⟩
  rw [parseBranch]
  rintro others rfl
  exact single rfl

/-- A character that has no meaning of its own stands for itself. -/
theorem Reads.literal {rest : List Char} {tokens : List Token} (reads : Reads rest tokens) {c : Char}
    (plain : c ∉ ['?', '*', '[', '\x7b', '\x7d', '\\']) : Reads (c :: rest) (.ofChar c :: tokens) := by
  refine reads.of_step (by simp) fun fuel previous before => ⟨some c, ?_⟩
  by_cases comma : c = ','
  · rw [comma]
    rfl
  · simp only [List.mem_cons, List.not_mem_nil, or_false, not_or] at plain
    obtain ⟨any, star, opening, group, closing, backslash⟩ := plain
    rw [parseBranch] <;> assumption

/-- A character in brackets reads as a class of its own. -/
theorem Reads.bracketed {rest : List Char} {tokens : List Token} (reads : Reads rest tokens) {c : Char}
    (special : c ∈ ['?', '*', '[', ']', '\x7b', '\x7d']) :
    Reads ('[' :: c :: ']' :: rest) (.oneOf false (byteRanges c c) :: tokens) := by
  have single : parseClass (c :: ']' :: rest) = .ok (.oneOf false (byteRanges c c), rest) := by
    simp only [List.mem_cons, List.not_mem_nil, or_false] at special
    rcases special with rfl | rfl | rfl | rfl | rfl | rfl <;> rfl
  refine reads.of_step (by simp only [List.length_cons]; omega) fun fuel previous before => ⟨some ']', ?_⟩
  rw [parseBranch, single]
  rfl

theorem Reads.parse {text : List Char} {tokens : List Token} (reads : Reads text tokens) : parse text = .ok tokens := by
  rw [Glob.parse, reads (2 * text.length + 2) none [] (by omega)]
  rfl

theorem escape_cons_of_special {c : Char} (special : c ∈ ['?', '*', '[', ']', '\x7b', '\x7d']) (text : List Char) :
    escape (c :: text) = '[' :: c :: ']' :: escape text := by
  simp only [List.mem_cons, List.not_mem_nil, or_false] at special
  rw [escape, List.flatMap_cons, if_pos special]
  rfl

theorem escape_cons_of_plain {c : Char} (plain : c ∉ ['?', '*', '[', ']', '\x7b', '\x7d']) (text : List Char) :
    escape (c :: text) = c :: escape text := by
  simp only [List.mem_cons, List.not_mem_nil, or_false] at plain
  rw [escape, List.flatMap_cons, if_neg plain]
  rfl

theorem head?_escape_ne_star (text : List Char) : (escape text).head? ≠ some '*' := by
  cases text with
  | nil => simp [escape]
  | cons c text =>
    by_cases special : c ∈ ['?', '*', '[', ']', '\x7b', '\x7d']
    · rw [escape_cons_of_special special]
      simp
    · rw [escape_cons_of_plain special]
      rintro same
      obtain rfl := Option.some.inj same
      exact absurd special (by decide)

end CompanionStyles.Glob
