import CompanionStyles.Proofs.Glob.Escaped
import CompanionStyles.Proofs.Glob.Matching
import CompanionStyles.Proofs.Text.Encoding

/-!
What globs of escaped texts match. Every character stands for itself there but the backslash, which is left out in
front of a character without a meaning of its own. In front of another one it takes the bracket that the character was
escaped with, so that the character has its meaning again.
-/

namespace CompanionStyles.Glob

/-- What a character with a meaning of its own stands for by itself, if it opens and closes nothing. -/
inductive Means : Char → Bytes → Prop
  | any {b : UInt8} (other : b ≠ separator) : Means '?' [b]
  | run {bytes : Bytes} (whole : separator ∉ bytes) : Means '*' bytes
  | bracket : Means ']' (Utf8.encodeChar ']')

/-- What a backslash and an escaped character behind it stand for. -/
inductive TakenAs : Char → Bytes → Prop
  | ordinary {c : Char} (plain : c ∉ ['?', '*', '[', ']', '\x7b', '\x7d']) : TakenAs c (Utf8.encodeChar c)
  | special {c : Char} {bytes : Bytes} (means : Means c bytes) :
      TakenAs c (Utf8.encodeChar '[' ++ (bytes ++ Utf8.encodeChar ']'))

/-- What an escaped text stands for in front of what stands for `behind`, or for `taken` where a backslash takes its
first character. The flag tells whether a backslash stands in front of the text. -/
def Stands (behind taken : Bytes → Prop) : Bool → List Char → Bytes → Prop
  | false, [], bytes => behind bytes
  | true, [], bytes => taken bytes
  | false, c :: text, bytes =>
    if c = '\\' then Stands behind taken true text bytes
    else ∃ front back, front = Utf8.encodeChar c ∧ Stands behind taken false text back ∧ bytes = front ++ back
  | true, c :: text, bytes =>
    ∃ front back, TakenAs c front ∧ Stands behind taken false text back ∧ bytes = front ++ back

/-- What an escaped text stands for by itself; a backslash at its end stands for nothing. -/
def StandsAlone (text : List Char) (bytes : Bytes) : Prop :=
  Stands (· = []) (fun _ => False) false text bytes

/-- What the glob of a stem and an extension stands for: any run between the two, or the star itself where a backslash
at the end of the stem takes it. -/
def StandsBetween (stem extension : List Char) (bytes : Bytes) : Prop :=
  Stands (fun bytes => ∃ run last, separator ∉ run ∧ StandsAlone extension last ∧ bytes = run ++ last)
    (fun bytes => ∃ star last, star = Utf8.encodeChar '*' ∧ StandsAlone extension last ∧ bytes = star ++ last)
    false stem bytes

/-- Behind a backslash, an escaped character reads as what the two stand for. -/
theorem reads_takenAs {c : Char} {text : List Char} {tokens : List Token} {language : Bytes → Prop}
    (opens : c ≠ '[' ∧ c ≠ '\x7b' ∧ c ≠ '\x7d') (reads : Reads text tokens) (takes : Takes tokens language) :
    ∃ tokens, Reads ('\\' :: (escape [c] ++ text)) tokens ∧ Takes tokens fun bytes =>
      ∃ front back, TakenAs c front ∧ language back ∧ bytes = front ++ back := by
  by_cases special : c ∈ ['?', '*', '[', ']', '\x7b', '\x7d']
  · have closed := reads.literal (by decide : ']' ∉ _)
    -- the backslash takes the bracket in front of the character, which then stands alone
    have behind (token : Token) (readsOwn : Reads (c :: ']' :: text) (token :: .ofChar ']' :: tokens))
        (means : Takes [token] (Means c)) : ∃ tokens, Reads ('\\' :: (escape [c] ++ text)) tokens
          ∧ Takes tokens fun bytes => ∃ front back, TakenAs c front ∧ language back ∧ bytes = front ++ back := by
      refine ⟨_, by rw [escape_cons_of_special special]; exact readsOwn.taken '[',
        ((takes_ofChar '[').cons (means.cons ((takes_ofChar ']').cons takes))).congr fun bytes => ?_⟩
      constructor
      · rintro ⟨_, _, rfl, ⟨own, _, means, ⟨_, back, rfl, follows, rfl⟩, rfl⟩, rfl⟩
        exact ⟨_, back, .special means, follows, by simp⟩
      · rintro ⟨_, back, taken, follows, rfl⟩
        cases taken with
        | ordinary plain => exact absurd special plain
        | @special bytes means =>
          exact ⟨_, _, rfl, ⟨bytes, _, means, ⟨_, back, rfl, follows, rfl⟩, rfl⟩, by simp⟩
    have marks : c = '?' ∨ c = '*' ∨ c = ']' := by simpa [opens] using special
    rcases marks with rfl | rfl | rfl
    · refine behind .any closed.any (takes_any.congr fun bytes => ⟨?_, fun means => ?_⟩)
      · rintro ⟨b, other, rfl⟩
        exact .any other
      · cases means with
        | any other => exact ⟨_, other, rfl⟩
    · refine behind .star (closed.star (by simp)) (takes_star.congr fun bytes => ⟨.run, fun means => ?_⟩)
      cases means with
      | run whole => exact whole
    · refine behind (.ofChar ']') (closed.literal (by decide)) ((takes_ofChar ']').congr fun bytes => ⟨?_, fun means => ?_⟩)
      · rintro rfl
        exact .bracket
      · cases means with
        | bracket => rfl
  · refine ⟨_, by rw [escape_cons_of_plain special]; exact reads.taken c,
      ((takes_ofChar c).cons takes).congr fun bytes => ?_⟩
    constructor
    · rintro ⟨_, back, rfl, follows, rfl⟩
      exact ⟨_, back, .ordinary special, follows, rfl⟩
    · rintro ⟨_, back, taken, follows, rfl⟩
      cases taken with
      | ordinary plain => exact ⟨_, back, rfl, follows, rfl⟩
      | special means => cases means <;> exact absurd (by decide) special

/-- An escaped character reads as itself. -/
theorem reads_escaped {c : Char} {text : List Char} {tokens : List Token} {language : Bytes → Prop} (other : c ≠ '\\')
    (reads : Reads text tokens) (takes : Takes tokens language) :
    ∃ tokens, Reads (escape [c] ++ text) tokens ∧ Takes tokens fun bytes =>
      ∃ front back, front = Utf8.encodeChar c ∧ language back ∧ bytes = front ++ back := by
  by_cases special : c ∈ ['?', '*', '[', ']', '\x7b', '\x7d']
  · exact ⟨_, by rw [escape_cons_of_special special]; exact reads.bracketed special, (takes_class special).cons takes⟩
  · have plain : c ∉ ['?', '*', '[', '\x7b', '\x7d', '\\'] := by
      simp only [List.mem_cons, List.not_mem_nil, or_false, not_or] at special ⊢
      exact ⟨special.1, special.2.1, special.2.2.1, special.2.2.2.2.1, special.2.2.2.2.2, other⟩
    exact ⟨_, by rw [escape_cons_of_plain special]; exact reads.literal plain, (takes_ofChar c).cons takes⟩

/-- Escaped texts read as what they stand for where what follows them does, also behind a backslash. -/
theorem reads_escape_append {behind taken : Bytes → Prop} (more tail : List Char)
    (base : takesPlain false more = true → ∃ tokens, Reads tail tokens ∧ Takes tokens behind)
    (baseTaken : takesPlain true more = true → ∃ tokens, Reads ('\\' :: tail) tokens ∧ Takes tokens taken)
    (text : List Char) :
    (takesPlain false (text ++ more) = true →
      ∃ tokens, Reads (escape text ++ tail) tokens ∧ Takes tokens (Stands behind taken false text))
    ∧ (takesPlain true (text ++ more) = true →
      ∃ tokens, Reads ('\\' :: (escape text ++ tail)) tokens ∧ Takes tokens (Stands behind taken true text)) := by
  induction text with
  | nil => exact ⟨base, baseTaken⟩
  | cons c text ih =>
    have parts : escape ([c] ++ text) = escape [c] ++ escape text := List.flatMap_append
    have split : escape (c :: text) ++ tail = escape [c] ++ (escape text ++ tail) := by
      rw [← List.append_assoc, ← parts, List.singleton_append]
    rw [split]
    constructor
    · intro plain
      rw [List.cons_append, takesPlain] at plain
      by_cases backslash : c = '\\'
      · rw [backslash] at plain ⊢
        exact ih.2 plain
      · rw [decide_eq_false backslash] at plain
        obtain ⟨tokens, reads, takes⟩ := ih.1 plain
        obtain ⟨tokens, reads, takes⟩ := reads_escaped backslash reads takes
        exact ⟨tokens, reads, takes.congr fun bytes => by rw [Stands, if_neg backslash]⟩
    · intro plain
      simp only [List.cons_append, takesPlain, Bool.and_eq_true, decide_eq_true_eq] at plain
      obtain ⟨⟨⟨opening, group⟩, closing⟩, plain⟩ := plain
      obtain ⟨tokens, reads, takes⟩ := ih.1 plain
      exact reads_takenAs ⟨opening, group, closing⟩ reads takes

/-- The glob of a stem and an extension reads as a pattern if no backslash of theirs takes a bracket that opens or
closes something, or nothing; it then matches what the two stand for. -/
theorem isMatch_extensionGlob {stem extension : List Char} (plain : takesPlain false (stem ++ '*' :: extension) = true) :
    ∃ tokens, parse (Style.extensionGlob stem extension) = .ok tokens
      ∧ ∀ name, isMatch tokens name = true ↔ StandsBetween stem extension name := by
  have last : takesPlain false extension = true →
      ∃ tokens, Reads (escape extension) tokens ∧ Takes tokens (StandsAlone extension) := by
    have reads := (@reads_escape_append (· = []) (fun _ => False) [] [] (fun _ => ⟨_, reads_nil, takes_nil⟩)
      (fun none => absurd none (by decide)) extension).1
    rwa [List.append_nil, List.append_nil] at reads
  obtain ⟨tokens, reads, takes⟩ := (reads_escape_append ('*' :: extension) ('*' :: escape extension)
    (fun plain => by
      obtain ⟨tokens, reads, takes⟩ := last (by simpa [takesPlain] using plain)
      exact ⟨_, reads.star (head?_escape_ne_star extension), takes_star.cons takes⟩)
    (fun plain => by
      obtain ⟨tokens, reads, takes⟩ := last (by simpa [takesPlain] using plain)
      exact ⟨_, reads.taken '*', (takes_ofChar '*').cons takes⟩) stem).1 plain
  exact ⟨tokens, reads.parse, takes.isMatch_iff⟩

/-- Each backslash of a text takes a character without a meaning of its own, and the literal text is what is left
when these backslashes are left out. -/
inductive Unescaped : List Char → List Char → Prop
  | nil : Unescaped [] []
  | plain {c : Char} {text literal : List Char} (other : c ≠ '\\') (rest : Unescaped text literal) :
      Unescaped (c :: text) (c :: literal)
  | taken {c : Char} {text literal : List Char} (ordinary : c ∉ ['?', '*', '[', ']', '\x7b', '\x7d'])
      (rest : Unescaped text literal) : Unescaped ('\\' :: c :: text) (c :: literal)

theorem unescaped_self {text : List Char} (none : '\\' ∉ text) : Unescaped text text := by
  induction text with
  | nil => exact .nil
  | cons c text ih =>
    exact .plain (Ne.symm (List.ne_of_not_mem_cons none)) (ih (List.not_mem_of_not_mem_cons none))

theorem Unescaped.takesPlain_append {text literal : List Char} (unescaped : Unescaped text literal) (more : List Char) :
    takesPlain false (text ++ more) = takesPlain false more := by
  induction unescaped with
  | nil => rfl
  | plain other rest ih => rw [List.cons_append, takesPlain, decide_eq_false other, ih]
  | taken ordinary rest ih =>
    simp only [List.mem_cons, List.not_mem_nil, or_false, not_or] at ordinary
    simp [takesPlain, ordinary, ih]

/-- A text stands for its literal text. -/
theorem Unescaped.stands_iff {text literal : List Char} (unescaped : Unescaped text literal) {behind taken : Bytes → Prop}
    {bytes : Bytes} :
    Stands behind taken false text bytes ↔ ∃ back, behind back ∧ bytes = Utf8.encode literal ++ back := by
  induction unescaped generalizing bytes with
  | nil => simp [Stands, Utf8.encode]
  | @plain c text literal other rest ih =>
    rw [Stands, if_neg other]
    simp only [ih]
    constructor
    · rintro ⟨_, _, rfl, ⟨back, follows, rfl⟩, rfl⟩
      exact ⟨back, follows, (List.append_assoc ..).symm⟩
    · rintro ⟨back, follows, rfl⟩
      exact ⟨_, _, rfl, ⟨back, follows, rfl⟩, List.append_assoc ..⟩
  | @taken c text literal ordinary rest ih =>
    rw [Stands, if_pos rfl, Stands]
    simp only [ih]
    constructor
    · rintro ⟨_, _, taken, ⟨back, follows, rfl⟩, rfl⟩
      cases taken with
      | ordinary => exact ⟨back, follows, (List.append_assoc ..).symm⟩
      | special means => cases means <;> exact absurd (by decide) ordinary
    · rintro ⟨back, follows, rfl⟩
      exact ⟨_, _, .ordinary ordinary, ⟨back, follows, rfl⟩, List.append_assoc ..⟩

/-- Literal texts stand for the names that start with the one and end with the other. -/
theorem Unescaped.standsBetween_iff {stem first extension last : List Char} (unescaped : Unescaped stem first)
    (unescaped' : Unescaped extension last) {name : List Char} (whole : separator ∉ Utf8.encode name) :
    StandsBetween stem extension (Utf8.encode name) ↔ ∃ between, name = first ++ (between ++ last) := by
  rw [StandsBetween, unescaped.stands_iff]
  simp only [StandsAlone, unescaped'.stands_iff]
  constructor
  · rintro ⟨_, ⟨run, _, _, ⟨_, rfl, rfl⟩, rfl⟩, split⟩
    rw [List.append_nil] at split
    obtain ⟨rest, rfl, written⟩ := Utf8.encode_eq_encode_append split
    obtain ⟨between, ending, rfl, _, same⟩ :=
      Utf8.encode_eq_append written.symm fun b => Utf8.isTail_of_head?_encode
    exact ⟨between, by rw [Utf8.encode_inj same]⟩
  · rintro ⟨between, rfl⟩
    rw [Utf8.encode_append, Utf8.encode_append] at whole ⊢
    exact ⟨_, ⟨Utf8.encode between, _, fun inside => whole (List.mem_append_right _ (List.mem_append_left _ inside)),
      ⟨[], rfl, rfl⟩, rfl⟩, by rw [List.append_nil]⟩

end CompanionStyles.Glob
