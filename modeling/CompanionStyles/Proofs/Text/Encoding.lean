import CompanionStyles.Proofs.Text.Utf8

/-!
Reading text from bytes. What is decoded is exactly what is encoded, so bytes are text in one way at most, and they
can be cut in two texts wherever no character is cut. Bytes that are no text are still read apart on both sides of a
byte below 0x80.
-/

namespace CompanionStyles.Utf8

theorem isTail_iff {b : UInt8} : isTail b = true ↔ 0x80 ≤ b.toNat ∧ b.toNat < 0xC0 := by
  simp [isTail]

/-- The byte behind a leading one is one of those that follow, with four exceptions. -/
theorem secondRange_iff {lead n : Nat} : (secondRange lead).1 ≤ n ∧ n ≤ (secondRange lead).2 ↔
    0x80 ≤ n ∧ n < 0xC0 ∧ (lead = 0xE0 → 0xA0 ≤ n) ∧ (lead = 0xED → n < 0xA0) ∧ (lead = 0xF0 → 0x90 ≤ n)
      ∧ (lead = 0xF4 → n < 0x90) := by
  unfold secondRange
  repeat' split
  all_goals simp only; omega

/-- The last digit of six bits, and those in front of it. -/
theorem sixBits {n more last : Nat} (value : n = more * 64 + last) (small : last < 64) :
    n / 64 = more ∧ n % 64 = last := by
  omega

/-- The bytes that a character is written with: its value in digits of six bits, the least number of them. -/
inductive Encodes (c : Char) : Bytes → Prop
  | one {lead : UInt8} (low : lead.toNat < 0x80) (value : c.toNat = lead.toNat) : Encodes c [lead]
  | two {lead first : UInt8} (above : 0xC2 ≤ lead.toNat) (below : lead.toNat < 0xE0) (tail : isTail first = true)
      (value : c.toNat = (lead.toNat - 0xC0) * 64 + (first.toNat - 0x80)) : Encodes c [lead, first]
  | three {lead first second : UInt8} (above : 0xE0 ≤ lead.toNat) (below : lead.toNat < 0xF0)
      (fits : (secondRange lead.toNat).1 ≤ first.toNat ∧ first.toNat ≤ (secondRange lead.toNat).2)
      (tail : isTail second = true)
      (value : c.toNat = (lead.toNat - 0xE0) * 4096 + (first.toNat - 0x80) * 64 + (second.toNat - 0x80)) :
      Encodes c [lead, first, second]
  | four {lead first second third : UInt8} (above : 0xF0 ≤ lead.toNat) (below : lead.toNat < 0xF5)
      (fits : (secondRange lead.toNat).1 ≤ first.toNat ∧ first.toNat ≤ (secondRange lead.toNat).2)
      (tail : isTail second = true) (tail' : isTail third = true)
      (value : c.toNat = (lead.toNat - 0xF0) * 262144 + (first.toNat - 0x80) * 4096 + (second.toNat - 0x80) * 64
        + (third.toNat - 0x80)) : Encodes c [lead, first, second, third]

theorem encodes_encodeChar (c : Char) : Encodes c (encodeChar c) := by
  have valid : c.toNat < 0xD800 ∨ 0xDFFF < c.toNat ∧ c.toNat < 0x110000 := c.valid
  unfold encodeChar
  dsimp only
  split
  · exact .one (by simp; omega) (by simp; omega)
  · split
    · exact .two (by simp; omega) (by simp; omega) (isTail_iff.mpr (by simp; omega)) (by simp; omega)
    · split
      · exact .three (by simp; omega) (by simp; omega) (secondRange_iff.mpr (by simp; omega))
          (isTail_iff.mpr (by simp; omega)) (by simp; omega)
      · exact .four (by simp; omega) (by simp; omega) (secondRange_iff.mpr (by simp; omega))
          (isTail_iff.mpr (by simp; omega)) (isTail_iff.mpr (by simp; omega)) (by simp; omega)

/-- Only the first byte of a character does not follow another one. -/
theorem exists_encodeChar_eq (c : Char) :
    ∃ lead tails, encodeChar c = lead :: tails ∧ isTail lead = false ∧ ∀ b ∈ tails, isTail b = true := by
  have follows : ∀ {lead first : Nat}, (secondRange lead).1 ≤ first ∧ first ≤ (secondRange lead).2 →
      0x80 ≤ first ∧ first < 0xC0 := fun fits => ⟨(secondRange_iff.mp fits).1, (secondRange_iff.mp fits).2.1⟩
  have leads : ∀ {lead : UInt8}, lead.toNat < 0x80 ∨ 0xC0 ≤ lead.toNat → isTail lead = false := fun apart => by
    rw [Bool.eq_false_iff, ne_eq, isTail_iff]
    omega
  have encodes := encodes_encodeChar c
  generalize encodeChar c = bytes at encodes
  cases encodes with
  | one low value => exact ⟨_, [], rfl, leads (.inl low), List.forall_mem_nil _⟩
  | two above below tail value => exact ⟨_, [_], rfl, leads (.inr (by omega)), by simpa using tail⟩
  | three above below fits tail value =>
    exact ⟨_, [_, _], rfl, leads (.inr (by omega)), by simpa using ⟨isTail_iff.mpr (follows fits), tail⟩⟩
  | four above below fits tail tail' value =>
    exact ⟨_, [_, _, _], rfl, leads (.inr (by omega)), by simpa using ⟨isTail_iff.mpr (follows fits), tail, tail'⟩⟩

/-- A character is written in one way. -/
theorem Encodes.eq {c : Char} {bytes : Bytes} (encodes : Encodes c bytes) : encodeChar c = bytes := by
  cases encodes with
  | one low value =>
    rw [encodeChar, if_pos (by omega)]
    exact congrArg (· :: []) (UInt8.toNat_inj.mp (by simp; omega))
  | @two lead first above below tail value =>
    have tail := isTail_iff.mp tail
    rw [encodeChar, if_neg (by omega), if_pos (by omega)]
    simp only [List.cons.injEq, and_true, ← UInt8.toNat_inj, UInt8.toNat_ofNat']
    simp
    omega
  | @three lead first second above below fits tail value =>
    have tail := isTail_iff.mp tail
    have fits := secondRange_iff.mp fits
    rw [encodeChar, if_neg (by omega), if_neg (by omega), if_pos (by omega)]
    obtain ⟨more, last⟩ := sixBits (n := c.toNat)
      (show _ = ((lead.toNat - 0xE0) * 64 + (first.toNat - 0x80)) * 64 + (second.toNat - 0x80) by omega) (by omega)
    obtain ⟨front, middle⟩ := sixBits more (by omega)
    have high : c.toNat / 4096 = c.toNat / 64 / 64 := by rw [Nat.div_div_eq_div_mul]
    clear value
    simp only [List.cons.injEq, and_true, ← UInt8.toNat_inj, UInt8.toNat_ofNat', Nat.pow_zero, Nat.pow_one, Nat.div_one,
      Nat.pow_eq]
    rw [high, front, middle, last]
    omega
  | @four lead first second third above below fits tail tail' value =>
    have tail := isTail_iff.mp tail
    have tail' := isTail_iff.mp tail'
    have fits := secondRange_iff.mp fits
    rw [encodeChar, if_neg (by omega), if_neg (by omega), if_neg (by omega)]
    obtain ⟨more, last⟩ := sixBits (n := c.toNat)
      (show _ = (((lead.toNat - 0xF0) * 64 + (first.toNat - 0x80)) * 64 + (second.toNat - 0x80)) * 64
        + (third.toNat - 0x80) by omega) (by omega)
    obtain ⟨more', middle⟩ := sixBits more (by omega)
    obtain ⟨front, middle'⟩ := sixBits more' (by omega)
    have high : c.toNat / 64 ^ 2 = c.toNat / 64 / 64 := by rw [Nat.pow_two, Nat.div_div_eq_div_mul]
    have highest : c.toNat / 262144 = c.toNat / 64 / 64 / 64 := by
      rw [Nat.div_div_eq_div_mul, Nat.div_div_eq_div_mul]
    clear value
    simp only [List.cons.injEq, and_true, ← UInt8.toNat_inj, UInt8.toNat_ofNat', Nat.pow_zero, Nat.pow_one, Nat.div_one,
      Nat.pow_eq]
    rw [highest, front, high, middle', middle, last]
    omega

/-- Reading a character takes the bytes that it is written with. -/
theorem head_of_encodes {c : Char} {lead : UInt8} {tails : Bytes} (encodes : Encodes c (lead :: tails)) (rest : Bytes) :
    head lead (tails ++ rest) = .char c rest := by
  have written : ∀ n : Nat, c.toNat = n → Char.ofNat n = c := fun n same => same ▸ Char.ofNat_toNat c
  cases encodes with
  | one low value =>
    simp only [head, if_pos low, List.nil_append]
    rw [written _ value]
  | two above below tail value =>
    simp only [head, if_neg (show ¬lead.toNat < 0x80 by omega), if_neg (show ¬lead.toNat < 0xC2 by omega),
      if_pos below, List.cons_append, List.nil_append, tail, if_true]
    rw [written _ value]
  | three above below fits tail value =>
    simp only [head, if_neg (show ¬lead.toNat < 0x80 by omega), if_neg (show ¬lead.toNat < 0xC2 by omega),
      if_neg (show ¬lead.toNat < 0xE0 by omega), if_pos below, List.cons_append, List.nil_append, fits.1, fits.2,
      decide_true, Bool.and_self, tail, if_true]
    rw [written _ value]
  | four above below fits tail tail' value =>
    simp only [head, if_neg (show ¬lead.toNat < 0x80 by omega), if_neg (show ¬lead.toNat < 0xC2 by omega),
      if_neg (show ¬lead.toNat < 0xE0 by omega), if_neg (show ¬lead.toNat < 0xF0 by omega), if_pos below,
      List.cons_append, List.nil_append, fits.1, fits.2, decide_true, Bool.and_self, tail, tail', if_true]
    rw [written _ value]

theorem toNat_ofNat {n : Nat} (valid : n.isValidChar) : (Char.ofNat n).toNat = n := by
  rw [Char.ofNat, dif_pos valid]
  rfl

theorem encodes_of_head {c : Char} {lead : UInt8} {rest after : Bytes} (read : head lead rest = .char c after) :
    ∃ tails, rest = tails ++ after ∧ Encodes c (lead :: tails) := by
  have bound := lead.toNat_lt
  unfold head at read
  dsimp only at read
  split at read
  · rename_i low
    obtain ⟨rfl, rfl⟩ := Head.char.inj read
    exact ⟨[], rfl, .one low (toNat_ofNat (.inl (by omega)))⟩
  split at read
  · cases read
  split at read
  · split at read
    · split at read
      · rename_i tail
        have tail' := isTail_iff.mp tail
        obtain ⟨rfl, rfl⟩ := Head.char.inj read
        exact ⟨[_], rfl, .two (by omega) ‹_› tail (toNat_ofNat (.inl (by omega)))⟩
      · cases read
    · cases read
  split at read
  · split at read
    · split at read
      · rename_i fits
        split at read
        · rename_i tail
          simp only [Bool.and_eq_true, decide_eq_true_eq] at fits
          have fits' := secondRange_iff.mp fits
          have tail' := isTail_iff.mp tail
          obtain ⟨rfl, rfl⟩ := Head.char.inj read
          exact ⟨[_, _], rfl, .three (by omega) ‹_› fits tail (toNat_ofNat (by unfold Nat.isValidChar; omega))⟩
        · cases read
      · cases read
    · split at read <;> cases read
    · cases read
  split at read
  · split at read
    · split at read
      · rename_i fits
        split at read
        · rename_i tail
          split at read
          · rename_i tail'
            simp only [Bool.and_eq_true, decide_eq_true_eq] at fits
            have inRange := secondRange_iff.mp fits
            have second := isTail_iff.mp tail
            have third := isTail_iff.mp tail'
            obtain ⟨rfl, rfl⟩ := Head.char.inj read
            exact ⟨[_, _, _], rfl, .four (by omega) ‹_› fits tail tail'
              (toNat_ofNat (by unfold Nat.isValidChar; omega))⟩
          · cases read
        · cases read
      · cases read
    · split at read
      · split at read <;> cases read
      · cases read
    · split at read <;> cases read
    · cases read
  · cases read

/-- Reading is the inverse of writing, a character at a time. -/
theorem head_eq_char_iff {c : Char} {lead : UInt8} {rest after : Bytes} :
    head lead rest = .char c after ↔ lead :: rest = encodeChar c ++ after := by
  constructor
  · intro read
    obtain ⟨tails, rfl, encodes⟩ := encodes_of_head read
    rw [encodes.eq, List.cons_append]
  · intro split
    obtain ⟨first, tails, written, _⟩ := exists_encodeChar_eq c
    rw [written] at split
    obtain ⟨rfl, rfl⟩ := List.cons.inj split
    exact head_of_encodes (written ▸ encodes_encodeChar c) after

theorem runs_encodeChar_append (c : Char) (rest : Bytes) : runs (encodeChar c ++ rest) = .ok c :: runs rest := by
  obtain ⟨lead, tails, written, _⟩ := exists_encodeChar_eq c
  have read : head lead (tails ++ rest) = .char c rest := head_eq_char_iff.mpr (by rw [written, List.cons_append])
  rw [written, List.cons_append, runs, read]
  rfl

theorem runs_encode (text : List Char) : runs (encode text) = text.map .ok := by
  induction text with
  | nil => rw [encode, List.flatMap_nil, runs, List.map_nil]
  | cons c text ih => rw [encode, List.flatMap_cons, runs_encodeChar_append, List.map_cons, ← ih, encode]

/-- Bytes without an invalid run are written text. -/
theorem eq_encode_of_runs {text : List Char} {bytes : Bytes} (read : runs bytes = text.map .ok) :
    bytes = encode text := by
  induction text generalizing bytes with
  | nil =>
    cases bytes with
    | nil => rfl
    | cons lead rest => rw [runs] at read; cases read
  | cons c text ih =>
    cases bytes with
    | nil => rw [runs] at read; cases read
    | cons lead rest =>
      rw [runs, List.map_cons] at read
      obtain ⟨first, others⟩ := List.cons.inj read
      cases parted : head lead rest with
      | invalid after => rw [parted] at first; cases first
      | char c' after =>
        rw [parted] at first others
        obtain rfl := Except.ok.inj first
        rw [head_eq_char_iff.mp parted, encode, List.flatMap_cons, ← encode, ← ih others]
        rfl

theorem mapM_toOption_eq_some_iff {runs : List (Except Bytes Char)} {text : List Char} :
    runs.mapM Except.toOption = some text ↔ runs = text.map .ok := by
  induction runs generalizing text with
  | nil => cases text <;> simp
  | cons run runs ih =>
    rw [List.mapM_cons]
    cases run with
    | error bytes => cases text <;> simp [Except.toOption]
    | ok c =>
      cases text with
      | nil => simp [Except.toOption, Option.bind_eq_some_iff]
      | cons c' text =>
        simp only [Except.toOption, Option.bind_eq_bind, Option.bind_some, Option.bind_eq_some_iff, Option.pure_def,
          Option.some.injEq, List.cons.injEq, List.map_cons, Except.ok.injEq, ih]
        constructor
        · rintro ⟨_, read, rfl, rfl⟩
          exact ⟨rfl, read⟩
        · rintro ⟨rfl, read⟩
          exact ⟨text, read, rfl, rfl⟩

/-- Bytes are text exactly if they are what the text is written with. -/
theorem decode?_eq_some_iff {bytes : Bytes} {text : List Char} : decode? bytes = some text ↔ bytes = encode text := by
  rw [decode?, mapM_toOption_eq_some_iff]
  exact ⟨eq_encode_of_runs, fun same => same ▸ runs_encode text⟩

theorem decode?_encode (text : List Char) : decode? (encode text) = some text :=
  decode?_eq_some_iff.mpr rfl

theorem decodeLossy_encode (text : List Char) : decodeLossy (encode text) = text := by
  rw [decodeLossy, runs_encode, List.map_map]
  exact List.map_id text

theorem encode_inj {first second : List Char} (same : encode first = encode second) : first = second :=
  Option.some.inj ((decode?_encode first).symm.trans (same ▸ decode?_encode second))

theorem runs_encode_append (front : List Char) (rest : Bytes) :
    runs (encode front ++ rest) = front.map .ok ++ runs rest := by
  induction front with
  | nil => rfl
  | cons c front ih =>
    rw [encode, List.flatMap_cons, List.append_assoc, runs_encodeChar_append, ← encode, ih]
    rfl

/-- What follows the bytes of one text in those of another one is text. -/
theorem encode_eq_encode_append {text front : List Char} {rest : Bytes} (whole : encode text = encode front ++ rest) :
    ∃ back, text = front ++ back ∧ rest = encode back := by
  have read : text.map .ok = front.map .ok ++ runs rest := by
    rw [← runs_encode_append, ← whole, runs_encode]
  obtain ⟨first, back, rfl, same, others⟩ := List.map_eq_append_iff.mp read
  obtain rfl := (List.map_inj_right fun _ _ => Except.ok.inj).mp same
  exact ⟨back, rfl, eq_encode_of_runs others.symm⟩

/-- A character below 0x80 is written with one byte of its value, and no other one starts with such a byte. -/
theorem Encodes.low_iff {c : Char} {lead : UInt8} {tails : Bytes} (encodes : Encodes c (lead :: tails)) :
    c.toNat < 0x80 ∨ lead.toNat < 0x80 ↔ c.toNat = lead.toNat ∧ tails = [] := by
  cases encodes with
  | one low value => exact ⟨fun _ => ⟨value, rfl⟩, fun _ => .inr low⟩
  | two above below tail value =>
    have tail := isTail_iff.mp tail
    exact ⟨by omega, by simp⟩
  | three above below fits tail value =>
    have fits := secondRange_iff.mp fits
    exact ⟨by omega, by simp⟩
  | four above below fits tail tail' value =>
    have fits := secondRange_iff.mp fits
    exact ⟨by omega, by simp⟩

theorem head?_encode_eq_some_iff {text : List Char} {b : UInt8} (low : b.toNat < 0x80) :
    (encode text).head? = some b ↔ ∃ c, text.head? = some c ∧ c.toNat = b.toNat := by
  cases text with
  | nil => simp [encode]
  | cons c text =>
    obtain ⟨lead, tails, written, _⟩ := exists_encodeChar_eq c
    have encodes := written ▸ encodes_encodeChar c
    rw [encode, List.flatMap_cons, written]
    simp only [List.cons_append, List.head?_cons, Option.some.injEq, exists_eq_left']
    constructor
    · rintro rfl
      exact (encodes.low_iff.mp (.inr low)).1
    · intro value
      exact UInt8.toNat_inj.mp ((encodes.low_iff.mp (.inl (by omega))).1.symm.trans value)

theorem isTail_of_head?_encode {text : List Char} {b : UInt8} (first : (encode text).head? = some b) :
    isTail b = false := by
  cases text with
  | nil => cases first
  | cons c text =>
    obtain ⟨lead, tails, written, leads, _⟩ := exists_encodeChar_eq c
    rw [encode, List.flatMap_cons, written] at first
    exact Option.some.inj first ▸ leads

/-- A byte below 0x80 stands in what a text is written with only as the character of its value. -/
theorem mem_encode_iff {text : List Char} {b : UInt8} (low : b.toNat < 0x80) :
    b ∈ encode text ↔ ∃ c ∈ text, c.toNat = b.toNat := by
  have written : ∀ c, b ∈ encodeChar c ↔ c.toNat = b.toNat := by
    intro c
    obtain ⟨lead, tails, written, _, follow⟩ := exists_encodeChar_eq c
    have encodes := written ▸ encodes_encodeChar c
    rw [written, List.mem_cons]
    constructor
    · rintro (rfl | inside)
      · exact (encodes.low_iff.mp (.inr low)).1
      · have tail := isTail_iff.mp (follow b inside)
        omega
    · exact fun value => .inl (UInt8.toNat_inj.mp (value.symm.trans (encodes.low_iff.mp (.inl (by omega))).1))
  rw [encode, List.mem_flatMap]
  exact exists_congr fun c => and_congr_right fun _ => written c

theorem head_rest_suffix (lead : UInt8) (rest : Bytes) : (head lead rest).rest <:+ rest := by
  unfold head
  dsimp only
  repeat' split
  all_goals simp [Head.rest, List.suffix_cons_iff]

/-- A character that is read from some bytes is written with some of them. -/
theorem mem_of_mem_runs {bytes : Bytes} {c : Char} (read : .ok c ∈ runs bytes) : ∀ b ∈ encodeChar c, b ∈ bytes := by
  induction bytes using runs.induct with
  | case1 => rw [runs] at read; cases read
  | case2 lead rest ih =>
    have behind : .ok c ∈ runs (head lead rest).rest → ∀ b ∈ encodeChar c, b ∈ lead :: rest := fun later b inside =>
      List.mem_cons_of_mem lead ((head_rest_suffix lead rest).subset (ih later b inside))
    rw [runs] at read
    rcases List.mem_cons.mp read with first | later
    · cases parted : head lead rest with
      | invalid after => rw [parted] at first; cases first
      | char c' after =>
        rw [parted] at first
        obtain rfl := Except.ok.inj first
        rw [head_eq_char_iff.mp parted]
        exact fun b inside => List.mem_append_left after inside
    · exact behind later

/-- A character other than the replacement character is read from bytes only if it is written with some of them. -/
theorem mem_of_mem_decodeLossy {bytes : Bytes} {c : Char} (read : c ∈ decodeLossy bytes) (other : c ≠ '\uFFFD') :
    ∀ b ∈ encodeChar c, b ∈ bytes := by
  obtain ⟨run, among, same⟩ := List.mem_map.mp read
  cases run with
  | error bytes => exact absurd same.symm other
  | ok c' =>
    obtain rfl : c' = c := same
    exact mem_of_mem_runs among

/-- Where no character is cut, bytes of a text are cut in bytes of texts. -/
theorem encode_eq_append {text : List Char} {front back : Bytes} (whole : encode text = front ++ back)
    (uncut : ∀ b ∈ back.head?, isTail b = false) :
    ∃ first second, text = first ++ second ∧ front = encode first ∧ back = encode second := by
  induction text generalizing front with
  | nil =>
    obtain ⟨rfl, rfl⟩ := List.append_eq_nil_iff.mp whole.symm
    exact ⟨[], [], rfl, rfl, rfl⟩
  | cons c text ih =>
    obtain ⟨lead, tails, written, _, follow⟩ := exists_encodeChar_eq c
    have spelled : encode (c :: text) = lead :: (tails ++ encode text) := by
      rw [encode, List.flatMap_cons, ← encode, written, List.cons_append]
    cases front with
    | nil => exact ⟨[], c :: text, rfl, rfl, whole.symm⟩
    | cons b front =>
      rw [spelled, List.cons_append] at whole
      obtain ⟨rfl, same⟩ := List.cons.inj whole
      rcases List.append_eq_append_iff.mp same with ⟨rest, rfl, behind⟩ | ⟨cut, rfl, rfl⟩
      · obtain ⟨first, second, rfl, rfl, rfl⟩ := ih behind
        exact ⟨c :: first, second, rfl, by simp [encode, written], rfl⟩
      · cases cut with
        | nil =>
          refine ⟨[c], text, rfl, by simp [encode, written], rfl⟩
        | cons inside cut =>
          have isTail := follow inside (by simp)
          exact absurd isTail (by rw [uncut inside rfl]; exact Bool.false_ne_true)

/-- What was read of some bytes, if more bytes follow them. -/
def Head.followedBy (more : Bytes) : Head → Head
  | .char c rest => .char c (rest ++ more)
  | .invalid rest => .invalid (rest ++ more)

theorem Head.followedBy_char (more : Bytes) (c : Char) (rest : Bytes) :
    (Head.char c rest).followedBy more = .char c (rest ++ more) :=
  rfl

theorem Head.followedBy_invalid (more rest : Bytes) :
    (Head.invalid rest).followedBy more = .invalid (rest ++ more) :=
  rfl

theorem Head.rest_followedBy (more : Bytes) (read : Head) : (read.followedBy more).rest = read.rest ++ more := by
  cases read <;> rfl

theorem not_second_of_low (lead : UInt8) {b : UInt8} (low : b.toNat < 0x80) : ¬(secondRange lead.toNat).1 ≤ b.toNat := by
  intro second
  unfold secondRange at second
  repeat' split at second
  all_goals simp at second; omega

/-- A byte below 0x80 goes on with no character, and with no invalid run: cases on how many bytes stand in front of
it, up to the three that a leading byte can ask for. -/
theorem head_append {b : UInt8} (low : b.toNat < 0x80) (lead : UInt8) (front back : Bytes) :
    head lead (front ++ b :: back) = (head lead front).followedBy (b :: back) := by
  have notTail : isTail b = false := by
    rw [← Bool.not_eq_true, isTail_iff]
    omega
  have notSecond := not_second_of_low lead low
  rcases front with _ | ⟨x, _ | ⟨y, _ | ⟨z, front⟩⟩⟩
  all_goals rcases back with _ | ⟨x', _ | ⟨y', back⟩⟩
  all_goals simp only [head, List.nil_append, List.cons_append, notTail, notSecond, decide_false, Bool.false_and,
    if_false, Bool.false_eq_true, apply_ite (Head.followedBy _), Head.followedBy_char, Head.followedBy_invalid]

theorem runs_cons (lead : UInt8) (rest : Bytes) : runs (lead :: rest) =
    (match head lead rest with
      | .char c _ => .ok c
      | .invalid after => .error (lead :: rest.take (rest.length - after.length)))
    :: runs (head lead rest).rest :=
  runs.eq_def (lead :: rest)

/-- Bytes are read apart in front of a byte below 0x80. -/
theorem runs_append {b : UInt8} (low : b.toNat < 0x80) (front back : Bytes) :
    runs (front ++ b :: back) = runs front ++ runs (b :: back) := by
  induction front using runs.induct with
  | case1 => rw [List.nil_append, runs, List.nil_append]
  | case2 lead rest ih =>
    have shorter := head_rest_length lead rest
    rw [List.cons_append, runs_cons, head_append low, Head.rest_followedBy, ih, runs_cons lead rest, List.cons_append]
    congr 1
    cases read : head lead rest with
    | char c after => rfl
    | invalid after =>
      rw [read] at shorter
      change after.length ≤ rest.length at shorter
      have taken : (rest ++ b :: back).length - (after ++ b :: back).length = rest.length - after.length := by
        simp only [List.length_append]
        omega
      rw [Head.followedBy_invalid]
      dsimp only
      rw [taken, List.take_append_of_le_length (Nat.sub_le _ _)]

theorem decodeLossy_append {b : UInt8} (low : b.toNat < 0x80) (front back : Bytes) :
    decodeLossy (front ++ b :: back) = decodeLossy front ++ Char.ofNat b.toNat :: decodeLossy back := by
  have read : head b back = .char (Char.ofNat b.toNat) back := by
    simp only [head, if_pos low]
  rw [decodeLossy, runs_append low, runs, read, List.map_append]
  rfl

theorem decodeLossy_eq_nil_iff {bytes : Bytes} : decodeLossy bytes = [] ↔ bytes = [] := by
  cases bytes <;> simp [decodeLossy, runs]

/-- A text that is read from bytes starts with a character below 0x80 exactly if the bytes start with its value. -/
theorem head?_decodeLossy_eq_some_iff (bytes : Bytes) {c : Char} (low : c.toNat < 0x80) :
    (decodeLossy bytes).head? = some c ↔ bytes.head? = some (UInt8.ofNat c.toNat) := by
  have value : (UInt8.ofNat c.toNat).toNat = c.toNat := by
    rw [UInt8.toNat_ofNat']
    omega
  cases bytes with
  | nil => simp [decodeLossy, runs]
  | cons b rest =>
    rw [List.head?_cons, Option.some.injEq]
    constructor
    · intro first
      rw [decodeLossy, runs] at first
      cases read : head b rest with
      | invalid after =>
        rw [read] at first
        obtain rfl : '\uFFFD' = c := Option.some.inj first
        exact absurd low (by decide)
      | char c' after =>
        rw [read] at first
        obtain rfl : c' = c := Option.some.inj first
        obtain ⟨tails, _, encodes⟩ := encodes_of_head read
        exact UInt8.toNat_inj.mp ((encodes.low_iff.mp (.inl low)).1.symm.trans value.symm)
    · rintro rfl
      have whole := decodeLossy_append (value.symm ▸ low) [] rest
      rw [List.nil_append] at whole
      rw [whole, value, Char.ofNat_toNat]
      simp [decodeLossy, runs]

end CompanionStyles.Utf8
