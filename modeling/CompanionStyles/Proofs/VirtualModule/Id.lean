import CompanionStyles.Proofs.Entries
import CompanionStyles.Proofs.Text.Words
import CompanionStyles.VirtualModule.Registry
import Mathlib.Algebra.Group.Nat.Defs

/-!
Ids of virtual modules: an id names the path that it was made for, with or without the mark of resolved
ids, and the registry answers with the last text of that path.
-/

namespace CompanionStyles

namespace Text

theorem hexDigits_length (count n : Nat) : (hexDigits count n).length = count := by
  induction count generalizing n with
  | zero => rfl
  | succ count ih => simp [hexDigits, ih]

theorem hexDigit_inj {a b : Nat} (small : a < 16) (small' : b < 16) (same : hexDigit a = hexDigit b) :
    a = b := by
  have all : ∀ c d : Fin 16, hexDigit c = hexDigit d → c = d := by decide
  exact congrArg Fin.val (all ⟨a, small⟩ ⟨b, small'⟩ same)

/-- A number with few enough digits is determined by them. -/
theorem hexDigits_inj {count a b : Nat} (small : a < 16 ^ count) (small' : b < 16 ^ count)
    (same : hexDigits count a = hexDigits count b) : a = b := by
  induction count generalizing a b with
  | zero => omega
  | succ count ih =>
    rw [Nat.pow_succ] at small small'
    rw [hexDigits, hexDigits] at same
    obtain ⟨high, low⟩ := List.append_inj' same rfl
    have high := ih (Nat.div_lt_of_lt_mul (by omega)) (Nat.div_lt_of_lt_mul (by omega)) high
    have low := hexDigit_inj (Nat.mod_lt a (by omega)) (Nat.mod_lt b (by omega)) (List.cons.inj low).1
    omega

theorem hexDigit_ne_slash {n : Nat} (small : n < 16) : hexDigit n ≠ '/' := by
  have all : ∀ d : Fin 16, hexDigit d ≠ '/' := by decide
  exact all ⟨n, small⟩

theorem slash_not_mem_hexDigits (count n : Nat) : '/' ∉ hexDigits count n := by
  induction count generalizing n with
  | zero => simp [hexDigits]
  | succ count ih =>
    rw [hexDigits, List.mem_append]
    rintro (member | member)
    · exact ih _ member
    · exact hexDigit_ne_slash (Nat.mod_lt n (by omega)) (List.mem_singleton.mp member).symm

end Text

namespace VirtualModule

theorem slash_not_mem_token (path : List Char) (css : Option (List Char)) : '/' ∉ token path css := by
  intro member
  have digits := List.mem_of_mem_take member
  unfold Sha256.hex at digits
  obtain ⟨word, _, member⟩ := List.mem_flatMap.mp digits
  exact Text.slash_not_mem_hexDigits _ _ member

theorem exists_token_eq (path : List Char) (css : Option (List Char)) :
    ∃ word, (Sha256.digest (tokenInput path css)).head? = some word
      ∧ token path css = Text.hexDigits tokenLength word.toNat := by
  obtain ⟨word, others, words⟩ : ∃ word others, Sha256.digest (tokenInput path css) = word :: others := ⟨_, _, rfl⟩
  refine ⟨word, by rw [words, List.head?_cons], ?_⟩
  rw [token, Sha256.hex, words, List.flatMap_cons]
  exact List.take_left' (Text.hexDigits_length _ _)

theorem length_token (path : List Char) (css : Option (List Char)) : (token path css).length = tokenLength := by
  obtain ⟨_, _, digits⟩ := exists_token_eq path css
  rw [digits, Text.hexDigits_length]

theorem token_ne_nil (path : List Char) (css : Option (List Char)) : token path css ≠ [] :=
  List.ne_nil_of_length_eq_add_one (length_token path css)

/-- Tokens are the same if and only if the digests start with the same word. -/
theorem token_eq_iff {path path' : List Char} {css css' : Option (List Char)} :
    token path css = token path' css' ↔
      (Sha256.digest (tokenInput path css)).head? = (Sha256.digest (tokenInput path' css')).head? := by
  obtain ⟨word, first, digits⟩ := exists_token_eq path css
  obtain ⟨word', first', digits'⟩ := exists_token_eq path' css'
  rw [digits, digits', first, first', Option.some.injEq]
  constructor
  · exact fun same => UInt32.toNat_inj.mp (Text.hexDigits_inj word.toNat_lt word'.toNat_lt same)
  · exact fun same => by rw [same]

/-- An id is what it is without the mark, perhaps behind the mark. -/
theorem exists_mark (id : List Char) :
    ∃ mark, (mark = [] ∨ mark = [resolvedMark]) ∧ id = mark ++ withoutMark id := by
  cases id with
  | nil => exact ⟨[], .inl rfl, rfl⟩
  | cons c rest =>
    by_cases marked : c = resolvedMark
    · exact ⟨[resolvedMark], .inr rfl, by rw [withoutMark, if_pos marked, marked]; rfl⟩
    · exact ⟨[], .inl rfl, by rw [withoutMark, if_neg marked]; rfl⟩

theorem withoutMark_append {mark : List Char} (marked : mark = [] ∨ mark = [resolvedMark]) (rest : List Char) :
    withoutMark (mark ++ (idPrefix ++ rest)) = idPrefix ++ rest := by
  rcases marked with rfl | rfl
  · rfl
  · rw [List.singleton_append, withoutMark, if_pos rfl]

/-- An id names a path if it is spelled as ids are: perhaps the mark, the prefix, a token, and the path, with
slashes between them. -/
theorem decodeId_eq_some_iff {id path : List Char} :
    decodeId id = some path ↔ ∃ mark token, (mark = [] ∨ mark = [resolvedMark]) ∧ token ≠ [] ∧ '/' ∉ token
      ∧ path ≠ [] ∧ id = mark ++ (idPrefix ++ '/' :: (token ++ '/' :: path)) := by
  have spelled : ∀ rest, idPrefix ++ '/' :: rest = (idPrefix ++ ['/']) ++ rest := by simp
  unfold decodeId
  constructor
  · intro decoded
    split at decoded
    · cases decoded
    · rename_i rest dropped
      split at decoded
      · cases decoded
      · rename_i token path' split
        split at decoded
        · cases decoded
        · rename_i solid
          obtain rfl := Option.some.inj decoded
          obtain ⟨rfl, clean⟩ := Text.splitFirst?_eq_some_iff.mp split
          obtain ⟨mark, marked, whole⟩ := exists_mark id
          rw [Text.dropFront?_eq_some_iff.mp dropped, ← spelled] at whole
          exact ⟨mark, token, marked, fun empty => solid (.inl empty), clean, fun empty => solid (.inr empty), whole⟩
  · rintro ⟨mark, token, marked, solid, clean, named, rfl⟩
    rw [withoutMark_append marked, spelled (token ++ '/' :: path), Text.dropFront?_eq_some_iff.mpr rfl]
    simp only [Text.splitFirst?_eq_some_iff.mpr ⟨rfl, clean⟩, solid, named, or_self, if_false]

theorem virtualId_eq (path : List Char) (css : Option (List Char)) :
    virtualId path css = idPrefix ++ '/' :: (token path css ++ '/' :: path) := by
  simp [virtualId]

/-- An id with the mark or without it. -/
def Names (id path : List Char) : Prop :=
  ∃ css, id = virtualId path css ∨ id = resolvedMark :: virtualId path css

theorem names_iff {id path : List Char} :
    Names id path ↔ ∃ css mark, (mark = [] ∨ mark = [resolvedMark])
      ∧ id = mark ++ (idPrefix ++ '/' :: (token path css ++ '/' :: path)) := by
  unfold Names
  refine exists_congr fun css => ?_
  rw [virtualId_eq]
  simp

theorem Names.isVirtual {id path : List Char} (names : Names id path) :
    VirtualModule.isVirtual id = true := by
  obtain ⟨css, mark, marked, rfl⟩ := names_iff.mp names
  rw [VirtualModule.isVirtual, withoutMark_append marked, List.isPrefixOf_iff_prefix]
  exact List.prefix_append _ _

/-- The path is read off an id, whatever content the id was made for. -/
theorem Names.decodeId {id path : List Char} (names : Names id path) (named : path ≠ []) :
    VirtualModule.decodeId id = some path := by
  obtain ⟨css, mark, marked, spelled⟩ := names_iff.mp names
  exact decodeId_eq_some_iff.mpr
    ⟨mark, token path css, marked, token_ne_nil path css, slash_not_mem_token path css, named, spelled⟩

theorem Names.decodeId_nil {id : List Char} (names : Names id []) : VirtualModule.decodeId id = none := by
  obtain ⟨css, mark, marked, rfl⟩ := names_iff.mp names
  have spelled : idPrefix ++ '/' :: (token [] css ++ ['/']) = (idPrefix ++ ['/']) ++ (token [] css ++ ['/']) := by
    simp
  have split : Text.splitFirst? '/' (token [] css ++ ['/']) = some (token [] css, []) :=
    Text.splitFirst?_eq_some_iff.mpr ⟨rfl, slash_not_mem_token [] css⟩
  rw [VirtualModule.decodeId, withoutMark_append marked, spelled, Text.dropFront?_eq_some_iff.mpr rfl]
  simp only [split, or_true, if_true]

theorem resolveId_virtualId (path : List Char) (css : Option (List Char)) :
    resolveId (virtualId path css) = some (resolvedMark :: virtualId path css) := by
  have claimed : idPrefix.isPrefixOf (virtualId path css) = true := by
    rw [List.isPrefixOf_iff_prefix, virtualId, List.append_assoc]
    exact List.prefix_append _ _
  rw [resolveId, if_pos claimed]

end VirtualModule

namespace Registry

/-- After a registration its path has the new text, and all other paths what they had. -/
theorem get?_register (r : Registry) (path css other : List Char) :
    (r.register path css).get? other = if other = path then some css else r.get? other := by
  unfold get? register
  rw [Entries.lookup_cons_ite, Entries.lookup_filter_ne]
  by_cases same : other = path <;> simp [same]

/-- Every id that names a path gets the text that is registered for it. -/
theorem resolveContent_names {r : Registry} {id path css : List Char}
    (names : VirtualModule.Names id path) (named : path ≠ []) (found : r.get? path = some css) :
    r.resolveContent id = .ok css := by
  unfold resolveContent
  simp only [names.decodeId named, found]

end Registry

end CompanionStyles
