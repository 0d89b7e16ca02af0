import Mathlib.Data.List.TakeWhile
import CompanionStyles.Manifest

/-!
What words are: the longest runs of a text without blanks, in order. `Text.words` gives them. And where a text is
cut behind a front or at a character.
-/

namespace CompanionStyles.Text

/-- Some texts are the words of a text: blanks stand around them, and nowhere else. -/
inductive HasWords : List Char → List (List Char) → Prop
  | none {text : List Char} (blank : ∀ c ∈ text, isBlank c = true) : HasWords text []
  | next {front word rest : List Char} {words : List (List Char)}
      (blank : ∀ c ∈ front, isBlank c = true) (solid : word ≠ [])
      (whole : ∀ c ∈ word, isBlank c = false) (ends : ∀ c ∈ rest.head?, isBlank c = true)
      (more : HasWords rest words) : HasWords (front ++ (word ++ rest)) (word :: words)

theorem words_append_blank {front : List Char} (blank : ∀ c ∈ front, isBlank c = true)
    (text : List Char) : words (front ++ text) = words text := by
  induction front with
  | nil => simp
  | cons c front ih =>
    have here := blank c List.mem_cons_self
    have later := ih fun d member => blank d (List.mem_cons_of_mem c member)
    rw [← later, List.cons_append, words, wordsFrom, if_pos here, if_pos rfl, words]

/-- A word that is being read goes on through characters that are no blanks. -/
theorem wordsFrom_append {word : List Char} (whole : ∀ c ∈ word, isBlank c = false)
    (before rest : List Char) : wordsFrom before (word ++ rest) = wordsFrom (word.reverse ++ before) rest := by
  induction word generalizing before with
  | nil => simp
  | cons c word ih =>
    have here : ¬ isBlank c = true := by simp [whole c List.mem_cons_self]
    rw [List.cons_append, wordsFrom, if_neg here,
      ih (fun d member => whole d (List.mem_cons_of_mem c member))]
    simp

theorem words_append_word {word rest : List Char} (solid : word ≠ [])
    (whole : ∀ c ∈ word, isBlank c = false) (ends : ∀ c ∈ rest.head?, isBlank c = true) :
    words (word ++ rest) = word :: words rest := by
  have started : word.reverse ++ [] ≠ [] := by simpa using solid
  rw [words, wordsFrom_append whole]
  cases rest with
  | nil =>
    rw [wordsFrom, if_neg started]
    simp [words, wordsFrom]
  | cons c rest =>
    have here : isBlank c = true := ends c rfl
    rw [wordsFrom, if_pos here, if_neg started, words, wordsFrom, if_pos here, if_pos rfl]
    simp

theorem HasWords.eq {text : List Char} {found : List (List Char)} (has : HasWords text found) :
    words text = found := by
  induction has with
  | @none text blank =>
    have shorter := words_append_blank blank []
    rw [List.append_nil] at shorter
    rw [shorter, words, wordsFrom, if_pos rfl]
  | next blank solid whole ends _ ih =>
    rw [words_append_blank blank, words_append_word solid whole ends, ih]

/-- Every text has words, by induction on its length. -/
theorem exists_hasWords (text : List Char) : ∃ found, HasWords text found := by
  induction length : text.length using Nat.strongRecOn generalizing text with
  | _ n ih =>
    have split := List.takeWhile_append_dropWhile (p := isBlank) (l := text)
    have blank : ∀ c ∈ text.takeWhile isBlank, isBlank c = true := fun c member =>
      List.mem_takeWhile_imp member
    cases behind : text.dropWhile isBlank with
    | nil =>
      rw [behind, List.append_nil] at split
      exact ⟨[], .none (split ▸ blank)⟩
    | cons c rest =>
      have starts : isBlank c = false := by
        have head := List.head_dropWhile_not isBlank (l := text) (by simp [behind])
        simpa [behind] using head
      have whole : ∀ d ∈ (c :: rest).takeWhile (fun d => !isBlank d), isBlank d = false := by
        intro d member
        simpa using List.mem_takeWhile_imp member
      have ends : ∀ d ∈ ((c :: rest).dropWhile fun d => !isBlank d).head?, isBlank d = true := by
        intro d member
        have last := List.head?_dropWhile_not (fun d => !isBlank d) (c :: rest)
        rw [Option.mem_def.mp member] at last
        simpa using last
      have solid : (c :: rest).takeWhile (fun d => !isBlank d) ≠ [] := by
        simp [starts]
      have shorter : ((c :: rest).dropWhile fun d => !isBlank d).length < n := by
        have bound := List.length_dropWhile_le isBlank text
        have inner := List.length_dropWhile_le (fun d => !isBlank d) rest
        rw [behind] at bound
        simp only [List.dropWhile_cons, starts, Bool.not_false, if_true, List.length_cons] at bound ⊢
        omega
      obtain ⟨words, more⟩ := ih _ shorter _ rfl
      have found := HasWords.next blank solid whole ends more
      rw [List.takeWhile_append_dropWhile, ← behind, split] at found
      exact ⟨_, found⟩

/-- The words of a text are those that it is read as. -/
theorem hasWords_iff {text : List Char} {found : List (List Char)} :
    HasWords text found ↔ words text = found := by
  constructor
  · exact HasWords.eq
  · rintro rfl
    obtain ⟨found, has⟩ := exists_hasWords text
    rwa [has.eq]

theorem wordsFrom_append_blank {c : Char} (blank : isBlank c = true) (word before after : List Char) :
    wordsFrom word (before ++ c :: after) = wordsFrom word before ++ words after := by
  induction before generalizing word with
  | nil =>
    simp only [List.nil_append, wordsFrom, blank, if_true]
    split
    · rfl
    · rfl
  | cons d before ih =>
    rw [List.cons_append, wordsFrom, wordsFrom]
    split
    · split
      · exact ih []
      · rw [ih [], List.cons_append]
    · exact ih (d :: word)

/-- A blank parts the words before it from those behind it. -/
theorem words_append_blank_cons {c : Char} (blank : isBlank c = true) (before after : List Char) :
    words (before ++ c :: after) = words before ++ words after :=
  wordsFrom_append_blank blank [] before after

/-- A text without blanks is one word. -/
theorem words_of_solid {word : List Char} (solid : word ≠ []) (whole : ∀ c ∈ word, isBlank c = false) :
    words word = [word] := by
  have single : words (word ++ []) = word :: words [] := words_append_word solid whole (by simp)
  rwa [List.append_nil] at single

/-- A word has no blanks, by induction on the words. -/
theorem mem_words_imp {text word : List Char} (member : word ∈ words text) :
    word ≠ [] ∧ ∀ c ∈ word, isBlank c = false := by
  have has : HasWords text (words text) := hasWords_iff.mpr rfl
  generalize words text = found at has member
  induction has with
  | none => exact absurd member List.not_mem_nil
  | next _ solid whole _ _ ih =>
    rcases List.mem_cons.mp member with rfl | member
    · exact ⟨solid, whole⟩
    · exact ih member

theorem dropFront?_eq_some_iff {front text rest : List Char} :
    dropFront? front text = some rest ↔ text = front ++ rest := by
  induction front generalizing text with
  | nil => cases text <;> simp [dropFront?]
  | cons c front ih =>
    cases text with
    | nil => simp [dropFront?]
    | cons d text =>
      by_cases same : c = d
      · rw [dropFront?, if_pos same, ih, List.cons_append, List.cons.injEq, and_iff_right same.symm]
      · rw [dropFront?, if_neg same, List.cons_append, List.cons.injEq]
        exact ⟨nofun, fun both => absurd both.1.symm same⟩

theorem splitFirst?_eq_some_iff {c : Char} {text before after : List Char} :
    splitFirst? c text = some (before, after) ↔ text = before ++ c :: after ∧ c ∉ before := by
  induction text generalizing before after with
  | nil => simp [splitFirst?]
  | cons d text ih =>
    by_cases same : d = c
    · rw [splitFirst?, if_pos same, same, Option.some.injEq, Prod.mk.injEq]
      cases before with
      | nil => simp
      | cons e before => simp +contextual
    · rw [splitFirst?, if_neg same, Option.map_eq_some_iff]
      constructor
      · rintro ⟨⟨front, behind⟩, split, ends⟩
        obtain ⟨rfl, rfl⟩ := Prod.mk.inj ends
        obtain ⟨rfl, clean⟩ := ih.mp split
        exact ⟨rfl, List.not_mem_cons_of_ne_of_not_mem (Ne.symm same) clean⟩
      · rintro ⟨spelled, clean⟩
        cases before with
        | nil => exact absurd (List.cons.inj spelled).1 same
        | cons e before =>
          obtain ⟨rfl, rfl⟩ := List.cons.inj spelled
          exact ⟨(before, after), ih.mpr ⟨rfl, List.not_mem_of_not_mem_cons clean⟩, rfl⟩

end CompanionStyles.Text

namespace CompanionStyles.Manifest

theorem joinWords_eq (words : List (List Char)) : joinWords words = [' '].intercalate words := by
  induction words with
  | nil => rfl
  | cons word words ih =>
    cases words with
    | nil => simp [joinWords, List.intercalate]
    | cons next words => simp [joinWords, ih, List.intercalate]

/-- A class list is renamed word by word. -/
theorem rename_eq {classes : List Char} {words : List (List Char)} (has : Text.HasWords classes words)
    (m : Manifest) : m.rename classes = [' '].intercalate (words.map m.lookup) := by
  rw [rename, has.eq, joinWords_eq]

end CompanionStyles.Manifest
