import CompanionStyles.Proofs.Text.Words

/-!
Class lists that are renamed twice. If the scoped names of a manifest are not renamed themselves, neither is
a class list that has been renamed; and only then, as far as names go that are words.
-/

namespace CompanionStyles.Manifest

/-- No scoped name of the manifest is empty, and none is renamed by it. -/
def Stable (m : Manifest) : Prop :=
  ∀ entry ∈ m.entries, entry.2.toList ≠ [] ∧ m.rename entry.2.toList = entry.2.toList

theorem joinWords_append {first second : List (List Char)} (solid : first ≠ []) (solid' : second ≠ []) :
    joinWords (first ++ second) = joinWords first ++ ' ' :: joinWords second := by
  induction first with
  | nil => exact absurd rfl solid
  | cons word words ih =>
    cases words with
    | nil =>
      obtain ⟨next, others, rfl⟩ := List.exists_cons_of_ne_nil solid'
      rfl
    | cons next words =>
      have later := ih (List.cons_ne_nil next words)
      rw [List.cons_append] at later
      simp only [List.cons_append, joinWords, later, List.append_assoc]

/-- Texts that are joined have their words together. -/
theorem words_joinWords (texts : List (List Char)) :
    Text.words (joinWords texts) = texts.flatMap Text.words := by
  induction texts with
  | nil => rfl
  | cons text texts ih =>
    cases texts with
    | nil => simp [joinWords]
    | cons next texts =>
      have joined : joinWords (text :: next :: texts) = text ++ ' ' :: joinWords (next :: texts) := rfl
      rw [joined, Text.words_append_blank_cons (by decide), ih]
      exact List.flatMap_cons.symm

theorem joinWords_flatten {lists : List (List (List Char))} (solid : ∀ list ∈ lists, list ≠ []) :
    joinWords lists.flatten = joinWords (lists.map joinWords) := by
  induction lists with
  | nil => rfl
  | cons list lists ih =>
    have later := ih fun other member => solid other (List.mem_cons_of_mem list member)
    have here := solid list List.mem_cons_self
    cases lists with
    | nil => simp [joinWords]
    | cons next lists =>
      have more : (next :: lists).flatten ≠ [] := by
        have nonempty := solid next (by simp)
        simp [nonempty]
      rw [List.flatten_cons, joinWords_append here more, later]
      rfl

theorem rename_ne_nil_imp {m : Manifest} {text : List Char} (solid : m.rename text ≠ []) :
    (Text.words text).map m.lookup ≠ [] := by
  intro none
  rw [rename, none] at solid
  exact solid rfl

/-- What is not renamed is not renamed with blanks between either. -/
theorem rename_joinWords {m : Manifest} {texts : List (List Char)}
    (stays : ∀ text ∈ texts, text ≠ [] ∧ m.rename text = text) :
    m.rename (joinWords texts) = joinWords texts := by
  have flat : ((texts.flatMap Text.words).map m.lookup) =
      (texts.map fun text => (Text.words text).map m.lookup).flatten := by
    rw [List.map_flatMap, List.flatMap_def]
  have solid : ∀ list ∈ texts.map fun text => (Text.words text).map m.lookup, list ≠ [] := by
    intro list member
    obtain ⟨text, among, rfl⟩ := List.mem_map.mp member
    obtain ⟨nonempty, same⟩ := stays text among
    exact rename_ne_nil_imp (by rwa [same])
  have same : (texts.map fun text => (Text.words text).map m.lookup).map joinWords = texts := by
    rw [List.map_map]
    exact (List.map_congr_left fun text among => (stays text among).2).trans (List.map_id texts)
  rw [rename, words_joinWords, flat, joinWords_flatten solid, same]

theorem rename_of_solid {m : Manifest} {word : List Char} (solid : word ≠ [])
    (whole : ∀ c ∈ word, Text.isBlank c = false) : m.rename word = m.lookup word := by
  rw [rename, Text.words_of_solid solid whole]
  rfl

theorem mem_of_lookup_eq_some {entries : List (String × String)} {name value : String}
    (found : entries.lookup name = some value) : ∃ entry ∈ entries, entry.2 = value := by
  induction entries with
  | nil => exact absurd found (by simp)
  | cons entry entries ih =>
    obtain ⟨key, old⟩ := entry
    rw [List.lookup_cons] at found
    split at found
    · exact ⟨(key, old), List.mem_cons_self, Option.some.inj found⟩
    · obtain ⟨entry, among, same⟩ := ih found
      exact ⟨entry, List.mem_cons_of_mem _ among, same⟩

/-- What a word is called is not renamed. -/
theorem Stable.lookup {m : Manifest} (stable : m.Stable) {word : List Char} (solid : word ≠ [])
    (whole : ∀ c ∈ word, Text.isBlank c = false) :
    m.lookup word ≠ [] ∧ m.rename (m.lookup word) = m.lookup word := by
  cases found : m.get? (String.ofList word) with
  | none =>
    have same : m.lookup word = word := by rw [Manifest.lookup, found]
    rw [same, rename_of_solid solid whole, same]
    exact ⟨solid, rfl⟩
  | some value =>
    have same : m.lookup word = value.toList := by rw [Manifest.lookup, found]
    obtain ⟨entry, among, rfl⟩ := mem_of_lookup_eq_some found
    rw [same]
    exact stable entry among

/-- Every word is called by a name that is not empty and not renamed. -/
def FixesWords (m : Manifest) : Prop :=
  ∀ word : List Char, word ≠ [] → (∀ c ∈ word, Text.isBlank c = false) →
    m.lookup word ≠ [] ∧ m.rename (m.lookup word) = m.lookup word

theorem FixesWords.rename_rename {m : Manifest} (fixed : m.FixesWords) (text : List Char) :
    m.rename (m.rename text) = m.rename text := by
  refine rename_joinWords fun other member => ?_
  obtain ⟨word, among, rfl⟩ := List.mem_map.mp member
  obtain ⟨solid, whole⟩ := Text.mem_words_imp among
  exact fixed word solid whole

/-- A class list that has been renamed stays as it is. -/
theorem Stable.rename_rename {m : Manifest} (stable : m.Stable) (text : List Char) :
    m.rename (m.rename text) = m.rename text := by
  have fixed : m.FixesWords := fun _ solid whole => stable.lookup solid whole
  exact fixed.rename_rename text

/-- A word that is called by nothing leaves a blank, which renaming drops: twice the word becomes one blank. -/
theorem rename_twice_of_lookup_eq_nil {m : Manifest} {word : List Char} (solid : word ≠ [])
    (whole : ∀ c ∈ word, Text.isBlank c = false) (nothing : m.lookup word = []) :
    m.rename (word ++ ' ' :: word) = [' '] := by
  have single := Text.words_of_solid solid whole
  have both : Text.words (word ++ ' ' :: word) = [word, word] := by
    rw [Text.words_append_blank_cons (by decide), single]
    rfl
  rw [rename, both, List.map_cons, List.map_cons, List.map_nil, nothing]
  rfl

theorem rename_blank (m : Manifest) : m.rename [' '] = [] := by
  have none : Text.words [' '] = [] := rfl
  rw [rename, none]
  rfl

/-- Renaming leaves what it has renamed only if it fixes what every word is called. -/
theorem fixesWords_of_rename_rename {m : Manifest}
    (again : ∀ text, m.rename (m.rename text) = m.rename text) : m.FixesWords := by
  intro word solid whole
  have once := rename_of_solid (m := m) solid whole
  refine ⟨fun nothing => ?_, ?_⟩
  · have twice := again (word ++ ' ' :: word)
    rw [rename_twice_of_lookup_eq_nil solid whole nothing, rename_blank] at twice
    exact List.cons_ne_nil ' ' [] twice.symm
  · have twice := again word
    rwa [once] at twice

/-- Words that the manifest lacks are called by themselves, so only the names that it has can be renamed again. -/
theorem fixesWords_iff {m : Manifest} :
    m.FixesWords ↔ ∀ name value, m.get? name = some value → name ≠ "" →
      (∀ c ∈ name.toList, Text.isBlank c = false) → value ≠ "" ∧ m.rename value.toList = value.toList := by
  constructor
  · intro fixed name value found named whole
    have called : m.lookup name.toList = value.toList := by
      rw [lookup, String.ofList_toList, found]
    have fixes := fixed name.toList (by simpa using named) whole
    rw [called] at fixes
    exact ⟨by simpa using fixes.1, fixes.2⟩
  · intro fixed word solid whole
    cases found : m.get? (String.ofList word) with
    | none =>
      have called : m.lookup word = word := by rw [lookup, found]
      rw [called, rename_of_solid solid whole, called]
      exact ⟨solid, rfl⟩
    | some value =>
      have called : m.lookup word = value.toList := by rw [lookup, found]
      have fixes := fixed _ value found (by simpa using solid) (by simpa using whole)
      rw [called]
      exact ⟨by simpa using fixes.1, fixes.2⟩

/-- Renaming a second time changes no class list if and only if every name of the manifest that can stand in a
class list, one that is not empty and has no blanks, is called by something that is not empty and that renaming
leaves as it is. -/
theorem rename_idempotent_iff (m : Manifest) :
    (∀ text, m.rename (m.rename text) = m.rename text) ↔
      ∀ name value, m.get? name = some value → name ≠ "" → (∀ c ∈ name.toList, Text.isBlank c = false) →
        value ≠ "" ∧ m.rename value.toList = value.toList := by
  rw [← fixesWords_iff]
  exact ⟨fixesWords_of_rename_rename, fun fixed text => fixed.rename_rename text⟩

end CompanionStyles.Manifest
