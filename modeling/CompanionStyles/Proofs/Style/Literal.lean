import CompanionStyles.Proofs.Glob.Samples
import CompanionStyles.Proofs.Style.Candidates

/-!
Which file names belong to a component: those that start with its stem and end with the extension, as both are
spelled. The globs of extensions match these and no others exactly if there is no backslash in the stem and the
extension: a backslash takes what follows it, so that other names match.
-/

namespace CompanionStyles.Style

open Glob (Unescaped StandsBetween)

theorem separator_not_mem_componentStem (component : Path) : '/' ∉ componentStem component := by
  intro inside
  have read := Utf8.mem_of_mem_decodeLossy inside (by decide) Path.separator (by decide)
  cases stem : component.fileStem with
  | none => rw [stem] at read; cases read
  | some bytes =>
    obtain ⟨name, named, split⟩ := Option.map_eq_some_iff.mp stem
    have whole := (Path.isName_of_fileName named).whole
    rw [stem, ← split] at read
    rcases Path.splitName_cases name with same | ⟨after, same⟩
    · exact whole (same ▸ read)
    · exact whole (same ▸ List.mem_append_left _ read)

/-- A name starts with a stem, ends with an extension and is not hidden, unless the stem is. -/
def Belongs (stem extension name : List Char) : Prop :=
  (∃ between, name = stem ++ (between ++ extension)) ∧ (name.head? = some '.' → stem.head? = some '.')

/-- The glob of a stem and an extension is hidden exactly if the stem is. -/
theorem head?_extensionGlob {stem extension : List Char} :
    (extensionGlob stem extension).head? = some '.' ↔ stem.head? = some '.' := by
  cases stem with
  | nil => simp [extensionGlob, Glob.escape]
  | cons c stem =>
    rw [extensionGlob]
    by_cases special : c ∈ ['?', '*', '[', ']', '\x7b', '\x7d']
    · have other : c ≠ '.' := by
        rintro rfl
        exact absurd special (by decide)
      rw [Glob.escape_cons_of_special special]
      simp [other]
    · rw [Glob.escape_cons_of_plain special]
      rfl

theorem matchesGlob_extensionGlob_iff {stem extension : List Char} {tokens : List Glob.Token} {p : Path}
    {name : List Char} (named : p.fileName = some (Utf8.encode name)) :
    matchesGlob ⟨extensionGlob stem extension, tokens⟩ p = true ↔
      Glob.isMatch tokens (Utf8.encode name) = true ∧ (name.head? = some '.' → stem.head? = some '.') := by
  rw [matchesGlob_iff, ← @head?_extensionGlob stem extension]
  constructor
  · rintro ⟨name', named', visible, isMatch⟩
    obtain rfl := Utf8.encode_inj (Option.some.inj (named'.symm.trans named))
    exact ⟨isMatch, visible⟩
  · rintro ⟨isMatch, visible⟩
    exact ⟨name, named, visible, isMatch⟩

/-- Where no backslash takes a bracket that opens or closes something, or nothing, the glob of a stem and an extension
reads as a pattern and matches what the two stand for. -/
theorem exists_extensionGlob {stem extension : List Char}
    (plain : Glob.takesPlain false (stem ++ '*' :: extension) = true) :
    ∃ glob, StyleGlob.parse (extensionGlob stem extension) = .ok glob
      ∧ ∀ p name, p.fileName = some (Utf8.encode name) → (matchesGlob glob p = true ↔
        StandsBetween stem extension (Utf8.encode name) ∧ (name.head? = some '.' → stem.head? = some '.')) := by
  obtain ⟨tokens, parsed, matched⟩ := Glob.isMatch_extensionGlob plain
  refine ⟨⟨extensionGlob stem extension, tokens⟩, by rw [StyleGlob.parse, parsed], fun p name named => ?_⟩
  rw [matchesGlob_extensionGlob_iff named, matched]

/-- Where each backslash takes an ordinary character, the glob matches the names between the stem and the extension,
as they are without their backslashes. -/
theorem exists_literalGlob {stem first extension last : List Char} (unescaped : Unescaped stem first)
    (unescaped' : Unescaped extension last) : ∃ glob, StyleGlob.parse (extensionGlob stem extension) = .ok glob
      ∧ ∀ p name, p.fileName = some (Utf8.encode name) → (matchesGlob glob p = true ↔
        (∃ between, name = first ++ (between ++ last)) ∧ (name.head? = some '.' → stem.head? = some '.')) := by
  have plain : Glob.takesPlain false (stem ++ '*' :: extension) = true := by
    have alone := unescaped'.takesPlain_append []
    rw [List.append_nil] at alone
    rw [unescaped.takesPlain_append, Glob.takesPlain, decide_eq_false (by decide), alone]
    rfl
  obtain ⟨glob, parsed, matched⟩ := exists_extensionGlob plain
  refine ⟨glob, parsed, fun p name named => ?_⟩
  rw [matched p name named, unescaped.standsBetween_iff unescaped' (Path.isName_of_fileName named).whole]

/-- A text without a separator that has another character than dots names a file. -/
theorem fileName_of_solid {text : List Char} (whole : '/' ∉ text) (solid : ∃ c ∈ text, c ≠ '.') :
    (Path.ofText text).fileName = some (Utf8.encode text) := by
  obtain ⟨c, inside, notDot⟩ := solid
  have other (dots : List Char) (only : ∀ d ∈ dots, d = '.') : Utf8.encode text ≠ Utf8.encode dots := fun same =>
    notDot (only c (Utf8.encode_inj same ▸ inside))
  refine Path.IsName.fileName ⟨other [] (by simp), other ['.'] (by simp), other ['.', '.'] (by simp), fun among => ?_⟩
  obtain ⟨d, inside, value⟩ := (Utf8.mem_encode_iff (by decide)).mp among
  obtain rfl : d = '/' := by rw [← Char.ofNat_toNat d, value]; rfl
  exact whole inside

theorem mem_of_mem_extensionGlob {stem extension : List Char} {c : Char} (other : c ∉ ['[', ']', '*'])
    (inside : c ∈ extensionGlob stem extension) : c ∈ stem ∨ c ∈ extension := by
  have escaped : ∀ {text}, c ∈ Glob.escape text → c ∈ text := by
    intro text inside
    obtain ⟨d, among, inside⟩ := List.mem_flatMap.mp inside
    split at inside
    · simp only [List.mem_cons, List.not_mem_nil, or_false, not_or] at other inside
      rcases inside with same | rfl | same
      · exact absurd same other.1
      · exact among
      · exact absurd same other.2.1
    · exact List.mem_singleton.mp inside ▸ among
  rcases List.mem_append.mp inside with inside | inside
  · exact .inl (escaped inside)
  · refine .inr (escaped ((List.mem_cons.mp inside).resolve_left ?_))
    rintro rfl
    exact other (by decide)

theorem count_backslash_escape (text : List Char) : (Glob.escape text).count '\\' = text.count '\\' := by
  induction text with
  | nil => rfl
  | cons c text ih =>
    by_cases special : c ∈ ['?', '*', '[', ']', '\x7b', '\x7d']
    · rw [Glob.escape_cons_of_special special]
      simp [List.count_cons, ih]
    · rw [Glob.escape_cons_of_plain special, List.count_cons, List.count_cons, ih]

/-- A stem with a backslash and the extension, or an extension with one, have more backslashes than some name that
their glob matches, which so does not belong to them, unless the glob matches only hidden names. -/
theorem not_belongs_of_backslash {stem extension : List Char} {tokens : List Glob.Token} (whole : '/' ∉ stem)
    (whole' : '/' ∉ extension) (parsed : Glob.parse (extensionGlob stem extension) = .ok tokens)
    (backslash : '\\' ∈ stem ∨ '\\' ∈ extension) :
    ∃ name, (Path.ofText name).fileName = some (Utf8.encode name)
      ∧ ¬(matchesGlob ⟨extensionGlob stem extension, tokens⟩ (.ofText name) = true ↔ Belongs stem extension name) := by
  obtain ⟨sample, spells, sampled⟩ := Glob.exists_sample (Glob.guarded_extensionGlob stem extension) parsed
  have solid : ∃ c ∈ sample, c ≠ '.' :=
    (sampled.solid (List.mem_append_right _ List.mem_cons_self)).resolve_left List.not_mem_nil
  have wholeSample : '/' ∉ sample := fun inside => by
    rcases sampled.mem _ inside with inside | same
    · exact (mem_of_mem_extensionGlob (by decide) inside).elim whole whole'
    · exact absurd same (by decide)
  have few : sample.count '\\' < (stem ++ extension).count '\\' := by
    have sparing := sampled.sparing
    have some' := List.count_pos_iff.mpr (List.mem_append.mpr backslash)
    rw [extensionGlob, List.count_append, List.count_cons_of_ne (by decide), count_backslash_escape,
      count_backslash_escape] at sparing
    rw [List.count_append] at some' ⊢
    omega
  by_cases visible : sample.head? = some '.' → stem.head? = some '.'
  · refine ⟨sample, fileName_of_solid wholeSample solid, fun same => ?_⟩
    obtain ⟨⟨between, split⟩, _⟩ := same.mp
      ((matchesGlob_extensionGlob_iff (fileName_of_solid wholeSample solid)).mpr ⟨spells.isMatch, visible⟩)
    rw [split] at few
    simp only [List.count_append] at few
    omega
  · -- the glob starts with a dot that a backslash takes, so that nothing matches
    obtain ⟨hidden, shown⟩ := Classical.not_imp.mp visible
    obtain ⟨others, rfl⟩ := spells.ofDot hidden
    have named : (Path.ofText (stem ++ 'z' :: extension)).fileName = _ :=
      fileName_of_solid (by simp [whole, whole']) ⟨'z', by simp, by decide⟩
    have first : (stem ++ 'z' :: extension).head? = some '.' → stem.head? = some '.' := by
      cases stem with
      | nil => exact fun isDot => absurd isDot (by simp)
      | cons c stem => exact id
    refine ⟨stem ++ 'z' :: extension, named, fun same => shown (first ?_)⟩
    exact Glob.head?_of_isMatch ((matchesGlob_extensionGlob_iff named).mp (same.mpr ⟨⟨['z'], rfl⟩, first⟩)).1

/-- The glob of a stem and an extension reads as a pattern and matches the names that belong to them, all and only
those, exactly if neither has a backslash. -/
theorem belongs_iff {stem extension : List Char} (whole : '/' ∉ stem) (whole' : '/' ∉ extension) :
    (∃ glob, StyleGlob.parse (extensionGlob stem extension) = .ok glob
      ∧ ∀ p name, p.fileName = some (Utf8.encode name) → (matchesGlob glob p = true ↔ Belongs stem extension name)) ↔
    '\\' ∉ stem ∧ '\\' ∉ extension := by
  constructor
  · rintro ⟨glob, parsed, matched⟩
    rw [← not_or]
    intro backslash
    cases read : Glob.parse (extensionGlob stem extension) with
    | error cause => exact absurd parsed (by simp [StyleGlob.parse, read])
    | ok tokens =>
      obtain rfl : ⟨extensionGlob stem extension, tokens⟩ = glob := by simpa [StyleGlob.parse, read] using parsed
      obtain ⟨name, named, differs⟩ := not_belongs_of_backslash whole whole' read backslash
      exact differs (matched _ name named)
  · rintro ⟨none, none'⟩
    exact exists_literalGlob (Glob.unescaped_self none) (Glob.unescaped_self none')

/-- Where no backslash of the stem of a component or of an extension takes a bracket that opens or closes something, or
nothing, the glob of the extension reads as a pattern, and matches a file name if it is not hidden and is what stem and
extension stand for. Where each backslash takes an ordinary character, that is a name that starts with the stem and ends
with the extension, both without their backslashes. Whatever the backslashes take, all and only the names that belong
to the stem and the extension match, whatever other characters these have, exactly if neither has a backslash. -/
theorem matchesGlob_extension_iff {component : Path} {matchComponentName : Bool} {stem extension : List Char}
    (named : stem = if matchComponentName then componentStem component else []) :
    (Glob.takesPlain false (stem ++ '*' :: extension) = true →
      ∃ glob, StyleGlob.parse (extensionGlob stem extension) = .ok glob
        ∧ ∀ p name, p.fileName = some (Utf8.encode name) → (matchesGlob glob p = true ↔
          StandsBetween stem extension (Utf8.encode name) ∧ (name.head? = some '.' → stem.head? = some '.')))
    ∧ (∀ first last, Unescaped stem first → Unescaped extension last →
      ∃ glob, StyleGlob.parse (extensionGlob stem extension) = .ok glob
        ∧ ∀ p name, p.fileName = some (Utf8.encode name) → (matchesGlob glob p = true ↔
          (∃ between, name = first ++ (between ++ last)) ∧ (name.head? = some '.' → stem.head? = some '.')))
    ∧ ('/' ∉ extension →
      ((∃ glob, StyleGlob.parse (extensionGlob stem extension) = .ok glob
        ∧ ∀ p name, p.fileName = some (Utf8.encode name) →
          (matchesGlob glob p = true ↔ Belongs stem extension name)) ↔ '\\' ∉ stem ∧ '\\' ∉ extension)) := by
  have whole : '/' ∉ stem := by
    rw [named]
    split
    · exact separator_not_mem_componentStem component
    · exact List.not_mem_nil
  exact ⟨exists_extensionGlob, fun first last => exists_literalGlob, belongs_iff whole⟩

/-- Brackets in a stem are taken literally, and a backslash is left out. -/
theorem matchesGlob_extension_iff_bracketed :
    "a[1]\\-".toList = (if true then componentStem (.ofText "s/a[1]\\-.tsx".toList) else [])
      ∧ (∃ glob, StyleGlob.parse (extensionGlob "a[1]\\-".toList ".css".toList) = .ok glob
        ∧ ∀ p name, p.fileName = some (Utf8.encode name) → (matchesGlob glob p = true ↔
            (∃ between, name = "a[1]-".toList ++ (between ++ ".css".toList))
              ∧ (name.head? = some '.' → "a[1]\\-".toList.head? = some '.')))
      ∧ ¬∃ glob, StyleGlob.parse (extensionGlob "a[1]\\-".toList ".css".toList) = .ok glob
        ∧ ∀ p name, p.fileName = some (Utf8.encode name) →
          (matchesGlob glob p = true ↔ Belongs "a[1]\\-".toList ".css".toList name) := by
  have stem : "a[1]\\-".toList = (if true then componentStem (.ofText "s/a[1]\\-.tsx".toList) else []) := by
    decide +kernel
  have bracketed : Unescaped ['a', '[', '1', ']', '\\', '-'] ['a', '[', '1', ']', '-'] :=
    .plain (by decide) (.plain (by decide) (.plain (by decide) (.plain (by decide) (.taken (by decide) .nil))))
  obtain ⟨_, literal, belongs⟩ := @matchesGlob_extension_iff _ _ _ ".css".toList stem
  exact ⟨stem, literal _ _ bracketed (Glob.unescaped_self (by decide)),
    fun all => ((belongs (by decide)).mp all).1 (by decide)⟩

/-- A component whose name has a backslash gets the style file of another name, and not that of its own. -/
theorem backslash_not_literal :
    componentStem (.ofText "s/a\\b.tsx".toList) = "a\\b".toList
      ∧ Belongs "a\\b".toList ".css".toList "a\\b.css".toList ∧ ¬Belongs "a\\b".toList ".css".toList "ab.css".toList
      ∧ (resolve (.ofText "s/a\\b.tsx".toList) [.ofText "s/a\\b.css".toList, .ofText "s/ab.css".toList]
        (.extensions [".css".toList] true false)).result = .ok [⟨.ofText "s/ab.css".toList, false⟩] := by
  refine ⟨by decide +kernel, ⟨⟨[], by decide⟩, by decide⟩, ?_, ?_⟩
  · rintro ⟨⟨between, same⟩, _⟩
    have second : 'b' = '\\' := (List.cons.inj (List.cons.inj same).2).1
    exact absurd second (by decide)
  · have ends : Traced.passes (fun candidates => decide (candidates = [⟨.ofText "s/ab.css".toList, false⟩]))
        (resolve (.ofText "s/a\\b.tsx".toList) [.ofText "s/a\\b.css".toList, .ofText "s/ab.css".toList]
          (.extensions [".css".toList] true false)).result = true := by
      decide +kernel
    obtain ⟨candidates, found, same⟩ := Traced.passes_iff.mp ends
    rw [found, of_decide_eq_true same]

end CompanionStyles.Style
