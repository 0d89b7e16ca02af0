import CompanionStyles.Proofs.Path.Join
import CompanionStyles.Proofs.Path.Text
import CompanionStyles.Style.Name

/-!
Paths of style files without the mark of modules. Such a path differs from the one with the mark, and it is the file
of the same directory whose stem is without the mark, unless nothing but dots is left of the name or the extension is
no text.
-/

namespace CompanionStyles.Style

open CompanionStyles.Path (dot separator splitName IsName)

/-- The name of a file without the mark in its stem, and without its extension if that is no text. -/
def bareName (base : Bytes) (extension : Option Bytes) : Bytes :=
  match extension with
  | some extension => if (Utf8.decode? extension).isSome then base ++ dot :: extension else base
  | none => base

theorem bareName_eq_nil_iff {base : Bytes} {extension : Option Bytes} : bareName base extension = [] ↔
    base = [] ∧ ∀ bytes, extension = some bytes → Utf8.decode? bytes = none := by
  cases extension with
  | none => simp [bareName]
  | some bytes => cases read : Utf8.decode? bytes <;> simp [bareName, read]

theorem normalizedPath_of_none {p : Path} (unmarked : moduleStem? p = none) : normalizedPath p = p := by
  rw [normalizedPath, unmarked]

theorem normalizedPath_of_some {p d : Path} {base : Bytes} (marked : moduleStem? p = some base)
    (parent : p.parent = some d) : normalizedPath p = d.join ⟨bareName base p.extension⟩ := by
  rw [normalizedPath, marked, parent]
  cases p.extension with
  | none => rfl
  | some extension =>
    dsimp only [bareName]
    split <;> rfl

/-- The stem of a marked file is text that ends with the mark. -/
theorem moduleStem?_eq_some_iff {p : Path} {base : Bytes} : moduleStem? p = some base ↔
    p.fileStem = some (base ++ moduleSuffix) ∧ (Utf8.decode? (base ++ moduleSuffix)).isSome = true := by
  rw [moduleStem?, Option.bind_eq_some_iff]
  constructor
  · rintro ⟨stem, named, found⟩
    split at found
    · rename_i ends
      obtain ⟨isText, mark⟩ := ends
      obtain ⟨base', rfl⟩ := List.isSuffixOf_iff_suffix.mp mark
      rw [List.length_append, Nat.add_sub_cancel, List.take_left' rfl] at found
      obtain rfl := Option.some.inj found
      exact ⟨named, isText⟩
    · cases found
  · rintro ⟨named, isText⟩
    refine ⟨_, named, ?_⟩
    rw [if_pos ⟨isText, List.isSuffixOf_iff_suffix.mpr (List.suffix_append _ _)⟩, List.length_append,
      Nat.add_sub_cancel, List.take_left' rfl]

section

variable {p d : Path} {name base : Bytes}

/-- A marked file has an extension behind its stem, or the mark for its name. -/
theorem marked_cases (named : p.fileName = some name) (marked : moduleStem? p = some base) :
    (∃ extension, p.extension = some extension ∧ name = base ++ moduleSuffix ++ dot :: extension ∧ dot ∉ extension)
      ∨ p.extension = none ∧ base = [] ∧ name = moduleSuffix := by
  have stem := (moduleStem?_eq_some_iff.mp marked).1
  rw [Path.fileStem, named, Option.map_some, Option.some.injEq] at stem
  rw [Path.extension, named, Option.bind_some]
  cases split : splitName name with
  | mk stem' extension =>
    rw [split] at stem
    obtain rfl : stem' = base ++ moduleSuffix := stem
    cases extension with
    | some extension =>
      obtain ⟨whole, _, clean⟩ := Path.splitName_eq_some_iff.mp split
      exact .inl ⟨extension, rfl, whole, clean⟩
    | none =>
      have whole := Path.eq_of_splitName_eq_none split
      -- the dot of the mark would be the last one of the name, with something in front of it
      have alone : base = [] := by
        by_contra nonempty
        have cut : splitName name = (base, some (Utf8.encode "module".toList)) :=
          Path.splitName_eq_some_iff.mpr ⟨whole.symm, nonempty, by decide⟩
        rw [split] at cut
        exact nomatch congrArg Prod.snd cut
      rw [alone] at whole
      exact .inr ⟨rfl, alone, whole.symm⟩

theorem bareName_length_lt (named : p.fileName = some name) (marked : moduleStem? p = some base) :
    (bareName base p.extension).length < name.length := by
  have long : moduleSuffix.length = 7 := by decide
  rcases marked_cases named marked with ⟨extension, found, rfl, _⟩ | ⟨found, rfl, rfl⟩
  · rw [found, bareName]
    split <;> simp only [List.length_append, List.length_cons] <;> omega
  · rw [found, bareName, long]
    decide

theorem separator_not_mem_bareName (named : p.fileName = some name) (marked : moduleStem? p = some base) :
    separator ∉ bareName base p.extension := by
  have whole := (Path.isName_of_fileName named).whole
  rcases marked_cases named marked with ⟨extension, found, rfl, _⟩ | ⟨found, rfl, rfl⟩
  · rw [found, bareName]
    simp only [List.mem_append, List.mem_cons, not_or] at whole
    split
    · simpa using ⟨whole.1.1, whole.2⟩
    · exact whole.1.1
  · rw [found]
    exact List.not_mem_nil

/-- What is left of a file name without the mark. -/
def servedName (p : Path) : Option Bytes :=
  match moduleStem? p with
  | some base => some (bareName base p.extension)
  | none => p.fileName

/-- Without the mark, a path leads to the directory of the file, and on to what is left of its name. -/
theorem steps_normalizedPath (named : p.fileName = some name) (parent : p.parent = some d) :
    ∃ left, servedName p = some left ∧ separator ∉ left
      ∧ (normalizedPath p).steps = d.steps ++ (Path.Component.ofPiece? left).toList := by
  unfold servedName
  cases marked : moduleStem? p with
  | none =>
    obtain ⟨d', parent', components⟩ := Path.exists_parent_of_fileName named
    obtain rfl := Option.some.inj (parent.symm.trans parent')
    have isName := Path.isName_of_fileName named
    refine ⟨name, named, isName.whole, ?_⟩
    rw [normalizedPath_of_none marked, isName.ofPiece?_eq, Path.steps_of_components components]
    rfl
  | some base =>
    have whole := separator_not_mem_bareName named marked
    exact ⟨_, rfl, whole, by rw [normalizedPath_of_some marked parent, Path.steps_join d whole]⟩

/-- The directory of a file stands at the start of the path without the mark. -/
theorem prefix_normalizedPath (named : p.fileName = some name) (parent : p.parent = some d) :
    d.bytes <+: (normalizedPath p).bytes := by
  cases marked : moduleStem? p with
  | none =>
    rw [normalizedPath_of_none marked]
    exact Path.prefix_of_parent parent
  | some base =>
    rw [normalizedPath_of_some marked parent]
    exact Path.prefix_join d (separator_not_mem_bareName named marked)

end

/-- Exactly the path of a marked file is changed. -/
theorem normalizedPath_equivalent_iff (p : Path) :
    (normalizedPath p).Equivalent p ↔ hasModuleSuffix p = false := by
  rw [hasModuleSuffix, Option.isSome_eq_false_iff, Option.isNone_iff_eq_none]
  cases marked : moduleStem? p with
  | none =>
    rw [normalizedPath_of_none marked]
    exact iff_of_true (.refl p) rfl
  | some base =>
    refine iff_of_false (fun same => ?_) nofun
    obtain ⟨name, named, _⟩ := Option.map_eq_some_iff.mp (moduleStem?_eq_some_iff.mp marked).1
    obtain ⟨d, parent, components⟩ := Path.exists_parent_of_fileName named
    have whole := separator_not_mem_bareName named marked
    have steps := same.steps_eq
    rw [normalizedPath_of_some marked parent, Path.steps_join d whole, Path.steps_of_components components,
      List.append_right_inj, Option.toList_eq_singleton_iff] at steps
    have kept := Path.eq_of_ofPiece?_eq_name steps
    have shorter := bareName_length_lt named marked
    rw [kept] at shorter
    exact Nat.lt_irrefl _ shorter

/-- A path names the file of the same directory and extension whose stem is without the mark. -/
structure Unmarks (p q : Path) : Prop where
  named : ∃ name, q.fileName = some name
  directory : ∃ d d', p.parent = some d ∧ q.parent = some d' ∧ d'.Equivalent d
  extension : q.extension = p.extension
  stem : ∃ stem, p.fileStem = some (stem ++ moduleSuffix) ∧ q.fileStem = some stem

/-- What is joined to the directory of a file is the file without the mark exactly if it is a name with the same
extension and the stem that is left. -/
theorem unmarks_join_iff {p d : Path} {base piece : Bytes} (stem : p.fileStem = some (base ++ moduleSuffix))
    (parent : p.parent = some d) (whole : separator ∉ piece) :
    Unmarks p (d.join ⟨piece⟩) ↔ IsName piece ∧ splitName piece = (base, p.extension) := by
  constructor
  · rintro ⟨⟨name, named⟩, ⟨d₁, d₂, parent₁, parent₂, same⟩, extension, base', stem', left⟩
    obtain rfl := Option.some.inj (parent.symm.trans parent₁)
    obtain ⟨d₃, parent₃, components⟩ := Path.exists_parent_of_fileName named
    obtain rfl := Option.some.inj (parent₂.symm.trans parent₃)
    have steps := Path.steps_of_components components
    have isName := Path.isName_of_fileName named
    rw [Path.steps_join d whole, same.steps_eq, List.append_right_inj, Option.toList_eq_singleton_iff] at steps
    obtain rfl := Path.eq_of_ofPiece?_eq_name steps
    obtain rfl := List.append_cancel_right (Option.some.inj (stem.symm.trans stem'))
    rw [Path.fileStem, named] at left
    rw [Path.extension, named] at extension
    exact ⟨isName, Prod.ext (Option.some.inj left) extension⟩
  · rintro ⟨isName, split⟩
    obtain ⟨named, d', parent', same⟩ := Path.parent_of_components (Path.components_join d isName)
    refine ⟨⟨piece, named⟩, ⟨d, d', parent, parent', same⟩, ?_, base, stem, ?_⟩
    · rw [Path.extension, named, Option.bind_some, split]
    · rw [Path.fileStem, named, Option.map_some, split]

/-- What is left of a name in front of its extension and the extension are a name again, unless they are two dots. -/
theorem isName_append_iff {base extension : Bytes} (nonempty : base ≠ []) (whole : separator ∉ base ++ dot :: extension) :
    IsName (base ++ dot :: extension) ↔ ¬(base = [dot] ∧ extension = []) := by
  constructor
  · rintro isName ⟨rfl, rfl⟩
    exact isName.notDots rfl
  · intro other
    obtain ⟨b, rest, rfl⟩ := List.exists_cons_of_ne_nil nonempty
    refine ⟨List.cons_ne_nil _ _, fun isDot => ?_, fun isDots => other ?_, whole⟩
    · simp at isDot
    · obtain ⟨rfl, left⟩ := List.cons.inj isDots
      cases rest with
      | nil => exact ⟨rfl, (List.cons.inj left).2⟩
      | cons c rest => exact absurd (List.cons.inj left).2 (by simp)

/-- Two dots are left of one name only. -/
theorem eq_dots_iff {base extension : Bytes} (clean : dot ∉ extension) :
    base ++ moduleSuffix ++ dot :: extension = Utf8.encode "..module.".toList ↔ base = [dot] ∧ extension = [] := by
  constructor
  · intro same
    have split : splitName (base ++ moduleSuffix ++ dot :: extension) = (base ++ moduleSuffix, some extension) :=
      Path.splitName_eq_some_iff.mpr ⟨rfl, by simp [moduleSuffix, Utf8.encode, Utf8.encodeChar], clean⟩
    have split' : splitName (Utf8.encode "..module.".toList) = ([dot] ++ moduleSuffix, some []) := by decide
    rw [same, split'] at split
    obtain ⟨stem, found⟩ := Prod.mk.inj split
    exact ⟨(List.append_cancel_right stem).symm, (Option.some.inj found).symm⟩
  · rintro ⟨rfl, rfl⟩
    rfl

/-- Without the mark, the path of a marked file names the file of the same directory and extension whose stem is
without the mark, unless the stem is the mark, the extension is no text, or `..` is left of the name. -/
theorem unmarks_normalizedPath_iff {p : Path} (marked : hasModuleSuffix p = true) :
    Unmarks p (normalizedPath p) ↔ p.fileStem ≠ some moduleSuffix
      ∧ (∀ extension, p.extension = some extension → (Utf8.decode? extension).isSome = true)
      ∧ p.fileName ≠ some (Utf8.encode "..module.".toList) := by
  obtain ⟨base, marked⟩ := Option.isSome_iff_exists.mp marked
  have stem := (moduleStem?_eq_some_iff.mp marked).1
  obtain ⟨name, named, _⟩ := Option.map_eq_some_iff.mp stem
  obtain ⟨d, parent, _⟩ := Path.exists_parent_of_fileName named
  have whole := separator_not_mem_bareName named marked
  have alone : p.fileStem = some moduleSuffix ↔ base = [] := by
    rw [stem, Option.some.injEq, List.append_left_eq_self]
  rw [normalizedPath_of_some marked parent, unmarks_join_iff stem parent whole, ne_eq, alone, named]
  rcases marked_cases named marked with ⟨extension, found, rfl, clean⟩ | ⟨found, rfl, rfl⟩
  · rw [found] at whole ⊢
    by_cases isText : (Utf8.decode? extension).isSome = true
    · have bare : bareName base (some extension) = base ++ dot :: extension := if_pos isText
      rw [bare] at whole ⊢
      have differs : some (base ++ moduleSuffix ++ dot :: extension) ≠ some (Utf8.encode "..module.".toList) ↔
          ¬(base = [dot] ∧ extension = []) := by
        rw [ne_eq, Option.some.injEq, eq_dots_iff clean]
      rw [Path.splitName_eq_some_iff, differs]
      constructor
      · rintro ⟨isName, _, nonempty, _⟩
        exact ⟨nonempty, fun _ same => Option.some.inj same ▸ isText, (isName_append_iff nonempty whole).mp isName⟩
      · rintro ⟨nonempty, _, other⟩
        exact ⟨(isName_append_iff nonempty whole).mpr other, rfl, nonempty, clean⟩
    · have bare : bareName base (some extension) = base := if_neg isText
      rw [bare]
      refine iff_of_false (fun kept => ?_) fun kept => isText (kept.2.1 extension rfl)
      -- the extension is lost
      have same := (Path.splitName_eq_some_iff.mp kept.2).1
      simp at same
  · rw [found]
    exact iff_of_false (fun kept => kept.1.nonempty rfl) fun kept => kept.1 rfl

end CompanionStyles.Style
