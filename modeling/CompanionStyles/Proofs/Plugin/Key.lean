import Mathlib.Data.List.Basic
import CompanionStyles.Proofs.Style.Normalized
import CompanionStyles.Plugin.Basic

/-!
The keys that style files are registered under. A key is the path of the file without the mark of modules, as text
with slashes between its names; read as a path again, it leads from the directory on to what is left of the file name,
so it leads to the directory itself if nothing is left.
-/

namespace CompanionStyles.Plugin

open CompanionStyles.Path (Component separator dot pieces)
open CompanionStyles.Style (normalizedPath moduleStem? hasModuleSuffix moduleSuffix bareName)

def slashed (c : Char) : Char :=
  if c = '\\' then '/' else c

/-- A path as text with slashes between its names. -/
def pathKey (p : Path) : List Char :=
  (Utf8.decodeLossy p.bytes).map slashed

theorem registryKey_eq (p : Path) : registryKey p = pathKey (normalizedPath p) :=
  rfl

theorem pathKey_eq_nil_iff {p : Path} : pathKey p = [] ↔ p.bytes = [] := by
  rw [pathKey, List.map_eq_nil_iff, Utf8.decodeLossy_eq_nil_iff]

/-- Where a key leads from where it starts. -/
def keySteps (p : Path) : List Component :=
  (pieces (Utf8.encode (pathKey p))).filterMap Component.ofPiece?

/-- The pieces of a key are those of the keys of the pieces. -/
theorem pieces_pathKey (bytes : Bytes) : pieces (Utf8.encode (pathKey ⟨bytes⟩)) =
    (pieces bytes).flatMap fun piece => pieces (Utf8.encode (pathKey ⟨piece⟩)) := by
  induction bytes using Path.pieces_induction with
  | last piece whole => rw [Path.pieces_of_not_mem whole, List.flatMap_singleton]
  | next piece rest whole ih =>
    have cut : Utf8.encode (pathKey ⟨piece ++ separator :: rest⟩) =
        Utf8.encode (pathKey ⟨piece⟩) ++ separator :: Utf8.encode (pathKey ⟨rest⟩) := by
      rw [pathKey, Utf8.decodeLossy_append (by decide), List.map_append, Utf8.encode_append]
      rfl
    rw [cut, Path.pieces_append, Path.pieces_append, Path.pieces_of_not_mem whole, ih, List.singleton_append,
      List.flatMap_cons]

/-- Where a component leads in a key. -/
def stepsOf : Component → List Component
  | .name bytes => keySteps ⟨bytes⟩
  | c => [c]

/-- Where a key leads is told by what the pieces of the path name. -/
theorem keySteps_eq (p : Path) :
    keySteps p = ((pieces p.bytes).filterMap Component.ofPiece?).flatMap stepsOf := by
  have single : ∀ piece, keySteps ⟨piece⟩ = (Component.ofPiece? piece).toList.flatMap stepsOf := by
    intro piece
    by_cases empty : piece = []
    · subst empty
      decide +kernel
    · by_cases isDot : piece = [dot]
      · subst isDot
        decide +kernel
      · by_cases isDots : piece = [dot, dot]
        · subst isDots
          decide +kernel
        · have named : Component.ofPiece? piece = some (.name piece) := by
            rw [Component.ofPiece?, if_neg fun either => either.elim empty isDot, if_neg isDots]
          rw [named, Option.toList_some, List.flatMap_singleton]
          rfl
  rw [keySteps, pieces_pathKey, List.filterMap_flatMap, List.filterMap_eq_flatMap_toList, List.flatMap_assoc]
  exact List.flatMap_congr fun piece _ => single piece

/-- A key starts at the root exactly if the path starts with a slash or a backslash. -/
theorem isAbsolute_pathKey_iff {p : Path} : (Path.ofText (pathKey p)).isAbsolute = true ↔
    p.bytes.head? = some separator ∨ p.bytes.head? = some 0x5C := by
  have slash := Utf8.head?_decodeLossy_eq_some_iff p.bytes (show '/'.toNat < 0x80 by decide)
  have backslash := Utf8.head?_decodeLossy_eq_some_iff p.bytes (show '\\'.toNat < 0x80 by decide)
  have starts : ∀ c, (slashed c).toNat = separator.toNat ↔ c = '/' ∨ c = '\\' := by
    intro c
    rw [show separator.toNat = '/'.toNat from rfl, Char.toNat_inj, slashed]
    split <;> simp [*]
  rw [Path.isAbsolute, Path.ofText, decide_eq_true_iff, Utf8.head?_encode_eq_some_iff (by decide), pathKey,
    List.head?_map]
  change _ ↔ p.bytes.head? = some (UInt8.ofNat '/'.toNat) ∨ p.bytes.head? = some (UInt8.ofNat '\\'.toNat)
  rw [← slash, ← backslash]
  cases (Utf8.decodeLossy p.bytes).head? with
  | none => simp
  | some c => simpa using starts c

/-- Keys of paths that start with the same byte start at the root, or do not. -/
theorem isAbsolute_pathKey_congr {p q : Path} (same : p.bytes.head? = q.bytes.head?) :
    (Path.ofText (pathKey p)).isAbsolute = (Path.ofText (pathKey q)).isAbsolute := by
  rw [Bool.eq_iff_iff, isAbsolute_pathKey_iff, isAbsolute_pathKey_iff, same]

section

variable {p d : Path} {name : Bytes}

/-- The key of a style file is empty exactly if nothing is left of the name of a file that has no directory. -/
theorem registryKey_eq_nil_iff (named : p.fileName = some name) : registryKey p = [] ↔
    p.parent = some ⟨[]⟩ ∧ p.fileStem = some moduleSuffix
      ∧ ∀ extension, p.extension = some extension → Utf8.decode? extension = none := by
  rw [registryKey_eq, pathKey_eq_nil_iff]
  obtain ⟨d, parent, components⟩ := Path.exists_parent_of_fileName named
  rw [parent, Option.some.injEq]
  cases marked : moduleStem? p with
  | none =>
    rw [Style.normalizedPath_of_none marked]
    refine iff_of_false (fun empty => ?_) fun nothing => ?_
    · obtain rfl : p = ⟨[]⟩ := congrArg Path.mk empty
      cases named
    · have isMarked : moduleStem? p = some [] :=
        Style.moduleStem?_eq_some_iff.mpr ⟨nothing.2.1, by decide +kernel⟩
      rw [marked] at isMarked
      cases isMarked
  | some base =>
    have stem := (Style.moduleStem?_eq_some_iff.mp marked).1
    have whole := Style.separator_not_mem_bareName named marked
    rw [Style.normalizedPath_of_some marked parent, Path.join_eq_nil_iff whole, Style.bareName_eq_nil_iff, stem,
      Option.some.injEq, List.append_left_eq_self]

/-- A key leads to the directory of the file exactly if the key of what is left of the name leads nowhere. -/
theorem steps_registryKey_iff (named : p.fileName = some name) (parent : p.parent = some d) :
    ∃ left, Style.servedName p = some left
      ∧ ((Path.ofText (registryKey p)).steps = (Path.ofText (pathKey d)).steps ↔
        keySteps ⟨left⟩ = [] ∧ (d.bytes = [] → (normalizedPath p).bytes.head? ≠ some 0x5C)) := by
  obtain ⟨left, served, whole, steps⟩ := Style.steps_normalizedPath named parent
  rw [← Path.filterMap_ofPiece?_singleton] at steps
  obtain ⟨starts, leads⟩ := Path.steps_eq_append_iff.mp steps
  have further : keySteps (normalizedPath p) = keySteps d ++ keySteps ⟨left⟩ := by
    rw [keySteps_eq, leads, List.filterMap_append, List.flatMap_append, ← keySteps_eq, keySteps_eq ⟨left⟩,
      Path.pieces_of_not_mem whole]
  have starts' : (Path.ofText (pathKey (normalizedPath p))).isAbsolute = (Path.ofText (pathKey d)).isAbsolute ↔
      (d.bytes = [] → (normalizedPath p).bytes.head? ≠ some 0x5C) := by
    by_cases empty : d.bytes = []
    · have relative : d.isAbsolute = false := by rw [Path.isAbsolute, empty]; rfl
      have open' : (Path.ofText (pathKey d)).isAbsolute = false := by
        rw [pathKey_eq_nil_iff.mpr empty]
        rfl
      have notRoot : (normalizedPath p).bytes.head? ≠ some separator :=
        of_decide_eq_false (starts.trans relative)
      rw [open', Bool.eq_false_iff, ne_eq, isAbsolute_pathKey_iff, or_iff_right notRoot]
      exact ⟨fun other _ => other, fun other => other empty⟩
    · obtain ⟨more, split⟩ := Style.prefix_normalizedPath named parent
      have first : (normalizedPath p).bytes.head? = d.bytes.head? := by
        rw [← split, List.head?_append_of_ne_nil _ empty]
      exact iff_of_true (isAbsolute_pathKey_congr first) fun empty' => absurd empty' empty
  refine ⟨left, served, ?_⟩
  rw [registryKey_eq, Path.steps_eq_iff, starts']
  change _ ∧ keySteps (normalizedPath p) = keySteps d ↔ _
  rw [further, and_comm]
  exact and_congr_left' List.append_right_eq_self

/-- Exactly a file with the mark of modules is registered under another path. That is the file of the same directory
and extension whose stem is without the mark, unless the stem is the mark, the extension is no text, or `..` is left of
the name. The key is empty if nothing is left of the name and there is no directory; and it leads to the directory if
the key of what is left of the name leads nowhere. -/
theorem registered_name (named : p.fileName = some name) :
    (¬(normalizedPath p).Equivalent p ↔ hasModuleSuffix p = true)
      ∧ (hasModuleSuffix p = true → (Style.Unmarks p (normalizedPath p) ↔ p.fileStem ≠ some moduleSuffix
        ∧ (∀ extension, p.extension = some extension → (Utf8.decode? extension).isSome = true)
        ∧ name ≠ Utf8.encode "..module.".toList))
      ∧ (registryKey p = [] ↔ p.parent = some ⟨[]⟩ ∧ p.fileStem = some moduleSuffix
        ∧ ∀ extension, p.extension = some extension → Utf8.decode? extension = none)
      ∧ ∃ directory left, p.parent = some directory ∧ Style.servedName p = some left
        ∧ ((Path.ofText (registryKey p)).steps = (Path.ofText (pathKey directory)).steps ↔
          keySteps ⟨left⟩ = [] ∧ (directory.bytes = [] → (normalizedPath p).bytes.head? ≠ some 0x5C)) := by
  refine ⟨?_, fun marked => ?_, registryKey_eq_nil_iff named, ?_⟩
  · rw [Style.normalizedPath_equivalent_iff, Bool.not_eq_false]
  · rw [Style.unmarks_normalizedPath_iff marked, named, ne_eq, ne_eq, Option.some.injEq]
  · obtain ⟨d, parent, _⟩ := Path.exists_parent_of_fileName named
    obtain ⟨left, served, leads⟩ := steps_registryKey_iff named parent
    exact ⟨d, left, parent, served, leads⟩

end

/-- A card's module is registered under the path of its plain stylesheet. -/
theorem registered_name_card :
    (Path.ofText "s/Card.module.css".toList).fileName = some (Utf8.encode "Card.module.css".toList)
      ∧ normalizedPath (.ofText "s/Card.module.css".toList) = .ofText "s/Card.css".toList
      ∧ ¬(normalizedPath (.ofText "s/Card.module.css".toList)).Equivalent (.ofText "s/Card.module.css".toList)
      ∧ Style.Unmarks (.ofText "s/Card.module.css".toList) (normalizedPath (.ofText "s/Card.module.css".toList))
      ∧ registryKey (.ofText "s/Card.module.css".toList) ≠ []
      ∧ (Path.ofText (registryKey (.ofText "s/Card.module.css".toList))).steps ≠
        (Path.ofText (pathKey (.ofText "s".toList))).steps := by
  have named : (Path.ofText "s/Card.module.css".toList).fileName = some (Utf8.encode "Card.module.css".toList) := by
    decide +kernel
  have marked : hasModuleSuffix (.ofText "s/Card.module.css".toList) = true := by decide +kernel
  have directory : (Path.ofText "s/Card.module.css".toList).parent = some (.ofText "s".toList) := by decide +kernel
  have stem : (Path.ofText "s/Card.module.css".toList).fileStem ≠ some moduleSuffix := by decide +kernel
  have isCss : (Path.ofText "s/Card.module.css".toList).extension = some (Utf8.encode "css".toList) := by
    decide +kernel
  have kept : Style.servedName (.ofText "s/Card.module.css".toList) = some (Utf8.encode "Card.css".toList) := by
    decide +kernel
  have further : keySteps ⟨Utf8.encode "Card.css".toList⟩ ≠ [] := by decide +kernel
  obtain ⟨changed, unmarks, empty, d, left, parent, served, leads⟩ := registered_name named
  obtain rfl := Option.some.inj (parent.symm.trans directory)
  obtain rfl := Option.some.inj (served.symm.trans kept)
  refine ⟨named, by decide +kernel, changed.mpr marked, (unmarks marked).mpr ⟨stem, ?_, by decide⟩,
    fun nothing => stem (empty.mp nothing).2.1, fun same => further (leads.mp same).1⟩
  intro extension found
  obtain rfl := Option.some.inj (found.symm.trans isCss)
  rw [Utf8.decode?_encode]
  rfl

/-- An extension that is no text is lost with the mark, and nothing is left of a name that is only the mark: its key is
empty without a directory, and leads to the directory behind one. -/
theorem registered_name_lost :
    hasModuleSuffix ⟨Utf8.encode "s/Card.module.".toList ++ [0xFF]⟩ = true
      ∧ (Path.mk (Utf8.encode "s/Card.module.".toList ++ [0xFF])).extension = some [0xFF]
      ∧ normalizedPath ⟨Utf8.encode "s/Card.module.".toList ++ [0xFF]⟩ = .ofText "s/Card".toList
      ∧ (normalizedPath ⟨Utf8.encode "s/Card.module.".toList ++ [0xFF]⟩).extension = none
      ∧ (Path.ofText ".module".toList).fileName = some moduleSuffix
      ∧ registryKey (.ofText ".module".toList) = []
      ∧ (Path.ofText (registryKey (.ofText "s/.module".toList))).Equivalent (.ofText "s".toList) := by
  refine ⟨by decide +kernel, by decide +kernel, by decide +kernel, by decide +kernel, by decide +kernel, by decide +kernel, ?_⟩
  decide +kernel

end CompanionStyles.Plugin
