import CompanionStyles.Proofs.Plugin.Validated
import CompanionStyles.Proofs.VirtualModule.Id

/-!
Which ids a plugin takes for its own. Ids without the prefix of virtual modules are left to others by all hooks;
those with the prefix and a slash behind it are claimed by all of them. Marked or not, an id is served alike, and is
never transformed.
-/

namespace CompanionStyles

namespace VirtualModule

/-- A virtual id starts with the prefix, perhaps behind one mark. -/
theorem isVirtual_iff {id : List Char} :
    isVirtual id = true ↔ ∃ mark, (mark = [] ∨ mark = [resolvedMark]) ∧ mark ++ idPrefix <+: id := by
  rw [isVirtual, List.isPrefixOf_iff_prefix]
  constructor
  · intro starts
    obtain ⟨mark, marked, split⟩ := exists_mark id
    refine ⟨mark, marked, ?_⟩
    rw [split, List.prefix_append_right_inj]
    exact starts
  · rintro ⟨mark, marked, rest, rfl⟩
    rw [List.append_assoc, withoutMark_append marked]
    exact List.prefix_append idPrefix rest

theorem resolveId_eq_some_iff {id resolved : List Char} :
    resolveId id = some resolved ↔ idPrefix <+: id ∧ resolved = resolvedMark :: id := by
  rw [resolveId, ← List.isPrefixOf_iff_prefix]
  split
  · rename_i starts
    rw [Option.some.injEq, and_iff_right starts, eq_comm]
  · rename_i other
    exact iff_of_false (by simp) fun claimed => other claimed.1

/-- An id with the prefix has no mark. -/
theorem withoutMark_of_prefix {id : List Char} (starts : idPrefix <+: id) : withoutMark id = id := by
  obtain ⟨rest, rfl⟩ := starts
  exact withoutMark_append (.inl rfl) rest

theorem decodeId_marked {id : List Char} (starts : idPrefix <+: id) :
    decodeId (resolvedMark :: id) = decodeId id := by
  have bare : withoutMark (resolvedMark :: id) = withoutMark id := by
    rw [withoutMark, if_pos rfl, withoutMark_of_prefix starts]
  rw [decodeId, decodeId, bare]

/-- An id that names a path is virtual. -/
theorem isVirtual_of_decodeId {id path : List Char} (decoded : decodeId id = some path) : isVirtual id = true := by
  obtain ⟨mark, token, marked, _, _, _, rfl⟩ := decodeId_eq_some_iff.mp decoded
  exact isVirtual_iff.mpr ⟨mark, marked, _, List.append_assoc mark idPrefix _⟩

end VirtualModule

namespace Plugin

open VirtualModule

/-- Modules that are not virtual are not served, and every virtual one is, or fails. -/
theorem load_eq_none_iff {p : Plugin} {id : List Char} : p.load id = .ok none ↔ isVirtual id = false := by
  rw [load]
  split
  · rename_i virtual
    rw [virtual]
    cases p.registry.resolveContent id with
    | error failure => exact iff_of_false (by simp [Except.map]) (by simp)
    | ok css => exact iff_of_false (by simp [Except.map]) (by simp)
  · rename_i other
    exact iff_of_true rfl (eq_false_of_ne_true other)

theorem load_ne_none {p : Plugin} {id : List Char} (virtual : isVirtual id = true) : p.load id ≠ .ok none := by
  rw [ne_eq, load_eq_none_iff, virtual]
  decide

/-- The text of a module is the one that is registered for the path that its id names. -/
theorem load_eq_text_iff {p : Plugin} {id css : List Char} :
    p.load id = .ok (some css) ↔ ∃ path, decodeId id = some path ∧ p.registry.get? path = some css := by
  rw [load, Registry.resolveContent]
  cases decoded : decodeId id with
  | none =>
    have fails : ¬∃ path, none = some path ∧ p.registry.get? path = some css := by simp
    refine iff_of_false ?_ fails
    split <;> simp [Except.map]
  | some path =>
    rw [if_pos (isVirtual_of_decodeId decoded)]
    cases found : p.registry.get? path with
    | none => simp [found, Except.map]
    | some text => simp [found, Except.map]

theorem load_of_decodeId_eq_none {p : Plugin} {id : List Char} (virtual : isVirtual id = true)
    (nameless : decodeId id = none) : p.load id = .error (.moduleNotFound id) := by
  rw [load, if_pos virtual, Registry.resolveContent, nameless]
  rfl

/-- Ids that name the same path are served alike. -/
theorem load_congr {p : Plugin} {id other path : List Char} (decoded : decodeId id = some path)
    (decoded' : decodeId other = some path) : p.load id = p.load other := by
  rw [load, load, if_pos (isVirtual_of_decodeId decoded), if_pos (isVirtual_of_decodeId decoded'),
    Registry.resolveContent, Registry.resolveContent, decoded, decoded']

theorem transform_of_isForeign {p : Plugin} {id : List Char} (foreign : isForeign id = true) (tree : FileTree)
    (code : List Char) : p.transform tree code id = pure (p, none) := by
  rw [transform, if_pos foreign]

/-- No hook claims an id without the prefix, and all of them claim one with the prefix and a slash behind it. An id
that is resolved gets the mark; then it is served as it was without, but that a failure tells an id that names no
path as it was asked for; and neither of the two is transformed, whatever its code. What is served is what is
registered for the path that the id names. -/
theorem hooks_agree (p : Plugin) (id : List Char) :
    (resolveId id ≠ none → idPrefix <+: id)
    ∧ (p.load id ≠ .ok none → ∃ mark, (mark = [] ∨ mark = [resolvedMark]) ∧ mark ++ idPrefix <+: id)
    ∧ (idPrefix ++ ['/'] <+: id → resolveId id = some (resolvedMark :: id)
      ∧ p.load id ≠ .ok none ∧ p.load (resolvedMark :: id) ≠ .ok none)
    ∧ (∀ resolved, resolveId id = some resolved →
      (p.load resolved = p.load id ∨ decodeId id = none ∧ p.load id = .error (.moduleNotFound id)
        ∧ p.load resolved = .error (.moduleNotFound resolved))
      ∧ ∀ tree code, p.transform tree code id = pure (p, none) ∧ p.transform tree code resolved = pure (p, none))
    ∧ ∀ css, p.load id = .ok (some css) ↔ ∃ path, decodeId id = some path ∧ p.registry.get? path = some css := by
  have bare : ∀ {id : List Char}, idPrefix <+: id → isVirtual id = true := fun starts =>
    isVirtual_iff.mpr ⟨[], .inl rfl, starts⟩
  have marked : idPrefix <+: id → isVirtual (resolvedMark :: id) = true := fun starts =>
    isVirtual_iff.mpr ⟨[resolvedMark], .inr rfl, List.cons_prefix_cons.mpr ⟨rfl, starts⟩⟩
  refine ⟨?_, ?_, ?_, ?_, fun css => load_eq_text_iff⟩
  · intro claimed
    obtain ⟨resolved, resolves⟩ := Option.ne_none_iff_exists'.mp claimed
    exact (resolveId_eq_some_iff.mp resolves).1
  · intro served
    rw [ne_eq, load_eq_none_iff, Bool.not_eq_false] at served
    exact isVirtual_iff.mp served
  · intro slashed
    have starts : idPrefix <+: id := (List.prefix_append idPrefix ['/']).trans slashed
    exact ⟨resolveId_eq_some_iff.mpr ⟨starts, rfl⟩, load_ne_none (bare starts), load_ne_none (marked starts)⟩
  · intro resolved resolves
    obtain ⟨starts, rfl⟩ := resolveId_eq_some_iff.mp resolves
    have same := decodeId_marked starts
    refine ⟨?_, fun tree code => ⟨transform_of_isForeign ?_ tree code, transform_of_isForeign ?_ tree code⟩⟩
    · cases decoded : decodeId id with
      | none =>
        exact .inr ⟨rfl, load_of_decodeId_eq_none (bare starts) decoded,
          load_of_decodeId_eq_none (marked starts) (same.trans decoded)⟩
      | some path => exact .inl (load_congr (same.trans decoded) decoded)
    · rw [isForeign, bare starts, Bool.or_true]
    · rw [isForeign, marked starts, Bool.or_true]

/-- The prefix alone is enough to be claimed: an id in which no slash follows it is resolved, and then fails. And a
failure tells the mark of the id that was asked for. -/
theorem prefix_alone_claimed :
    ∃ p, (create (.ofSettings .default)).result = .ok p
      ∧ ¬idPrefix ++ ['/'] <+: "virtual:auto-css-modules-more/x".toList
      ∧ resolveId "virtual:auto-css-modules-more/x".toList =
        some "\x00virtual:auto-css-modules-more/x".toList
      ∧ p.load "virtual:auto-css-modules-more/x".toList =
        .error (.moduleNotFound "virtual:auto-css-modules-more/x".toList)
      ∧ resolveId "virtual:auto-css-modules/x".toList = some "\x00virtual:auto-css-modules/x".toList
      ∧ p.load "\x00virtual:auto-css-modules/x".toList ≠ p.load "virtual:auto-css-modules/x".toList := by
  obtain ⟨p, created, _⟩ := create_default
  have served : p.load "virtual:auto-css-modules/x".toList =
      .error (.moduleNotFound "virtual:auto-css-modules/x".toList) :=
    load_of_decodeId_eq_none (by decide) (by decide)
  have served' : p.load "\x00virtual:auto-css-modules/x".toList =
      .error (.moduleNotFound "\x00virtual:auto-css-modules/x".toList) :=
    load_of_decodeId_eq_none (by decide) (by decide)
  refine ⟨p, created, by decide, by decide, load_of_decodeId_eq_none (by decide) (by decide), by decide, ?_⟩
  rw [served, served']
  decide

end Plugin

end CompanionStyles
