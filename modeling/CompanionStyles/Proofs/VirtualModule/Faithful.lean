import CompanionStyles.Proofs.Text.Encoding
import CompanionStyles.Proofs.VirtualModule.Id

/-!
Ids as a code. The path is read back from every id that is made for it, ids of another spelling name no path,
and two ids are the same only if they are made for one path and for one content, or for contents that the first
word of the digest does not tell apart.
-/

namespace CompanionStyles.VirtualModule

/-- For one path, the digests of different contents are those of different bytes. -/
theorem tokenInput_inj {path : List Char} {css css' : Option (List Char)}
    (same : tokenInput path css = tokenInput path css') : css = css' := by
  have longer : ∀ text, tokenInput path (some text) ≠ tokenInput path none := by
    intro text equal
    have length := congrArg List.length equal
    simp [tokenInput] at length
  cases css with
  | none =>
    cases css' with
    | none => rfl
    | some text => exact absurd same.symm (longer text)
  | some text =>
    cases css' with
    | none => exact absurd same (longer text)
    | some text' =>
      have behind := List.append_cancel_left same
      rw [Utf8.encode_inj (List.cons.inj behind).2]

/-- An id is made of its token and its path. -/
theorem virtualId_eq_iff {path path' : List Char} {css css' : Option (List Char)} :
    virtualId path css = virtualId path' css' ↔ token path css = token path' css' ∧ path = path' := by
  rw [virtualId_eq, virtualId_eq]
  constructor
  · intro same
    have behind := (List.cons.inj (List.append_cancel_left same)).2
    obtain ⟨tokens, paths⟩ := List.append_inj behind ((length_token path css).trans (length_token path' css').symm)
    exact ⟨tokens, (List.cons.inj paths).2⟩
  · rintro ⟨tokens, rfl⟩
    rw [tokens]

/-- A path that is not empty is read back from its ids, marked or not, whatever it contains. An id names a path
if and only if it is, perhaps behind one mark, the prefix, a token without slashes and the path, with slashes
between them. And ids are the same if and only if their paths are, and so are the contents, or the digests of
the different bytes for them start with the same 32 bits. -/
theorem ids_faithful (path path' id : List Char) (css css' : Option (List Char)) :
    (path ≠ [] → decodeId (virtualId path css) = some path
      ∧ ∃ resolved, resolveId (virtualId path css) = some resolved ∧ decodeId resolved = some path)
    ∧ (decodeId id = some path ↔ ∃ mark token, (mark = [] ∨ mark = [resolvedMark]) ∧ token ≠ [] ∧ '/' ∉ token
      ∧ path ≠ [] ∧ id = mark ++ (idPrefix ++ '/' :: (token ++ '/' :: path)))
    ∧ (virtualId path css = virtualId path' css' ↔ path = path' ∧ (css = css'
      ∨ tokenInput path css ≠ tokenInput path' css'
        ∧ (Sha256.digest (tokenInput path css)).head? = (Sha256.digest (tokenInput path' css')).head?)) := by
  refine ⟨fun named => ⟨?_, _, resolveId_virtualId path css, ?_⟩, decodeId_eq_some_iff, ?_⟩
  · exact Names.decodeId ⟨css, .inl rfl⟩ named
  · exact Names.decodeId ⟨css, .inr rfl⟩ named
  · rw [virtualId_eq_iff, token_eq_iff]
    constructor
    · rintro ⟨start, rfl⟩
      by_cases same : css = css'
      · exact ⟨rfl, .inl same⟩
      · exact ⟨rfl, .inr ⟨fun equal => same (tokenInput_inj equal), start⟩⟩
    · rintro ⟨rfl, rfl | ⟨_, start⟩⟩
      · exact ⟨rfl, rfl⟩
      · exact ⟨start, rfl⟩

/-- A path that starts like a marked id itself is read back. And there are contents of one path with one id: the
digests for them start with the same 32 bits. -/
theorem ids_faithful_alike :
    (∃ resolved, resolveId (virtualId "\x00virtual:auto-css-modules/0/a.css".toList none) = some resolved
      ∧ decodeId resolved = some "\x00virtual:auto-css-modules/0/a.css".toList)
    ∧ virtualId "a.css".toList (some ".iaz".toList) = virtualId "a.css".toList (some ".aild".toList)
    ∧ tokenInput "a.css".toList (some ".iaz".toList) ≠ tokenInput "a.css".toList (some ".aild".toList) := by
  have alike : virtualId "a.css".toList (some ".iaz".toList) = virtualId "a.css".toList (some ".aild".toList) := by
    decide +kernel
  have marked := ids_faithful "\x00virtual:auto-css-modules/0/a.css".toList [] [] none none
  have same := ids_faithful "a.css".toList "a.css".toList [] (some ".iaz".toList) (some ".aild".toList)
  obtain ⟨_, equal | ⟨distinct, _⟩⟩ := same.2.2.mp alike
  · exact absurd equal (by decide)
  · exact ⟨(marked.1 (by decide)).2, alike, distinct⟩

end CompanionStyles.VirtualModule
