import CompanionStyles.Proofs.Path.FileName
import CompanionStyles.Proofs.Text.Encoding

/-!
Paths as text. A separator is read as a slash whatever stands around it, so the text of a path has the texts of its
pieces between slashes. And a path that reads as a text and denotes what the text denotes is that text, byte for byte.
-/

namespace CompanionStyles.Path

/-- Bytes are a piece, or a piece in front of a separator and other bytes. -/
@[elab_as_elim]
theorem pieces_induction {motive : Bytes → Prop} (last : ∀ piece, separator ∉ piece → motive piece)
    (next : ∀ piece rest, separator ∉ piece → motive rest → motive (piece ++ separator :: rest)) (bytes : Bytes) :
    motive bytes := by
  induction length : bytes.length using Nat.strongRecOn generalizing bytes with
  | _ n ih =>
    by_cases separated : separator ∈ bytes
    · obtain ⟨piece, rest, rfl, whole⟩ := List.eq_append_cons_of_mem separated
      have shorter : rest.length < n := by
        rw [← length, List.length_append, List.length_cons]
        omega
      exact next piece rest whole (ih rest.length shorter rest rfl)
    · exact last bytes separated

theorem pieces_ne_nil (bytes : Bytes) : pieces bytes ≠ [] := by
  induction bytes using pieces_induction with
  | last piece whole => simp [pieces_of_not_mem whole]
  | next piece rest whole ih => simp [pieces_append, ih]

theorem intercalate_pieces (bytes : Bytes) : [separator].intercalate (pieces bytes) = bytes := by
  induction bytes using pieces_induction with
  | last piece whole => simp [pieces_of_not_mem whole, List.intercalate]
  | next piece rest whole ih =>
    obtain ⟨first, others, split⟩ := List.exists_cons_of_ne_nil (pieces_ne_nil rest)
    rw [split] at ih
    rw [pieces_append, pieces_of_not_mem whole, split, List.singleton_append, List.intercalate,
      List.intersperse_cons_cons, List.flatten_cons, List.flatten_cons, ← List.intercalate, ih]
    rfl

/-- Bytes are determined by their pieces. -/
theorem pieces_inj {bytes bytes' : Bytes} (same : pieces bytes = pieces bytes') : bytes = bytes' := by
  rw [← intercalate_pieces bytes, same, intercalate_pieces]

theorem separator_not_mem_encode_decodeLossy {piece : Bytes} (whole : separator ∉ piece) :
    separator ∉ Utf8.encode (Utf8.decodeLossy piece) := by
  intro inside
  obtain ⟨c, among, value⟩ := (Utf8.mem_encode_iff (by decide)).mp inside
  have isSlash : c = '/' := Char.toNat_inj.mp value
  subst isSlash
  exact whole (Utf8.mem_of_mem_decodeLossy among (by decide) separator (by decide))

/-- The pieces of the text of a path are the texts of its pieces. -/
theorem pieces_encode_decodeLossy (bytes : Bytes) :
    pieces (Utf8.encode (Utf8.decodeLossy bytes)) =
      (pieces bytes).map fun piece => Utf8.encode (Utf8.decodeLossy piece) := by
  induction bytes using pieces_induction with
  | last piece whole =>
    rw [pieces_of_not_mem whole, pieces_of_not_mem (separator_not_mem_encode_decodeLossy whole)]
    rfl
  | next piece rest whole ih =>
    have slash : Utf8.encode (Char.ofNat separator.toNat :: Utf8.decodeLossy rest) =
        separator :: Utf8.encode (Utf8.decodeLossy rest) := rfl
    rw [Utf8.decodeLossy_append (by decide), Utf8.encode_append, slash, pieces_append, ih, pieces_append,
      List.map_append, pieces_of_not_mem whole, pieces_of_not_mem (separator_not_mem_encode_decodeLossy whole)]
    rfl

/-- A piece names nothing, or the directory above, or is a name. -/
theorem piece_cases {bytes piece : Bytes} (inside : piece ∈ pieces bytes) :
    piece = [] ∨ piece = [dot] ∨ piece = [dot, dot] ∨ IsName piece := by
  by_cases empty : piece = []
  · exact .inl empty
  by_cases isDot : piece = [dot]
  · exact .inr (.inl isDot)
  by_cases isDots : piece = [dot, dot]
  · exact .inr (.inr (.inl isDots))
  exact .inr (.inr (.inr ⟨empty, isDot, isDots, separator_not_mem_of_mem_pieces inside⟩))

theorem IsName.mem_filterMap_iff {name : Bytes} (isName : IsName name) {found : List Bytes} :
    .name name ∈ found.filterMap Component.ofPiece? ↔ name ∈ found := by
  rw [List.mem_filterMap]
  constructor
  · rintro ⟨piece, among, named⟩
    rwa [eq_of_ofPiece?_eq_name named] at among
  · exact fun among => ⟨name, among, isName.ofPiece?_eq⟩

/-- The names that a path denotes are those among its pieces. -/
theorem name_mem_components_iff {p : Path} {name : Bytes} :
    .name name ∈ p.components ↔ IsName name ∧ name ∈ pieces p.bytes := by
  have among : .name name ∈ p.components ↔ .name name ∈ (pieces p.bytes).filterMap Component.ofPiece? := by
    rw [components, filterMap_pieces_drop, List.mem_append, or_iff_right (p.name_not_mem_start name)]
  constructor
  · intro inside
    have isName := isName_of_mem_components inside
    exact ⟨isName, isName.mem_filterMap_iff.mp (among.mp inside)⟩
  · rintro ⟨isName, inside⟩
    exact among.mpr (isName.mem_filterMap_iff.mpr inside)

/-- A path that reads as a text and denotes what the text denotes is the text. -/
theorem Equivalent.eq_ofText {p : Path} {text : List Char} (same : p.Equivalent (ofText text))
    (reads : Utf8.decodeLossy p.bytes = text) : p = ofText text := by
  have texts := pieces_encode_decodeLossy p.bytes
  rw [reads] at texts
  have isText : ∀ piece ∈ pieces p.bytes, Utf8.encode (Utf8.decodeLossy piece) = piece := by
    intro piece inside
    have read : ∀ text, Utf8.encode (Utf8.decodeLossy (Utf8.encode text)) = Utf8.encode text := fun text => by
      rw [Utf8.decodeLossy_encode]
    rcases piece_cases inside with rfl | rfl | rfl | isName
    · exact read []
    · exact read ['.']
    · exact read ['.', '.']
    · -- a name is one of the text's too, and those are texts
      have among := name_mem_components_iff.mpr ⟨isName, inside⟩
      rw [same] at among
      have inText := (name_mem_components_iff.mp among).2
      rw [ofText, texts] at inText
      obtain ⟨other, _, rfl⟩ := List.mem_map.mp inText
      rw [Utf8.decodeLossy_encode]
  have pieced : pieces (Utf8.encode text) = pieces p.bytes :=
    texts.trans ((List.map_congr_left isText).trans (List.map_id _))
  exact congrArg Path.mk (pieces_inj pieced).symm

end CompanionStyles.Path
