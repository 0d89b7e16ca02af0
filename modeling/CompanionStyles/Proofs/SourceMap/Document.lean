import CompanionStyles.Proofs.Json.Reading
import CompanionStyles.Proofs.SourceMap.Decoding

/-!
Source maps as JSON texts. A map is read back as a record with one source, its text, and the encoded mappings.
-/

namespace CompanionStyles.SourceMap

open Json

/-- A source map as it is read; what a text does not give is empty. -/
structure Document where
  version : Number
  file : List Char
  sources : List (List Char)
  sourcesContent : List (List Char)
  names : List (List Char)
  mappings : List Char
  deriving DecidableEq, Repr

namespace Document

def readVersion : Reader Number := fun text =>
  match skipBlanks text with
  | [] => .error (wrongType "a number" [])
  | c :: rest => if c.isDigit then readNumber false (c :: rest) else .error (wrongType "a number" (c :: rest))

def fields : List (RecordField Document) := [
  ⟨"version", fun d text => (readVersion text).map fun (v, rest) => ({ d with version := v }, rest)⟩,
  ⟨"file", fun d text => (readString text).map fun (v, rest) => ({ d with file := v }, rest)⟩,
  ⟨"sources", fun d text => (readList readString text).map fun (v, rest) => ({ d with sources := v }, rest)⟩,
  ⟨"sourcesContent", fun d text => (readList readString text).map fun (v, rest) =>
    ({ d with sourcesContent := v }, rest)⟩,
  ⟨"names", fun d text => (readList readString text).map fun (v, rest) => ({ d with names := v }, rest)⟩,
  ⟨"mappings", fun d text => (readString text).map fun (v, rest) => ({ d with mappings := v }, rest)⟩]

def read : Reader Document :=
  readRecord "struct SourceMap" fields ⟨.whole 0, [], [], [], [], []⟩

/-- The record that a text is read as, with nothing behind it. -/
def of? (text : List Char) : Option Document :=
  (Json.parse read text).toOption

end Document

theorem mem_encodeFrom {first : Bool} {generated source : Cursor} {mappings : List Mapping} {c : Char}
    (member : c ∈ encodeFrom first generated source mappings) : c ∈ ',' :: ';' :: Base64.standardDigits := by
  induction mappings generalizing first generated source with
  | nil => exact absurd member List.not_mem_nil
  | cons m rest ih =>
    rw [encodeFrom, List.append_assoc, List.mem_append, List.mem_append] at member
    rcases member with mark | segment | later
    · split at mark
      · split at mark
        · exact absurd mark List.not_mem_nil
        · rw [List.mem_singleton.mp mark]
          exact List.mem_cons_self
      · rw [(List.mem_replicate.mp mark).2]
        exact List.mem_cons_of_mem _ List.mem_cons_self
    · exact List.mem_cons_of_mem _ (List.mem_cons_of_mem _ (mem_encodeMapping segment))
    · exact ih later

theorem flatMap_escapedChar_of_plain {text : List Char} (plain : ∀ c ∈ text, escapedChar c = [c]) :
    text.flatMap escapedChar = text := by
  induction text with
  | nil => rfl
  | cons c text ih =>
    rw [List.flatMap_cons, plain c List.mem_cons_self, ih fun d later => plain d (List.mem_cons_of_mem c later)]
    rfl

/-- Encoded mappings stand in a string as they are. -/
theorem quote_encode (mappings : List Mapping) : quote (encode mappings) = '"' :: encode mappings ++ ['"'] := by
  have plain : (',' :: ';' :: Base64.standardDigits).all (fun c => escapedChar c = [c]) = true := by decide
  have same : (encode mappings).flatMap escapedChar = encode mappings :=
    flatMap_escapedChar_of_plain fun c member =>
      of_decide_eq_true (List.all_eq_true.mp plain c (mem_encodeFrom member))
  rw [quote, same]

theorem toJson_eq (name source : List Char) (mappings : List Mapping) :
    toJson name source mappings = Settings.writeObject [("version", ['3']), ("file", quote name),
      ("sources", Settings.writeList [name]), ("sourcesContent", Settings.writeList [source]),
      ("names", Settings.writeList []), ("mappings", quote (encode mappings))] := by
  have file : "\x7b\"version\":3,\"file\":".toList =
      '\x7b' :: (quote "version".toList ++ ':' :: '3' :: ',' :: (quote "file".toList ++ [':'])) := by decide
  have sources : ",\"sources\":[".toList = ',' :: (quote "sources".toList ++ [':', '[']) := by decide
  have content : "],\"sourcesContent\":[".toList = ']' :: ',' :: (quote "sourcesContent".toList ++ [':', '[']) := by
    decide
  have names : "],\"names\":[],\"mappings\":\"".toList = ']' :: ',' :: (quote "names".toList ++
      ':' :: '[' :: ']' :: ',' :: (quote "mappings".toList ++ [':', '"'])) := by decide
  have last : "\"\x7d".toList = ['"', '\x7d'] := by decide
  unfold toJson
  simp only [quote_encode, file, sources, content, names, last, Settings.writeObject, Settings.writeList,
    Settings.commaSeparated, List.map_cons, List.map_nil, List.append_assoc, List.cons_append, List.nil_append]

theorem reads_version : Reads Document.readVersion ['3'] (.whole 3) := by
  refine ⟨⟨'3', [], rfl, rfl, by decide⟩, fun front rest blank ends => ?_⟩
  rw [Document.readVersion, List.singleton_append, skipBlanks_front blank (by decide)]
  cases rest with
  | nil => rfl
  | cons c rest =>
    -- no digit, no point and no exponent goes on with the number
    have mark : c ∈ [' ', '\n', '\t', '\r', ',', ']', '\x7d'] := by
      rcases ends c rfl with blank | mark
      · unfold isBlank at blank
        simp only [decide_eq_true_eq] at blank
        rcases blank with rfl | rfl | rfl | rfl <;> decide
      · exact List.mem_append_right [' ', '\n', '\t', '\r'] mark
    simp only [List.mem_cons, List.not_mem_nil, or_false] at mark
    rcases mark with rfl | rfl | rfl | rfl | rfl | rfl | rfl <;> rfl

/-- A map is read back as it was written. -/
theorem of?_toJson (name source : List Char) (mappings : List Mapping) :
    Document.of? (toJson name source mappings) =
      some ⟨.whole 3, name, [name], [source], [], encode mappings⟩ := by
  have texts : ∀ texts, Reads (readList readString) (Settings.writeList texts) texts := fun texts =>
    reads_list (fun _ _ spelled => reads_string spelled) (spellsList_writeList texts)
  have text : ∀ text, Reads readString (quote text) text := fun text => reads_string (spellsString_quote text)
  have gives : Gives Document.fields [] ⟨.whole 0, [], [], [], [], []⟩ [("version", ['3']), ("file", quote name),
      ("sources", Settings.writeList [name]), ("sourcesContent", Settings.writeList [source]),
      ("names", Settings.writeList []), ("mappings", quote (encode mappings))]
      ⟨.whole 3, name, [name], [source], [], encode mappings⟩ := by
    refine .member Document.fields[0] ⟨.whole 3, [], [], [], [], []⟩ rfl (by decide)
      (reads_version.map fun v => (⟨v, [], [], [], [], []⟩ : Document)) ?_
    refine .member Document.fields[1] ⟨.whole 3, name, [], [], [], []⟩ rfl (by decide)
      ((text name).map fun v => (⟨.whole 3, v, [], [], [], []⟩ : Document)) ?_
    refine .member Document.fields[2] ⟨.whole 3, name, [name], [], [], []⟩ rfl (by decide)
      ((texts [name]).map fun v => (⟨.whole 3, name, v, [], [], []⟩ : Document)) ?_
    refine .member Document.fields[3] ⟨.whole 3, name, [name], [source], [], []⟩ rfl (by decide)
      ((texts [source]).map fun v => (⟨.whole 3, name, [name], v, [], []⟩ : Document)) ?_
    refine .member Document.fields[4] ⟨.whole 3, name, [name], [source], [], []⟩ rfl (by decide)
      ((texts []).map fun v => (⟨.whole 3, name, [name], [source], v, []⟩ : Document)) ?_
    exact .member Document.fields[5] _ rfl (by decide)
      ((text (encode mappings)).map fun v => (⟨.whole 3, name, [name], [source], [], v⟩ : Document)) .done
  have distinct : ["version", "file", "sources", "sourcesContent", "names", "mappings"].Nodup := by decide
  have read : Json.parse Document.read (toJson name source mappings)
      = .ok ⟨.whole 3, name, [name], [source], [], encode mappings⟩ := by
    rw [toJson_eq]
    exact parse_document (fun body spelled => gives.reads "struct SourceMap" spelled)
      ⟨[], _, [], blanks_nil, blanks_nil, spellsObject_writeObject distinct, (List.append_nil _).symm⟩
  rw [Document.of?, read]
  rfl

end CompanionStyles.SourceMap
