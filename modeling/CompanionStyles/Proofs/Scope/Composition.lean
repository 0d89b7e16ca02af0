import CompanionStyles.Proofs.Entries
import CompanionStyles.Proofs.Text.Encoding
import CompanionStyles.Style.Compile

/-!
What the manifest calls a class: its own scoped name, and behind it the classes that its stylesheet composes it of,
each once and in the order in which they are first named. A class that is reached through another one only is not
among them, unless it is composed directly as well, and no class of another file is.
-/

namespace CompanionStyles

namespace Manifest

theorem get?_insert (m : Manifest) (name value other : String) :
    (m.insert name value).get? other = if other = name then some value else m.get? other := by
  obtain ⟨entries⟩ := m
  unfold insert get?
  dsimp only
  induction entries with
  | nil => rw [insertEntry, Entries.lookup_cons_ite]
  | cons entry entries ih =>
    obtain ⟨key, old⟩ := entry
    rw [insertEntry]
    by_cases here : name = key
    · rw [if_pos here, Entries.lookup_cons_ite, Entries.lookup_cons_ite, here]
      by_cases same : other = key <;> simp only [same, if_true, if_false]
    · rw [if_neg here]
      split
      · rw [Entries.lookup_cons_ite]
      · rw [Entries.lookup_cons_ite, Entries.lookup_cons_ite, ih]
        by_cases same : other = key
        · rw [if_pos same, if_pos same, if_neg fun again : other = name => here (again ▸ same)]
        · rw [if_neg same, if_neg same]

/-- Entries of different names are found by their names. -/
theorem get?_ofList {entries : List (String × String)} (distinct : (entries.map Prod.fst).Nodup) (name : String) :
    (ofList entries).get? name = entries.lookup name := by
  have fold : ∀ m : Manifest, (entries.foldl (fun m entry => m.insert entry.1 entry.2) m).get? name =
      (entries.lookup name).or (m.get? name) := by
    induction entries with
    | nil => exact fun m => rfl
    | cons entry entries ih =>
      obtain ⟨key, value⟩ := entry
      obtain ⟨new, others⟩ := List.nodup_cons.mp distinct
      intro m
      rw [List.foldl_cons, ih others, get?_insert, Entries.lookup_cons_ite]
      by_cases same : name = key
      · rw [same, Entries.lookup_of_not_mem new, if_pos rfl, if_pos rfl, Option.none_or, Option.some_or]
      · rw [if_neg same, if_neg same]
  exact (fold empty).trans Option.or_none

end Manifest

namespace Scope

open Stylesheet

/-- An export with more references behind its own, those left out that are there already. -/
def Export.composing (e : Export) (references : List Reference) : Export :=
  { e with composes := references.foldl (fun all r => if r ∈ all then all else all ++ [r]) e.composes }

theorem Export.composing_nil (e : Export) : e.composing [] = e :=
  rfl

theorem Export.composing_append (e : Export) (first second : List Reference) :
    e.composing (first ++ second) = (e.composing first).composing second := by
  rw [composing, List.foldl_append]
  rfl

theorem eraseDups_concat (references : List Reference) (r : Reference) :
    (references ++ [r]).eraseDups =
      if r ∈ references.eraseDups then references.eraseDups else references.eraseDups ++ [r] := by
  rw [List.eraseDups_append]
  by_cases inside : r ∈ references
  · simp [inside, List.removeAll]
  · simp [inside, List.removeAll, List.eraseDups_cons]

/-- Of references for a new name each stays once, where it occurs first. -/
theorem Export.composing_new (name : List Char) (references : List Reference) :
    (⟨name, []⟩ : Export).composing references = ⟨name, references.eraseDups⟩ := by
  have fold : ∀ before : List Reference,
      references.foldl (fun all r => if r ∈ all then all else all ++ [r]) before.eraseDups
        = (before ++ references).eraseDups := by
    induction references with
    | nil => intro before; rw [List.foldl_nil, List.append_nil]
    | cons r references ih =>
      intro before
      rw [List.foldl_cons, ← eraseDups_concat, ih, List.append_assoc, List.singleton_append]
  exact congrArg (Export.mk name) (fold [])

namespace Exports

theorem lookup_add (table : Exports) (name scopedName localName : List Char) :
    (table.add name scopedName).lookup localName =
      (table.lookup localName).or (if localName = name then some ⟨scopedName, []⟩ else none) := by
  unfold add
  split
  · rename_i e known
    by_cases same : localName = name
    · rw [same, known, Option.some_or]
    · rw [if_neg same, Option.or_none]
  · exact Entries.lookup_concat table name _ localName

theorem lookup_compose (table : Exports) (className localName : List Char) (r : Reference) :
    (table.compose className r).lookup localName =
      (table.lookup localName).map fun e => e.composing (if className = localName then [r] else []) := by
  have keyed : table.compose className r = table.map fun entry =>
      (entry.1, entry.2.composing (if className = entry.1 then [r] else [])) := by
    refine List.map_congr_left fun ⟨key, e⟩ _ => ?_
    by_cases here : key = className
    · subst here
      by_cases listed : r ∈ e.composes <;> simp [Export.composing, listed]
    · have other : className ≠ key := fun same => here same.symm
      simp [here, other, Export.composing_nil]
  rw [keyed]
  exact Entries.lookup_map (fun key e => e.composing (if className = key then [r] else [])) table localName

theorem keys_add (table : Exports) (name scopedName : List Char) (distinct : (table.map Prod.fst).Nodup) :
    ((table.add name scopedName).map Prod.fst).Nodup := by
  unfold add
  split
  · exact distinct
  · rename_i unknown
    rw [List.map_append, List.nodup_append]
    refine ⟨distinct, by simp, ?_⟩
    rintro key member other single rfl
    obtain rfl : key = name := by simpa using single
    obtain ⟨entry, found, rfl⟩ := List.mem_map.mp member
    exact absurd rfl (bne_iff_ne.mp (List.lookup_eq_none_iff.mp unknown entry found))

theorem keys_compose (table : Exports) (className : List Char) (r : Reference) :
    (table.compose className r).map Prod.fst = table.map Prod.fst := by
  rw [compose, List.map_map]
  refine List.map_congr_left fun ⟨key, e⟩ _ => ?_
  rw [Function.comp_apply]
  dsimp only
  split <;> rfl

/-- The manifest has an entry for every export of a table without repetitions. -/
theorem get?_manifest {table : Exports} (distinct : (table.map Prod.fst).Nodup) (name : String) :
    table.manifest.get? name = (table.lookup name.toList).map fun e => String.ofList e.classes := by
  have spelled : ∀ table : Exports,
      (table.map fun entry => (String.ofList entry.1, String.ofList entry.2.classes)).lookup name =
        (table.lookup name.toList).map fun e => String.ofList e.classes := by
    intro table
    induction table with
    | nil => rfl
    | cons entry table ih =>
      obtain ⟨key, e⟩ := entry
      rw [List.map_cons, Entries.lookup_cons_ite, Entries.lookup_cons_ite, ih]
      by_cases same : name.toList = key
      · rw [if_pos same, if_pos (by rw [← same, String.ofList_toList])]
        rfl
      · rw [if_neg same, if_neg fun again : name = String.ofList key => same (by rw [again, String.toList_ofList])]
  have keys : (table.map fun entry => (String.ofList entry.1, String.ofList entry.2.classes)).map Prod.fst =
      (table.map Prod.fst).map String.ofList := by
    rw [List.map_map, List.map_map]
    rfl
  rw [manifest, Manifest.get?_ofList, spelled]
  rw [keys]
  exact List.Pairwise.map _ (fun first second apart same => apart (String.ofList_injective same)) distinct

end Exports

/-- The name that a piece makes known, and what it is called. -/
def names? (n : Naming) : Piece → Option (List Char × List Char)
  | .name name => some (name, n.scope name)
  | .mention name => some (name, n.scope name)
  | .gridName name => some (name, n.scope name)
  | .dashed name .sheet => if n.dashed then some ('-' :: '-' :: name, '-' :: '-' :: n.scope name) else none
  | _ => none

/-- The classes that a piece composes, each with a class that it is composed of. -/
def composings (n : Naming) : Piece → List (List Char × Reference)
  | .compose className names origin => names.map fun name => (className, referenceTo n name origin)
  | _ => []

/-- What a phrase composes a class of. -/
def composedBy (n : Naming) (className : List Char) (phrase : Phrase) : List Reference :=
  ((phrase.flatMap (composings n)).filter (·.1 = className)).map (·.2)

/-- A phrase makes a name known: by the first of its pieces that does, and composed of what the phrase composes it
of from there on. -/
def Known (n : Naming) (phrase : Phrase) (localName : List Char) (e : Export) : Prop :=
  ∃ before piece after, phrase = before ++ piece :: after ∧ (∀ p ∈ before, ∀ name, names? n p ≠ some (localName, name))
    ∧ names? n piece = some (localName, e.name) ∧ e.composes = (composedBy n localName after).eraseDups

theorem known_cons {n : Naming} {piece : Piece} {rest : Phrase} {localName : List Char} {e : Export} :
    Known n (piece :: rest) localName e ↔
      names? n piece = some (localName, e.name) ∧ e.composes = (composedBy n localName rest).eraseDups
        ∨ (∀ name, names? n piece ≠ some (localName, name)) ∧ Known n rest localName e := by
  constructor
  · rintro ⟨before, known, after, split, unknown, named, composes⟩
    cases before with
    | nil =>
      obtain ⟨rfl, rfl⟩ := List.cons.inj split
      exact .inl ⟨named, composes⟩
    | cons first before =>
      obtain ⟨rfl, rfl⟩ := List.cons.inj split
      obtain ⟨here, unknown⟩ := List.forall_mem_cons.mp unknown
      exact .inr ⟨here, before, known, after, rfl, unknown, named, composes⟩
  · rintro (⟨here, composes⟩ | ⟨here, before, known, after, rfl, unknown, named, composes⟩)
    · exact ⟨[], piece, rest, rfl, List.forall_mem_nil _, here, composes⟩
    · exact ⟨piece :: before, known, after, rfl, List.forall_mem_cons.mpr ⟨here, unknown⟩, named, composes⟩

theorem composedBy_cons (n : Naming) (className : List Char) (piece : Piece) (rest : Phrase) :
    composedBy n className (piece :: rest) = composedBy n className [piece] ++ composedBy n className rest := by
  simp [composedBy]

namespace Exports

/-- The table with the classes composed of one another. -/
def composeAll (table : Exports) (pairs : List (List Char × Reference)) : Exports :=
  pairs.foldl (fun table pair => table.compose pair.1 pair.2) table

theorem lookup_composeAll (table : Exports) (pairs : List (List Char × Reference)) (localName : List Char) :
    (table.composeAll pairs).lookup localName = (table.lookup localName).map fun e =>
      e.composing ((pairs.filter (·.1 = localName)).map (·.2)) := by
  induction pairs generalizing table with
  | nil => simp [composeAll, Export.composing_nil]
  | cons pair pairs ih =>
    have step : table.composeAll (pair :: pairs) = (table.compose pair.1 pair.2).composeAll pairs := rfl
    rw [step, ih, lookup_compose, Option.map_map]
    congr 1
    funext e
    rw [Function.comp_apply, ← Export.composing_append]
    by_cases here : pair.1 = localName <;> simp [here]

theorem keys_composeAll (table : Exports) (pairs : List (List Char × Reference)) :
    (table.composeAll pairs).map Prod.fst = table.map Prod.fst := by
  induction pairs generalizing table with
  | nil => rfl
  | cons pair pairs ih => exact (ih _).trans (keys_compose ..)

end Exports

namespace Written

/-- All that a piece does to the table: it makes its name known, or composes its classes. -/
theorem table_piece {n : Naming} {w w' : Written} {p : Piece} (written : w.piece n p = .ok w') :
    (∃ name scopedName, names? n p = some (name, scopedName) ∧ composings n p = []
        ∧ w'.table = w.table.add name scopedName)
      ∨ names? n p = none ∧ w'.table = w.table.composeAll (composings n p) := by
  cases p with
  | text text => obtain rfl := Except.ok.inj written; exact .inr ⟨rfl, rfl⟩
  | lineBreak indent => obtain rfl := Except.ok.inj written; exact .inr ⟨rfl, rfl⟩
  | name name => obtain rfl := Except.ok.inj written; exact .inl ⟨_, _, rfl, rfl, rfl⟩
  | mention name => obtain rfl := Except.ok.inj written; exact .inl ⟨_, _, rfl, rfl, rfl⟩
  | gridName name =>
    rw [piece] at written
    split at written
    · obtain rfl := Except.ok.inj written
      exact .inl ⟨_, _, rfl, rfl, rfl⟩
    · cases written
  | dashed name origin =>
    obtain rfl := Except.ok.inj written
    cases origin with
    | sheet =>
      by_cases dashed : n.dashed = true
      · exact .inl ⟨_, _, if_pos dashed, rfl, by rw [dashedName, if_pos dashed]⟩
      · exact .inr ⟨if_neg dashed, by rw [dashedName, if_neg dashed]; rfl⟩
    | everywhere => exact .inr ⟨rfl, rfl⟩
    | file specifier => exact .inr ⟨rfl, rfl⟩
  | compose className names origin =>
    obtain rfl := Except.ok.inj written
    refine .inr ⟨rfl, ?_⟩
    rw [composings, Exports.composeAll, List.foldl_map]
  | fault fault => cases written

/-- A phrase is written piece by piece. -/
theorem phrase_cons {n : Naming} {p : Piece} {rest : Phrase} {w w' : Written}
    (written : w.phrase n (p :: rest) = .ok w') : ∃ next, w.piece n p = .ok next ∧ next.phrase n rest = .ok w' := by
  rw [phrase] at written
  cases first : w.piece n p with
  | error fault => rw [first] at written; cases written
  | ok next => rw [first] at written; exact ⟨next, rfl, written⟩

theorem keys_phrase {n : Naming} {phrase : Phrase} {w w' : Written} (written : w.phrase n phrase = .ok w')
    (distinct : (w.table.map Prod.fst).Nodup) : (w'.table.map Prod.fst).Nodup := by
  induction phrase generalizing w with
  | nil => obtain rfl := Except.ok.inj written; exact distinct
  | cons p rest ih =>
    obtain ⟨next, first, written⟩ := phrase_cons written
    refine ih written ?_
    rcases table_piece first with ⟨name, scopedName, _, _, added⟩ | ⟨_, composed⟩
    · exact added ▸ Exports.keys_add w.table name scopedName distinct
    · rw [composed, Exports.keys_composeAll]
      exact distinct

/-- A name that is known stays known, composed of more. -/
theorem lookup_phrase_of_known {n : Naming} {phrase : Phrase} {w w' : Written} {localName : List Char} {e : Export}
    (written : w.phrase n phrase = .ok w') (known : w.table.lookup localName = some e) :
    w'.table.lookup localName = some (e.composing (composedBy n localName phrase)) := by
  induction phrase generalizing w e with
  | nil => obtain rfl := Except.ok.inj written; exact known
  | cons p rest ih =>
    obtain ⟨next, first, written⟩ := phrase_cons written
    have after : next.table.lookup localName = some (e.composing (composedBy n localName [p])) := by
      rcases table_piece first with ⟨name, scopedName, _, none, added⟩ | ⟨_, composed⟩
      · rw [added, Exports.lookup_add, known, Option.some_or]
        simp [composedBy, none, Export.composing_nil]
      · rw [composed, Exports.lookup_composeAll, known]
        simp [composedBy]
    rw [ih written after, composedBy_cons n localName p rest, Export.composing_append]

/-- A name that is not known yet is known behind a phrase as the phrase makes it known. -/
theorem lookup_phrase_of_unknown {n : Naming} {phrase : Phrase} {w w' : Written} {localName : List Char} {e : Export}
    (written : w.phrase n phrase = .ok w') (unknown : w.table.lookup localName = none) :
    w'.table.lookup localName = some e ↔ Known n phrase localName e := by
  induction phrase generalizing w with
  | nil =>
    obtain rfl := Except.ok.inj written
    rw [unknown]
    refine ⟨fun absurd => (by cases absurd), ?_⟩
    rintro ⟨before, piece, after, split, _⟩
    cases before <;> cases split
  | cons p rest ih =>
    obtain ⟨next, first, written⟩ := phrase_cons written
    rw [known_cons]
    have here : next.table.lookup localName = (names? n p).bind fun pair =>
        if localName = pair.1 then some ⟨pair.2, []⟩ else none := by
      rcases table_piece first with ⟨name, scopedName, named, _, added⟩ | ⟨none, composed⟩
      · rw [added, Exports.lookup_add, unknown, Option.none_or, named]
        rfl
      · rw [composed, Exports.lookup_composeAll, unknown, none]
        rfl
    by_cases named : ∃ name, names? n p = some (localName, name)
    · obtain ⟨name, named⟩ := named
      rw [named, Option.bind_some, if_pos rfl] at here
      rw [lookup_phrase_of_known written here, Export.composing_new, named]
      constructor
      · rintro ⟨⟩
        exact .inl ⟨rfl, rfl⟩
      · rintro (⟨same, composes⟩ | ⟨other, _⟩)
        · obtain ⟨rfl⟩ := same
          rw [← composes]
        · exact absurd rfl (other name)
    · have other : ∀ name, names? n p ≠ some (localName, name) := fun name same => named ⟨name, same⟩
      rw [ih written (here.trans ?_)]
      · exact ⟨fun known => .inr ⟨other, known⟩, fun either => either.elim
          (fun ⟨same, _⟩ => absurd same (other _)) (·.2)⟩
      · cases known : names? n p with
        | none => rfl
        | some pair => exact if_neg fun same => other pair.2 (by rw [known, same])

end Written

/-- What is reached from the classes of a scoped name: what they are composed of, and what is reached from that
within the stylesheet. -/
inductive Reaches (known : List Char → Export → Prop) (start : List Char) : Reference → Prop
  | direct {localName : List Char} {e : Export} {r : Reference} (named : known localName e) (here : e.name = start)
    (composed : r ∈ e.composes) : Reaches known start r
  | through {localName : List Char} {e : Export} {r : Reference} (reached : Reaches known start (.sheet e.name))
    (named : known localName e) (composed : r ∈ e.composes) : Reaches known start r

/-- A reference is in the value of an export: it is the export itself, or composed directly. -/
def Export.Lists (e : Export) (r : Reference) : Prop :=
  r = .sheet e.name ∨ r ∈ e.composes

/-- An export lists all that is reached from it exactly if each class that it lists is composed of nothing else. -/
theorem Export.lists_reached_iff {known : List Char → Export → Prop} {name : List Char} {e : Export}
    (named : known name e) :
    (∀ r, Reaches known e.name r → r.manifestName?.isSome = true → e.Lists r) ↔
      ∀ localName other, known localName other → e.Lists (.sheet other.name) →
        ∀ r ∈ other.composes, r.manifestName?.isSome = true → e.Lists r := by
  constructor
  · intro all localName other known listed r composed plain
    rcases listed with same | listed
    · exact all r (.direct known (Reference.sheet.inj same) composed) plain
    · exact all r (.through (.direct named rfl listed) known composed) plain
  · intro closed r reached
    induction reached with
    | direct known here composed => exact closed _ _ known (.inl (by rw [here])) _ composed
    | through reached known composed ih => exact closed _ _ known (ih rfl) _ composed

end Scope

namespace Style

open Scope Stylesheet

theorem scopeSheet_eq_ok_iff {file css : List Char} {pattern : Pattern} {dashed : Bool} {written : Written} :
    scopeSheet file pattern dashed css = .ok written ↔ ∃ sheet, Sheet.parse dashed css = .ok sheet
      ∧ Written.empty.phrase (.ofSheet pattern dashed file css) sheet.phrase = .ok written := by
  rw [scopeSheet]
  cases Sheet.parse dashed css with
  | error fault => exact ⟨fun absurd => (by cases absurd), fun ⟨_, absurd, _⟩ => (by cases absurd)⟩
  | ok sheet => exact ⟨fun phrased => ⟨sheet, rfl, phrased⟩, fun ⟨_, same, phrased⟩ => Except.ok.inj same ▸ phrased⟩

theorem Compiler.compile_eq_ok_iff {compiler : Compiler} {path : Path} {source : List Char} {options : ModuleOptions}
    {compiled : Compiled} : (compiler.compile path source options).result = .ok compiled ↔
      ∃ css pattern written, (compiler.preprocess path source).result = .ok css ∧ options.parsedPattern = .ok pattern
        ∧ scopeSheet (Utf8.decodeLossy path.bytes) pattern options.dashedIdents css = .ok written
        ∧ ⟨written.text, written.table.manifest⟩ = compiled := by
  unfold compile
  dsimp only
  cases options.hook <;>
    simp [Traced.bind_eq_ok_iff, Traced.mapError_eq_ok_iff]

/-- The manifest of a compiled style names, for each class that the stylesheet makes known, the class itself and
what the stylesheet composes it of directly, each once and in order, and nothing of other files. All that is reached
through any chain of classes is among them exactly if what the named classes are composed of is. -/
theorem Compiler.compile_composed {compiler : Compiler} {path : Path} {source : List Char} {options : ModuleOptions}
    {compiled : Compiled} (done : (compiler.compile path source options).result = .ok compiled) :
    ∃ css pattern sheet naming, (compiler.preprocess path source).result = .ok css
      ∧ options.parsedPattern = .ok pattern ∧ Sheet.parse options.dashedIdents css = .ok sheet
      ∧ naming = .ofSheet pattern options.dashedIdents (Utf8.decodeLossy path.bytes) css
      ∧ (∀ name value, compiled.manifest.get? name = some value ↔
          ∃ e, Known naming sheet.phrase name.toList e
            ∧ value.toList = Manifest.joinWords (e.name :: e.composes.filterMap Reference.manifestName?))
      ∧ ∀ name e, Known naming sheet.phrase name e →
          ((∀ r, Reaches (Known naming sheet.phrase) e.name r → r.manifestName?.isSome = true → e.Lists r) ↔
            ∀ localName other, Known naming sheet.phrase localName other → e.Lists (.sheet other.name) →
              ∀ r ∈ other.composes, r.manifestName?.isSome = true → e.Lists r) := by
  obtain ⟨css, pattern, written, processed, parsed, phrased, rfl⟩ := compile_eq_ok_iff.mp done
  obtain ⟨sheet, read, phrased⟩ := scopeSheet_eq_ok_iff.mp phrased
  have known : ∀ name e, written.table.lookup name = some e ↔
      Known (.ofSheet pattern options.dashedIdents (Utf8.decodeLossy path.bytes) css) sheet.phrase name e :=
    fun name e => Written.lookup_phrase_of_unknown phrased rfl
  have distinct := Written.keys_phrase phrased List.nodup_nil
  refine ⟨css, pattern, sheet, _, processed, parsed, read, rfl, ?_, fun name e => Export.lists_reached_iff⟩
  intro name value
  rw [Exports.get?_manifest distinct, Option.map_eq_some_iff]
  refine exists_congr fun e => and_congr (known name.toList e) ?_
  rw [← String.toList_inj, String.toList_ofList, eq_comm]
  rfl

/-- How the names of the stylesheets below are scoped. -/
def plainScope : ModuleOptions :=
  ⟨some "x_[local]".toList, false, none⟩

/-- Two classes that are composed of each other, and of a global one and one of another file. -/
def cycleSource : List Char :=
  ".a\x7bcomposes:b;composes:g from global;composes:d from \"o.css\"\x7d.b\x7bcomposes:a\x7d".toList

theorem Compiler.compile_composed_cycle :
    ∃ compiled,
      (Compiler.empty.compile (.ofText "s/Card.module.css".toList) cycleSource plainScope).result = .ok compiled
      ∧ compiled.manifest = ⟨[("a", "x_a x_b g"), ("b", "x_b x_a")]⟩
      ∧ ∃ css pattern sheet naming,
        (Compiler.empty.preprocess (.ofText "s/Card.module.css".toList) cycleSource).result = .ok css
        ∧ plainScope.parsedPattern = .ok pattern ∧ Sheet.parse plainScope.dashedIdents css = .ok sheet
        ∧ naming = .ofSheet pattern plainScope.dashedIdents
            (Utf8.decodeLossy (Path.ofText "s/Card.module.css".toList).bytes) css
        ∧ (∀ name value, compiled.manifest.get? name = some value ↔
            ∃ e, Known naming sheet.phrase name.toList e
              ∧ value.toList = Manifest.joinWords (e.name :: e.composes.filterMap Reference.manifestName?))
        ∧ ∀ name e, Known naming sheet.phrase name e →
            ((∀ r, Reaches (Known naming sheet.phrase) e.name r → r.manifestName?.isSome = true → e.Lists r) ↔
              ∀ localName other, Known naming sheet.phrase localName other → e.Lists (.sheet other.name) →
                ∀ r ∈ other.composes, r.manifestName?.isSome = true → e.Lists r) := by
  have ends : Traced.passes (fun compiled => decide (compiled.manifest = ⟨[("a", "x_a x_b g"), ("b", "x_b x_a")]⟩))
      (Compiler.empty.compile (.ofText "s/Card.module.css".toList) cycleSource plainScope).result = true := by
    decide +kernel
  obtain ⟨compiled, done, named⟩ := Traced.passes_iff.mp ends
  exact ⟨compiled, done, of_decide_eq_true named, compile_composed done⟩

/-- A chain of three classes. -/
def chainSource : List Char :=
  ".c\x7bcolor:red\x7d.b\x7bcomposes:c\x7d.a\x7bcomposes:b\x7d".toList

/-- A chain is not followed: the third class is reached from the first one, whose value does not name it. -/
theorem Compiler.chain_not_followed :
    ∃ compiled sheet naming,
      (Compiler.empty.compile (.ofText "s/Card.module.css".toList) chainSource plainScope).result = .ok compiled
      ∧ Sheet.parse false chainSource = .ok sheet
      ∧ naming = .ofSheet [.literal "x_".toList, .localName] false "s/Card.module.css".toList chainSource
      ∧ Reaches (Known naming sheet.phrase) "x_a".toList (.sheet "x_c".toList)
      ∧ compiled.manifest.get? "a" = some "x_a x_b" := by
  have ends : ((scopeSheet "s/Card.module.css".toList [.literal "x_".toList, .localName] false chainSource).toOption.map
      fun written => written.table) = some [("c".toList, ⟨"x_c".toList, []⟩),
        ("b".toList, ⟨"x_b".toList, [.sheet "x_c".toList]⟩), ("a".toList, ⟨"x_a".toList, [.sheet "x_b".toList]⟩)] := by
    decide +kernel
  cases scopes : scopeSheet "s/Card.module.css".toList [.literal "x_".toList, .localName] false chainSource with
  | error fault => rw [scopes] at ends; cases ends
  | ok written =>
    rw [scopes] at ends
    have table : written.table = _ := Option.some.inj ends
    obtain ⟨sheet, read, phrased⟩ := scopeSheet_eq_ok_iff.mp scopes
    have known : ∀ name e, written.table.lookup name = some e →
        Known (.ofSheet [.literal "x_".toList, .localName] false "s/Card.module.css".toList chainSource)
          sheet.phrase name e := fun name e => (Written.lookup_phrase_of_unknown phrased rfl).mp
    refine ⟨⟨written.text, written.table.manifest⟩, sheet, _, compile_eq_ok_iff.mpr ?_, read, rfl, ?_, ?_⟩
    · have file : Utf8.decodeLossy (Path.ofText "s/Card.module.css".toList).bytes = "s/Card.module.css".toList :=
        Utf8.decodeLossy_encode _
      have parsed : plainScope.parsedPattern = .ok [.literal "x_".toList, .localName] :=
        Traced.mapError_eq_ok_iff.mpr rfl
      exact ⟨chainSource, _, written, rfl, parsed, file.symm ▸ scopes, rfl⟩
    · have second := known "b".toList ⟨"x_b".toList, [.sheet "x_c".toList]⟩ (by rw [table]; decide +kernel)
      have first := known "a".toList ⟨"x_a".toList, [.sheet "x_b".toList]⟩ (by rw [table]; decide +kernel)
      exact .through (.direct first rfl (List.mem_singleton.mpr rfl)) second (List.mem_singleton.mpr rfl)
    · change written.table.manifest.get? "a" = some "x_a x_b"
      rw [table]
      decide +kernel

end Style

end CompanionStyles
