import CompanionStyles.Proofs.Component.Parsed
import CompanionStyles.Proofs.Component.SiteSpans
import CompanionStyles.Proofs.Text.Utf8
import CompanionStyles.Proofs.Text.Words

/-!
The edits of a component's classes: one for every class site whose text changes, and no others.
-/

namespace CompanionStyles.Component

/-- What is written in place of a site. Class lists are renamed word by word and stay as they are if no
word changes; names of properties always become strings. -/
inductive Site.Becomes (m : Manifest) (site : Site) : List Char → Prop
  | markup {words : List (List Char)} {renamed : List Char} {quote : Char} (form : site.form = .markup)
      (has : Text.HasWords site.value words) (joined : renamed = [' '].intercalate (words.map m.lookup))
      (changed : renamed ≠ site.value)
      (fits : ('"' ∉ renamed ∧ quote = '"') ∨ ('"' ∈ renamed ∧ quote = '\'')) :
      site.Becomes m (quote :: renamed ++ [quote])
  | string {words : List (List Char)} {renamed : List Char} (form : site.form = .string)
      (has : Text.HasWords site.value words) (joined : renamed = [' '].intercalate (words.map m.lookup))
      (changed : renamed ≠ site.value) : site.Becomes m (Text.quote renamed)
  | key (form : site.form = .key) : site.Becomes m (Text.quote (m.lookup site.value))
  | shorthand (form : site.form = .shorthand) :
      site.Becomes m (Text.quote (m.lookup site.value) ++ ": ".toList ++ site.value)

theorem Site.markupQuote_eq_iff {text : List Char} {quote : Char} :
    quote = markupQuote text ↔ ('"' ∉ text ∧ quote = '"') ∨ ('"' ∈ text ∧ quote = '\'') := by
  unfold markupQuote
  by_cases inside : '"' ∈ text <;> simp [inside]

theorem Site.replacement?_eq_some_iff {site : Site} {m : Manifest} {text : List Char} :
    site.replacement? m = some text ↔ site.Becomes m text := by
  obtain ⟨words, has⟩ := Text.exists_hasWords site.value
  have renamed := Manifest.rename_eq has m
  constructor
  · intro found
    unfold Site.replacement? at found
    dsimp only at found
    cases form : site.form with
    | markup =>
      rw [form] at found
      dsimp only at found
      split at found
      · exact absurd found (by simp)
      · rename_i changed
        obtain rfl := Option.some.inj found
        exact .markup form has renamed changed (Site.markupQuote_eq_iff.mp rfl)
    | string =>
      rw [form] at found
      dsimp only at found
      split at found
      · exact absurd found (by simp)
      · rename_i changed
        obtain rfl := Option.some.inj found
        exact .string form has renamed changed
    | key =>
      rw [form] at found
      obtain rfl := Option.some.inj found
      exact .key form
    | shorthand =>
      rw [form] at found
      obtain rfl := Option.some.inj found
      simpa using Site.Becomes.shorthand (m := m) form
  · intro becomes
    cases becomes with
    | markup form has joined changed fits =>
      rw [← Manifest.rename_eq has m] at joined
      subst joined
      obtain rfl := Site.markupQuote_eq_iff.mpr fits
      simp [Site.replacement?, form, changed]
    | string form has joined changed =>
      rw [← Manifest.rename_eq has m] at joined
      subst joined
      simp [Site.replacement?, form, changed]
    | key form => simp [Site.replacement?, form]
    | shorthand form => simp [Site.replacement?, form]

theorem Site.edit?_eq_some_iff {site : Site} {m : Manifest} {e : Edit} :
    site.edit? m = some e ↔ site.Becomes m e.text ∧ e.start = site.start ∧ e.stop = site.stop := by
  unfold Site.edit?
  rw [Option.map_eq_some_iff]
  constructor
  · rintro ⟨text, found, rfl⟩
    exact ⟨Site.replacement?_eq_some_iff.mp found, rfl, rfl⟩
  · rintro ⟨becomes, start, stop⟩
    exact ⟨e.text, Site.replacement?_eq_some_iff.mpr becomes, by rw [← start, ← stop]⟩

theorem Site.eq_or_apart {sites : List Site} (pairwise : sites.Pairwise Site.Apart) {a b : Site}
    (first : a ∈ sites) (second : b ∈ sites) : a = b ∨ a.Apart b := by
  induction sites with
  | nil => exact absurd first (by simp)
  | cons site sites ih =>
    obtain ⟨here, later⟩ := List.pairwise_cons.mp pairwise
    rcases List.mem_cons.mp first with rfl | inTail
    · rcases List.mem_cons.mp second with rfl | inTail'
      · exact Or.inl rfl
      · exact Or.inr (here b inTail')
    · rcases List.mem_cons.mp second with rfl | inTail'
      · exact Or.inr (here a inTail).symm
      · exact ih later inTail inTail'

/-- A tree has an edit for every class site whose text changes, and for nothing else. -/
theorem mem_edits_iff {tree : Syntax} {m : Manifest} {e : Edit} :
    e ∈ (tree.classSites 0).filterMap (·.edit? m) ↔ ∃ site, tree.ClassSite 0 site
      ∧ site.Becomes m e.text ∧ e.start = site.start ∧ e.stop = site.stop := by
  rw [List.mem_filterMap]
  constructor
  · rintro ⟨site, member, edit⟩
    exact ⟨site, (tree.mem_classSites_iff 0 site).mp member, Site.edit?_eq_some_iff.mp edit⟩
  · rintro ⟨site, inside, edit⟩
    exact ⟨site, (tree.mem_classSites_iff 0 site).mpr inside, Site.edit?_eq_some_iff.mpr edit⟩

/-- A class site stands in the source with its text. -/
theorem Syntax.ClassSite.slice?_eq {d : Dialect} {source : List Char} {tree : Syntax} {site : Site}
    (inside : tree.ClassSite 0 site) (parsed : parse? d source = some tree) :
    slice? source site.start site.stop = some site.text := by
  obtain ⟨before, after, text, place⟩ := inside.within.text
  rw [text_of_parse? parsed, Syntax.text_leaf] at text
  rw [Nat.zero_add] at place
  rw [Site.stop, place, text]
  exact slice?_append before site.text after

/-- For a source that parses, the edits are those of the class sites of its tree: an edit for every site
whose text changes, no edit for anything else, and no two edits for one byte. A site stands in the
source with its text. -/
theorem classEdits?_eq_sites (source id : List Char) (m : Manifest) (tree : Syntax)
    (parsed : parse? (Dialect.ofId id) source = some tree) :
    ∃ edits, classEdits? source id m = some edits
      ∧ (∀ e, e ∈ edits ↔ ∃ site, tree.ClassSite 0 site
        ∧ site.Becomes m e.text ∧ e.start = site.start ∧ e.stop = site.stop)
      ∧ edits.Pairwise (fun a b => a.stop ≤ b.start ∨ b.stop ≤ a.start)
      ∧ (∀ e ∈ edits, e.start < e.stop)
      ∧ (∀ site, tree.ClassSite 0 site → slice? source site.start site.stop = some site.text)
      ∧ ∀ a b, tree.ClassSite 0 a → tree.ClassSite 0 b → a = b ∨ a.Apart b := by
  obtain ⟨turned, taken⟩ := parse?_taken parsed
  have solid : tree.Solid := taken.solid
  have apart := tree.classSites_pairwise 0 solid
  have mem := tree.mem_classSites_iff 0
  refine ⟨(tree.classSites 0).filterMap (·.edit? m), ?_, ?_, ?_, ?_, ?_, ?_⟩
  · rw [classEdits?, parsed, Option.map_some]
  · exact fun e => mem_edits_iff
  · refine List.Pairwise.filterMap _ ?_ apart
    intro a b apart e edit e' edit'
    obtain ⟨_, start, stop⟩ := Site.edit?_eq_some_iff.mp edit
    obtain ⟨_, start', stop'⟩ := Site.edit?_eq_some_iff.mp edit'
    rw [start, stop, start', stop']
    exact apart
  · intro e member
    obtain ⟨site, member, edit⟩ := List.mem_filterMap.mp member
    obtain ⟨_, start, stop⟩ := Site.edit?_eq_some_iff.mp edit
    rw [start, stop]
    exact (((mem site).mp member).holds.between solid).solid
  · exact fun site inside => inside.slice?_eq parsed
  · intro a b first second
    exact Site.eq_or_apart apart ((mem a).mpr first) ((mem b).mpr second)

/-- Markup inside of a list of classes has sites of its own: both of the classes are renamed. -/
theorem classEdits?_eq_sites_nested :
    ∃ tree edits,
      parse? (Dialect.ofId "a.tsx".toList) "<a class=\x7b[<b class='x'/>, \"y\"]\x7d/>".toList = some tree
      ∧ classEdits? "<a class=\x7b[<b class='x'/>, \"y\"]\x7d/>".toList "a.tsx".toList
        (.ofList [("x", "x1"), ("y", "y1")]) = some edits
      ∧ edits = [⟨27, 30, "\"y1\"".toList⟩, ⟨20, 23, "\"x1\"".toList⟩]
      ∧ ∀ e, e ∈ edits ↔ ∃ site, tree.ClassSite 0 site
        ∧ site.Becomes (.ofList [("x", "x1"), ("y", "y1")]) e.text
        ∧ e.start = site.start ∧ e.stop = site.stop := by
  have parses : (parse? (Dialect.ofId "a.tsx".toList)
      "<a class=\x7b[<b class='x'/>, \"y\"]\x7d/>".toList).isSome = true := by
    decide +kernel
  obtain ⟨tree, parsed⟩ := Option.isSome_iff_exists.mp parses
  obtain ⟨edits, found, mem, _⟩ := classEdits?_eq_sites _ "a.tsx".toList
    (.ofList [("x", "x1"), ("y", "y1")]) tree parsed
  have computed : classEdits? "<a class=\x7b[<b class='x'/>, \"y\"]\x7d/>".toList "a.tsx".toList
      (.ofList [("x", "x1"), ("y", "y1")])
      = some [⟨27, 30, "\"y1\"".toList⟩, ⟨20, 23, "\"x1\"".toList⟩] := by
    decide +kernel
  exact ⟨tree, edits, parsed, found, Option.some.inj (found.symm.trans computed), mem⟩

end CompanionStyles.Component
