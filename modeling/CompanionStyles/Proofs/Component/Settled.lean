import CompanionStyles.Proofs.Component.ClassEdits
import CompanionStyles.Proofs.Component.FoundLeaves
import CompanionStyles.Proofs.Text.Renaming

/-!
Class sites at which nothing is left to be written. What a rewriting leaves of a class site is settled, for a manifest
whose scoped names are not renamed; and so are all class sites of a tree in which that is what is read.
-/

namespace CompanionStyles.Component

/-- Whatever is to be written in place of the site stands there already. -/
def Site.Settled (m : Manifest) (site : Site) : Prop :=
  ∀ text, site.Becomes m text → text = site.text

/-- What a rewriting leaves of a class site, as a leaf of some form: the leaf that was there, a class list of
the same form that was written in its place, or the string that was written for a name. -/
inductive Site.Leaves (m : Manifest) (site : Site) : SiteForm → List Char → Prop
  | same (stays : ∀ text, ¬site.Becomes m text) : site.Leaves m site.form site.text
  | list {text : List Char} (form : site.form = .markup ∨ site.form = .string)
      (becomes : site.Becomes m text) : site.Leaves m site.form text
  | name (form : site.form = .key ∨ site.form = .shorthand) :
      site.Leaves m .string (Text.quote (m.lookup site.value))

/-- What is written for the site is read as it was meant. -/
def Site.Plain (m : Manifest) (site : Site) : Prop :=
  site.form = .markup ∨ Text.Quotable (m.rename site.value)

theorem Site.settled_of_renamed {m : Manifest} {site : Site} (literal : site.form = .markup ∨ site.form = .string)
    (same : m.rename site.value = site.value) : site.Settled m := by
  intro text becomes
  have none : site.replacement? m = none := by
    unfold Site.replacement?
    rcases literal with form | form
    · simp [form, same]
    · simp [form, same]
  have some := Site.replacement?_eq_some_iff.mpr becomes
  rw [none] at some
  exact absurd some (by simp)

/-- A literal that was written for a class list that has been renamed is settled. -/
theorem Site.settled_quote {m : Manifest} {value : List Char} (quotable : Text.Quotable value)
    (same : m.rename value = value) (start : Nat) : Site.Settled m ⟨start, Text.quote value, .string⟩ := by
  refine Site.settled_of_renamed (Or.inr rfl) ?_
  have read : Site.value ⟨start, Text.quote value, .string⟩ = value := Text.unquote_quote quotable
  rw [read, same]

theorem Site.settled_markup {m : Manifest} {value : List Char} (same : m.rename value = value) (start : Nat)
    (quote : Char) : Site.Settled m ⟨start, quote :: value ++ [quote], .markup⟩ := by
  refine Site.settled_of_renamed (Or.inl rfl) ?_
  have read : Site.value ⟨start, quote :: value ++ [quote], .markup⟩ = value := by
    simp [Site.value]
  rw [read, same]

theorem Site.value_of_name {site : Site} (form : site.form = .key ∨ site.form = .shorthand) :
    site.value = Text.nameOf site.text := by
  unfold Site.value
  rcases form with form | form
  · rw [form]
  · rw [form]

/-- A name is one word, so it is called what the manifest says. -/
theorem Site.rename_of_name {site : Site} (form : site.form = .key ∨ site.form = .shorthand)
    (found : Leaf.Found ⟨site.form.kind, site.text⟩) (solid : site.text ≠ []) {m : Manifest}
    (stable : m.Stable) :
    m.rename site.value = m.lookup site.value ∧ m.rename (m.lookup site.value) = m.lookup site.value := by
  have kind : site.form.kind = .name := by
    rcases form with form | form
    · rw [form]; rfl
    · rw [form]; rfl
  rw [kind] at found
  obtain ⟨nonempty, whole⟩ := found.nameOf solid
  rw [Site.value_of_name form]
  exact ⟨Manifest.rename_of_solid nonempty whole, (stable.lookup nonempty whole).2⟩

/-- What is left of a class site is settled. -/
theorem Site.Leaves.settled {m : Manifest} {site : Site} {form : SiteForm} {text : List Char}
    (leaves : site.Leaves m form text) (stable : m.Stable) (plain : site.Plain m)
    (found : Leaf.Found ⟨site.form.kind, site.text⟩) (solid : site.text ≠ []) (start : Nat) :
    Site.Settled m ⟨start, text, form⟩ := by
  cases leaves with
  | same stays =>
    intro text becomes
    have same : (⟨start, site.text, site.form⟩ : Site).replacement? m = site.replacement? m := rfl
    have there := Site.replacement?_eq_some_iff.mpr becomes
    rw [same] at there
    exact absurd (Site.replacement?_eq_some_iff.mp there) (stays text)
  | list _ becomes =>
    have again := stable.rename_rename site.value
    cases becomes with
    | markup form has joined =>
      rw [form, joined, ← Manifest.rename_eq has]
      exact Site.settled_markup again start _
    | string form has joined =>
      have quotable := plain.resolve_left (by simp [form])
      rw [form, joined, ← Manifest.rename_eq has]
      exact Site.settled_quote quotable again start
    | key form => simp_all
    | shorthand form => simp_all
  | name form =>
    obtain ⟨called, again⟩ := Site.rename_of_name form found solid stable
    have quotable : Text.Quotable (m.rename site.value) :=
      plain.resolve_left (by rcases form with form | form <;> simp [form])
    rw [called] at quotable
    exact Site.settled_quote quotable again start

/-- Every class site of the second tree is what a rewriting left of a class site of the first one. -/
def ReadsBack (m : Manifest) (first second : Syntax) : Prop :=
  ∀ site, second.ClassSite 0 site → ∃ old, first.ClassSite 0 old ∧ old.Leaves m site.form site.text ∧ old.Plain m

theorem ReadsBack.settled {d : Dialect} {source : List Char} {m : Manifest} {first second : Syntax}
    (reads : ReadsBack m first second) (stable : m.Stable) (parsed : parse? d source = some first) :
    ∀ site, second.ClassSite 0 site → site.Settled m := by
  intro site inside
  obtain ⟨old, there, leaves, plain⟩ := reads site inside
  obtain ⟨found, solid⟩ := there.found parsed
  exact leaves.settled stable plain found solid site.start

end CompanionStyles.Component
