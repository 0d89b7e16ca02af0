import CompanionStyles.Proofs.Component.ClassEdits
import CompanionStyles.Proofs.Component.FoundLeaves
import CompanionStyles.Proofs.Text.Renaming

/-!
Class lists that are written in markup. A string of markup has no escapes and ends at the next quote of its kind,
so a list is read back from what is written for it if one of the two quotes does not stand in it. If both do, the
string ends early; then a scoped name has brought in the quote that enclosed the list before.
-/

namespace CompanionStyles

namespace Manifest

theorem mem_joinWords {words : List (List Char)} {c : Char} (inside : c ∈ joinWords words) :
    c = ' ' ∨ ∃ word ∈ words, c ∈ word := by
  induction words with
  | nil => exact absurd inside List.not_mem_nil
  | cons word words ih =>
    cases words with
    | nil => exact .inr ⟨word, List.mem_cons_self, inside⟩
    | cons next words =>
      rcases List.mem_append.mp inside with here | behind
      · exact .inr ⟨word, List.mem_cons_self, here⟩
      · rcases List.mem_cons.mp behind with blank | later
        · exact .inl blank
        · exact (ih later).imp_right fun ⟨other, member, inside⟩ => ⟨other, List.mem_cons_of_mem _ member, inside⟩

/-- A character of a renamed class list, but for blanks, is one of what some word of the list is called. -/
theorem exists_of_mem_rename {m : Manifest} {classes : List Char} {c : Char} (inside : c ∈ m.rename classes)
    (solid : c ≠ ' ') : ∃ word ∈ Text.words classes, c ∈ m.lookup word := by
  obtain ⟨_, called, here⟩ := (mem_joinWords inside).resolve_left solid
  obtain ⟨word, member, rfl⟩ := List.mem_map.mp called
  exact ⟨word, member, here⟩

end Manifest

namespace Component

/-- In front of a text stands a string of markup, with `raw` between its quotes and `rest` behind it. -/
def MarkupLiteral (text raw rest : List Char) : Prop :=
  ∃ quote, (quote = '"' ∨ quote = '\'') ∧ quote ∉ raw ∧ text = quote :: (raw ++ quote :: rest)

/-- A text is cut at its first `c`, of which one stands behind `front`: there, or inside of `front`. -/
theorem append_cons_eq_iff {c : Char} {front back before after : List Char} :
    front ++ c :: back = before ++ c :: after ∧ c ∉ before ↔
      c ∉ front ∧ before = front ∧ after = back
        ∨ ∃ behind, front = before ++ c :: behind ∧ c ∉ before ∧ after = behind ++ c :: back := by
  constructor
  · rintro ⟨same, clean⟩
    rcases List.append_eq_append_iff.mp same with ⟨between, rfl, split⟩ | ⟨between, rfl, split⟩
    · cases between with
      | nil => exact .inl ⟨by simpa using clean, List.append_nil front, (List.cons.inj split).2.symm⟩
      | cons d between =>
        obtain ⟨rfl, _⟩ := List.cons.inj split
        exact absurd (List.mem_append_right front List.mem_cons_self) clean
    · cases between with
      | nil => exact .inl ⟨by simpa using clean, (List.append_nil before).symm, (List.cons.inj split).2⟩
      | cons d behind =>
        obtain ⟨rfl, rfl⟩ := List.cons.inj split
        exact .inr ⟨behind, rfl, clean, rfl⟩
  · rintro (⟨clean, rfl, rfl⟩ | ⟨behind, rfl, clean, rfl⟩)
    · exact ⟨rfl, clean⟩
    · exact ⟨by simp, clean⟩

theorem markupLiteral_cons_iff {quote : Char} (quoted : quote = '"' ∨ quote = '\'') {body raw rest : List Char} :
    MarkupLiteral (quote :: body) raw rest ↔ body = raw ++ quote :: rest ∧ quote ∉ raw := by
  unfold MarkupLiteral
  constructor
  · rintro ⟨other, _, clean, same⟩
    obtain ⟨rfl, rfl⟩ := List.cons.inj same
    exact ⟨rfl, clean⟩
  · rintro ⟨rfl, clean⟩
    exact ⟨quote, quoted, clean, rfl⟩

/-- What a text is enclosed in is one string with the text, unless both quotes stand in it. Then the string ends at
the first one of its kind. -/
theorem markupLiteral_enclosed_iff {renamed rest raw rest' : List Char} :
    MarkupLiteral (Site.markupQuote renamed :: renamed ++ [Site.markupQuote renamed] ++ rest) raw rest' ↔
      ¬('"' ∈ renamed ∧ '\'' ∈ renamed) ∧ raw = renamed ∧ rest' = rest
        ∨ '"' ∈ renamed ∧ ∃ behind, renamed = raw ++ '\'' :: behind ∧ '\'' ∉ raw ∧ rest' = behind ++ '\'' :: rest := by
  have spelled : ∀ quote : Char, quote :: renamed ++ [quote] ++ rest = quote :: (renamed ++ quote :: rest) := by simp
  rw [spelled]
  by_cases double : '"' ∈ renamed
  · have quote : Site.markupQuote renamed = '\'' := (Site.markupQuote_eq_iff.mpr (.inr ⟨double, rfl⟩)).symm
    rw [quote, markupLiteral_cons_iff (.inr rfl), append_cons_eq_iff]
    simp only [double, true_and]
  · have quote : Site.markupQuote renamed = '"' := (Site.markupQuote_eq_iff.mpr (.inl ⟨double, rfl⟩)).symm
    rw [quote, markupLiteral_cons_iff (.inl rfl), append_cons_eq_iff]
    constructor
    · rintro (⟨_, same⟩ | ⟨behind, rfl, _⟩)
      · exact .inl ⟨fun both => double both.1, same⟩
      · exact absurd (by simp) double
    · rintro (⟨_, same⟩ | ⟨inside, _⟩)
      · exact .inl ⟨double, same⟩
      · exact absurd inside double

/-- A class list in markup is the raw text of a string. What is written in its place, if the list changes, is the
renamed list in quotes. That is one string, whatever stands behind it, with the renamed list as its raw text,
unless both quotes stand in the list; then the string ends within the list. Both can only stand in it if some word
of the list is called by a name with the quote that enclosed the list. -/
theorem markup_written {source id : List Char} {tree : Syntax} {site : Site} (m : Manifest)
    (parsed : parse? (Dialect.ofId id) source = some tree) (inside : tree.ClassSite 0 site)
    (form : site.form = .markup) :
    ∃ quote raw, (quote = '"' ∨ quote = '\'') ∧ quote ∉ raw ∧ site.text = quote :: raw ++ [quote]
      ∧ (∀ text, site.replacement? m = some text ↔ m.rename raw ≠ raw ∧ ∃ mark,
        ('"' ∉ m.rename raw ∧ mark = '"' ∨ '"' ∈ m.rename raw ∧ mark = '\'')
          ∧ text = mark :: m.rename raw ++ [mark])
      ∧ (∀ text rest raw' rest', site.replacement? m = some text → (MarkupLiteral (text ++ rest) raw' rest' ↔
        ¬('"' ∈ m.rename raw ∧ '\'' ∈ m.rename raw) ∧ raw' = m.rename raw ∧ rest' = rest
          ∨ '"' ∈ m.rename raw ∧ ∃ behind, m.rename raw = raw' ++ '\'' :: behind ∧ '\'' ∉ raw'
            ∧ rest' = behind ++ '\'' :: rest))
      ∧ ('"' ∈ m.rename raw ∧ '\'' ∈ m.rename raw → ∃ word ∈ Text.words raw, quote ∈ m.lookup word) := by
  obtain ⟨found, _⟩ := inside.found parsed
  rw [form] at found
  obtain ⟨quote, raw, text, quoted, clean⟩ := found.markupString
  have value : site.value = raw := by
    rw [Site.value, form, text]
    simp
  have written : ∀ text, site.replacement? m = some text ↔ m.rename raw ≠ raw
      ∧ text = Site.markupQuote (m.rename raw) :: m.rename raw ++ [Site.markupQuote (m.rename raw)] := by
    intro text
    rw [Site.replacement?, form, value]
    by_cases same : m.rename raw = raw
    · simp [same]
    · simp [same, eq_comm]
  refine ⟨quote, raw, quoted, clean, text, fun text => ?_, fun text rest raw' rest' replaced => ?_, fun both => ?_⟩
  · simp only [written, ← Site.markupQuote_eq_iff, exists_eq_left]
  · rw [((written text).mp replaced).2]
    exact markupLiteral_enclosed_iff
  · rcases quoted with rfl | rfl
    · exact Manifest.exists_of_mem_rename both.1 (by decide)
    · exact Manifest.exists_of_mem_rename both.2 (by decide)

/-- A name with a double quote is enclosed in single quotes, and read back. -/
theorem markup_written_quotation :
    ∃ tree site raw,
      parse? (Dialect.ofId "a.tsx".toList) "f(<p class='a'/>)".toList = some tree
      ∧ tree.ClassSite 0 site ∧ site.form = .markup
      ∧ (Manifest.ofList [("a", "x\"y")]).rename raw = "x\"y".toList
      ∧ site.replacement? (.ofList [("a", "x\"y")]) = some "'x\"y'".toList
      ∧ ∀ rest, MarkupLiteral ("'x\"y'".toList ++ rest) "x\"y".toList rest := by
  have reads : ((parse? (Dialect.ofId "a.tsx".toList) "f(<p class='a'/>)".toList).any fun tree =>
      (tree.classSites 0).any fun site => site.form = .markup && site.text = "'a'".toList
        && site.replacement? (.ofList [("a", "x\"y")]) = some "'x\"y'".toList) = true := by
    decide +kernel
  simp only [Option.any_eq_true, List.any_eq_true, Bool.and_eq_true, decide_eq_true_eq] at reads
  obtain ⟨tree, parsed, site, member, ⟨form, spelled⟩, replaced⟩ := reads
  have inside := (tree.mem_classSites_iff 0 site).mp member
  obtain ⟨quote, raw, _, _, text, _, literal, _⟩ :=
    markup_written (.ofList [("a", "x\"y")]) parsed inside form
  have value : raw = "a".toList := by
    have same : quote :: raw ++ [quote] = '\'' :: "a".toList ++ ['\''] := text.symm.trans spelled
    exact (List.cons.inj (List.append_inj' same rfl).1).2
  have renamed : (Manifest.ofList [("a", "x\"y")]).rename raw = "x\"y".toList := by
    rw [value]
    decide +kernel
  refine ⟨tree, site, raw, parsed, inside, form, renamed, replaced, fun rest => ?_⟩
  rw [literal _ _ _ _ replaced, renamed]
  exact .inl ⟨by decide, rfl, rfl⟩

/-- A list with a quote of the other kind, one of whose names has the quote that encloses it, ends in that name:
what is written for it is not read as the renamed list, and the component cannot be read. -/
theorem markup_written_early_end :
    ∃ tree site text out,
      parse? (Dialect.ofId "a.tsx".toList) "f(<p class='a \"'/>)".toList = some tree
      ∧ tree.ClassSite 0 site ∧ site.form = .markup
      ∧ site.replacement? (.ofList [("a", "x'y")]) = some text
      ∧ ¬ MarkupLiteral text ((Manifest.ofList [("a", "x'y")]).rename site.value) []
      ∧ (rewrite "f(<p class='a \"'/>)".toList "a.tsx".toList (.ofList [("a", "x'y")]) "s".toList).output
        = some (some out)
      ∧ parse? (Dialect.ofId "a.tsx".toList) out.code.toList = none := by
  have reads : ((parse? (Dialect.ofId "a.tsx".toList) "f(<p class='a \"'/>)".toList).any fun tree =>
      (tree.classSites 0).any fun site => site.form = .markup && site.value = "a \"".toList
        && site.replacement? (.ofList [("a", "x'y")]) = some "'x'y \"'".toList) = true := by
    decide +kernel
  have ends : ((rewrite "f(<p class='a \"'/>)".toList "a.tsx".toList (.ofList [("a", "x'y")])
      "s".toList).output.join.any fun out =>
        (parse? (Dialect.ofId "a.tsx".toList) out.code.toList).isNone) = true := by
    decide +kernel
  simp only [Option.any_eq_true, List.any_eq_true, Bool.and_eq_true, decide_eq_true_eq,
    Option.join_eq_some_iff, Option.isNone_iff_eq_none] at reads ends
  obtain ⟨tree, parsed, site, member, ⟨form, value⟩, replaced⟩ := reads
  obtain ⟨out, rewritten, unread⟩ := ends
  have renamed : (Manifest.ofList [("a", "x'y")]).rename "a \"".toList = "x'y \"".toList := by
    decide +kernel
  refine ⟨tree, site, _, out, parsed, (tree.mem_classSites_iff 0 site).mp member, form, replaced, ?_,
    rewritten, unread⟩
  rw [value, renamed]
  exact fun literal => absurd ((markupLiteral_cons_iff (.inr rfl)).mp literal).2 (by decide)

end Component

end CompanionStyles
