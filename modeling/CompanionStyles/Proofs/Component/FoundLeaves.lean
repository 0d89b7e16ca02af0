import CompanionStyles.Proofs.Component.Parsed
import CompanionStyles.Proofs.Component.SiteSpans
import CompanionStyles.Proofs.Component.SpelledNames

/-!
What the leaves of a parsed source look like. A name is spelled by its parts; a literal and a string of
markup end where they end, whatever stands behind them.
-/

namespace CompanionStyles.Component

namespace Leaf

theorem read_string {quote : Char} {rest : List Char} {n : Nat} (quoted : quote = '"' ∨ quote = '\'')
    (closed : stringLength? quote rest = some n) : read (quote :: rest) = (.string, n + 1) := by
  have noName : (isNameStart quote || decide (quote = '\\')) = false := by
    have start : isNameStart quote = false := not_fitsName_quote quoted true
    rw [start]
    rcases quoted with rfl | rfl
    · rfl
    · rfl
  have noNumber : (isDigit quote || (decide (quote = '.') && (rest.head?.map isDigit).getD false)) = false := by
    rcases quoted with rfl | rfl
    · simp [isDigit]
    · simp [isDigit]
  unfold read
  dsimp only
  rw [noName, noNumber, closed]
  simp [quoted]

theorem stringLength?_quotedChar (c : Char) (rest : List Char) :
    stringLength? '"' (Text.quotedChar c ++ rest)
      = (stringLength? '"' rest).map (· + (Text.quotedChar c).length) := by
  unfold Text.quotedChar
  repeat' split
  all_goals cases behind : stringLength? '"' rest
  all_goals simp_all [stringLength?, isEscape, unicodeEscape?, isHexDigit]

theorem stringLength?_quote (text rest : List Char) :
    stringLength? '"' (text.flatMap Text.quotedChar ++ ('"' :: rest))
      = some ((text.flatMap Text.quotedChar).length + 1) := by
  induction text with
  | nil => simp [stringLength?]
  | cons c text ih =>
    rw [List.flatMap_cons, List.append_assoc, stringLength?_quotedChar, ih, Option.map_some,
      List.length_append]
    congr 1
    omega

/-- A literal that is written is read as a string, whatever stands behind it. -/
theorem read_quote (value rest : List Char) :
    read (Text.quote value ++ rest) = (.string, (Text.quote value).length) := by
  have spelled : Text.quote value ++ rest = '"' :: (value.flatMap Text.quotedChar ++ ('"' :: rest)) := by
    simp [Text.quote]
  rw [spelled, read_string (Or.inl rfl) (stringLength?_quote value rest)]
  simp [Text.quote]

/-- What is read as a leaf of code is a name, a string, or of a kind that no site has. -/
theorem read_cases (text : List Char) :
    read text = (.name, nameLength text)
    ∨ (∃ quote rest n, text = quote :: rest ∧ (quote = '"' ∨ quote = '\'') ∧ stringLength? quote rest = some n)
    ∨ (read text).1 ≠ .name ∧ (read text).1 ≠ .string ∧ (read text).1 ≠ .markupString := by
  by_cases quoted : ∃ quote rest n, text = quote :: rest ∧ (quote = '"' ∨ quote = '\'')
      ∧ stringLength? quote rest = some n
  · exact Or.inr (Or.inl quoted)
  · unfold read
    dsimp only
    repeat' split
    all_goals simp_all

/-- What the readings for places within markup, templates, and operators give. -/
theorem Mode.read_cases (mode : Mode) (text : List Char) :
    mode.read text = Leaf.read text ∨ mode.read text = readMarkupString text
    ∨ (mode.read text).1 ≠ .name ∧ (mode.read text).1 ≠ .string ∧ (mode.read text).1 ≠ .markupString := by
  cases mode with
  | code => exact Or.inl rfl
  | markupString => exact Or.inr (Or.inl rfl)
  | regex =>
    refine Or.inr (Or.inr ?_)
    unfold Mode.read readRegex
    dsimp only
    split <;> simp
  | templateRest =>
    refine Or.inr (Or.inr ?_)
    unfold Mode.read readTemplateRest
    dsimp only
    split <;> simp
  | markupName =>
    refine Or.inr (Or.inr ?_)
    unfold Mode.read readMarkupName
    dsimp only
    split
    · split <;> simp
    · simp
  | markupText =>
    refine Or.inr (Or.inr ?_)
    unfold Mode.read readMarkupText
    dsimp only
    repeat' split
    all_goals simp
  | markStart =>
    refine Or.inr (Or.inr ?_)
    unfold Mode.read readMarkStart
    dsimp only
    split <;> simp
  | greater =>
    unfold Mode.read readGreater
    dsimp only
    split
    · exact Or.inr (Or.inr (by simp))
    · exact Or.inl rfl

/-- What is read as a string of markup goes up to the next quote of its kind. -/
theorem readMarkupString_cases (text : List Char) :
    (∃ quote body rest, text = quote :: (body ++ quote :: rest) ∧ (quote = '"' ∨ quote = '\'') ∧ quote ∉ body
      ∧ readMarkupString text = (.markupString, body.length + 2))
    ∨ (readMarkupString text).1 ≠ .name ∧ (readMarkupString text).1 ≠ .string
      ∧ (readMarkupString text).1 ≠ .markupString := by
  cases text with
  | nil => exact Or.inr (by simp [readMarkupString])
  | cons quote rest =>
    have split := List.takeWhile_append_dropWhile (p := (· ≠ quote)) (l := rest)
    have outside : quote ∉ rest.takeWhile (· ≠ quote) := by
      intro member
      have other := List.mem_takeWhile_imp member
      exact absurd other (by simp)
    unfold readMarkupString
    dsimp only
    by_cases quoted : (decide (quote = '"') || decide (quote = '\'')) = true
    · rw [if_pos quoted]
      have kind : quote = '"' ∨ quote = '\'' := by simpa using quoted
      by_cases closed : (rest.takeWhile (· ≠ quote)).length < rest.length
      · rw [if_pos closed]
        cases behind : rest.dropWhile (· ≠ quote) with
        | nil =>
          rw [behind, List.append_nil] at split
          rw [split] at closed
          exact absurd closed (Nat.lt_irrefl _)
        | cons c tail =>
          have same : c = quote := by
            have head := List.head?_dropWhile_not (· ≠ quote) rest
            rw [behind] at head
            simpa using head
          rw [behind, same] at split
          exact Or.inl ⟨quote, rest.takeWhile (· ≠ quote), tail, by rw [split], kind, outside, rfl⟩
      · rw [if_neg closed]
        exact Or.inr (by simp)
    · rw [if_neg quoted]
      exact Or.inr (by simp)

/-- A leaf of one of the kinds that sites have: a name as it is spelled, a string up to the quote that closes
it, or a string of markup. -/
theorem Found.cases {kind : LeafKind} {text : List Char} (found : Found ⟨kind, text⟩) :
    (kind = .name ∧ ∃ source : List Char, text = source.take (nameLength source))
    ∨ (kind = .string ∧ ∃ quote source n, (quote = '"' ∨ quote = '\'')
      ∧ stringLength? quote source = some n ∧ text = quote :: source.take n)
    ∨ (kind = .markupString ∧ ∃ quote body, text = quote :: (body ++ [quote]) ∧ (quote = '"' ∨ quote = '\'')
      ∧ quote ∉ body)
    ∨ kind ≠ .name ∧ kind ≠ .string ∧ kind ≠ .markupString := by
  rcases found with blank | ⟨mode, source, same, whole⟩
  · rw [show kind = .blank from blank]
    exact Or.inr (Or.inr (Or.inr (by simp)))
  · dsimp only at same whole
    subst same whole
    rcases mode.read_cases source with code | markup | other
    · rw [code]
      rcases read_cases source with name | ⟨quote, rest, n, rfl, quoted, closed⟩ | other
      · rw [name]
        exact Or.inl ⟨rfl, source, rfl⟩
      · rw [read_string quoted closed]
        exact Or.inr (Or.inl ⟨rfl, quote, rest, n, quoted, closed, List.take_succ_cons⟩)
      · exact Or.inr (Or.inr (Or.inr other))
    · rw [markup]
      rcases readMarkupString_cases source with ⟨quote, body, rest, rfl, quoted, outside, read⟩ | other
      · rw [read]
        refine Or.inr (Or.inr (Or.inl ⟨rfl, quote, body, ?_, quoted, outside⟩))
        rw [List.take_succ_cons, List.take_length_add_append]
        rfl
      · exact Or.inr (Or.inr (Or.inr other))
    · exact Or.inr (Or.inr (Or.inr other))

theorem Found.name {text : List Char} (found : Found ⟨.name, text⟩) :
    ∃ source : List Char, text = source.take (nameLength source) := by
  simpa using found.cases

theorem Found.string {text : List Char} (found : Found ⟨.string, text⟩) :
    ∃ quote source n, (quote = '"' ∨ quote = '\'') ∧ stringLength? quote source = some n
      ∧ text = quote :: source.take n := by
  simpa using found.cases

theorem Found.markupString {text : List Char} (found : Found ⟨.markupString, text⟩) :
    ∃ quote body, text = quote :: (body ++ [quote]) ∧ (quote = '"' ∨ quote = '\'') ∧ quote ∉ body := by
  simpa using found.cases

/-- A name that is a leaf has no blanks. -/
theorem Found.nameOf {text : List Char} (found : Found ⟨.name, text⟩) (solid : text ≠ []) :
    Text.nameOf text ≠ [] ∧ ∀ c ∈ Text.nameOf text, Text.isBlank c = false := by
  obtain ⟨source, rfl⟩ := found.name
  exact (spells_namePartsLength true source.length source).nameOf solid

/-- A name does not start with a quote. -/
theorem Found.head?_ne {text : List Char} (found : Found ⟨.name, text⟩) : text.head? ≠ some '"' := by
  obtain ⟨source, rfl⟩ := found.name
  intro starts
  cases source with
  | nil => exact absurd starts (by simp)
  | cons c source =>
    have quote : c = '"' := by
      cases length : nameLength (c :: source) with
      | zero => rw [length] at starts; exact absurd starts (by simp)
      | succ n => rw [length, List.take_succ_cons] at starts; exact Option.some.inj starts
    rw [quote, nameLength, List.length_cons, namePartsLength_plain (by decide),
      not_fitsName_quote (Or.inl rfl)] at starts
    exact absurd starts (by simp)

/-- The length of a text up to the next quote that no backslash precedes, with the quote. -/
def closing? (quote : Char) : List Char → Option Nat
  | [] => none
  | '\\' :: _ :: rest => (closing? quote rest).map (· + 2)
  | c :: rest => if c = quote then some 1 else (closing? quote rest).map (· + 1)

/-- A string ends at its closing quote. -/
theorem closing?_of_stringLength? {quote : Char} {text : List Char} {n : Nat}
    (quoted : quote = '"' ∨ quote = '\'') (closed : stringLength? quote text = some n) :
    closing? quote text = some n := by
  induction text using stringLength?.induct quote generalizing n with
  | case1 => exact absurd closed (by simp [stringLength?])
  | case2 rest ih =>
    rw [stringLength?, Option.map_eq_some_iff] at closed
    obtain ⟨m, closed, rfl⟩ := closed
    have newline : '\n' ≠ quote := by rcases quoted with rfl | rfl <;> decide
    simp [closing?, newline, ih closed]
  | case3 c rest noBreak escape ih =>
    rw [stringLength?, if_pos escape, Option.map_eq_some_iff] at closed
    · obtain ⟨m, closed, rfl⟩ := closed
      rw [closing?, ih closed]
      rfl
    · exact noBreak
  | case4 c rest noBreak noEscape =>
    rw [stringLength?, if_neg noEscape] at closed
    · exact absurd closed (by simp)
    · exact noBreak
  | case5 rest noBreak noEscape =>
    rw [stringLength?, if_pos rfl] at closed
    · rw [closing?, if_pos rfl]
      · exact closed
      · exact noEscape
    · exact noBreak
    · exact noEscape
  | case6 c rest noBreak noEscape other line =>
    rw [stringLength?, if_neg other, if_pos line] at closed
    · exact absurd closed (by simp)
    · exact noBreak
    · exact noEscape
  | case7 c rest noBreak noEscape other line ih =>
    rw [stringLength?, if_neg other, if_neg line, Option.map_eq_some_iff] at closed
    · obtain ⟨m, closed, rfl⟩ := closed
      rw [closing?, if_neg other, ih closed]
      · rfl
      · exact noEscape
    · exact noBreak
    · exact noEscape

theorem closing?_plain {quote c : Char} (plain : c ≠ '\\') (text : List Char) :
    closing? quote (c :: text) = if c = quote then some 1 else (closing? quote text).map (· + 1) := by
  simp [closing?, plain]

/-- Where a string is closed does not depend on what follows. -/
theorem closing?_take {quote : Char} {text : List Char} {n : Nat} (quoted : quote = '"' ∨ quote = '\'')
    (closed : closing? quote text = some n) (rest : List Char) :
    closing? quote (text.take n ++ rest) = some n := by
  induction text using closing?.induct quote generalizing n with
  | case1 => exact absurd closed (by simp [closing?])
  | case2 c text ih =>
    rw [closing?, Option.map_eq_some_iff] at closed
    obtain ⟨m, closed, rfl⟩ := closed
    rw [List.take_succ_cons, List.take_succ_cons, List.cons_append, List.cons_append, closing?, ih closed]
    rfl
  | case3 text noEscape =>
    have plain : quote ≠ '\\' := by rcases quoted with rfl | rfl <;> decide
    rw [closing?_plain plain, if_pos rfl] at closed
    obtain rfl := Option.some.inj closed
    rw [List.take_succ_cons, List.cons_append, closing?_plain plain, if_pos rfl]
  | case4 c text noEscape other ih =>
    by_cases plain : c = '\\'
    · cases text with
      | nil => exact absurd closed (by simp [closing?, other])
      | cons d text => exact absurd rfl (noEscape d text plain)
    · rw [closing?_plain plain, if_neg other, Option.map_eq_some_iff] at closed
      obtain ⟨m, closed, rfl⟩ := closed
      rw [List.take_succ_cons, List.cons_append, closing?_plain plain, if_neg other, ih closed]
      rfl

theorem closing?_le {quote : Char} {text : List Char} {n : Nat} (closed : closing? quote text = some n) :
    n ≤ text.length := by
  induction text using closing?.induct quote generalizing n with
  | case1 => exact absurd closed (by simp [closing?])
  | case2 c text ih =>
    rw [closing?, Option.map_eq_some_iff] at closed
    obtain ⟨m, closed, rfl⟩ := closed
    have shorter := ih closed
    simp only [List.length_cons]
    omega
  | case3 text noEscape =>
    rw [closing?, if_pos rfl] at closed
    · obtain rfl := Option.some.inj closed
      simp only [List.length_cons]
      omega
    · exact noEscape
  | case4 c text noEscape other ih =>
    rw [closing?, if_neg other, Option.map_eq_some_iff] at closed
    · obtain ⟨m, closed, rfl⟩ := closed
      have shorter := ih closed
      simp only [List.length_cons]
      omega
    · exact noEscape

theorem found_quote (value : List Char) : Found ⟨.string, Text.quote value⟩ := by
  have read := read_quote value []
  rw [List.append_nil] at read
  refine Or.inr ⟨.code, Text.quote value, congrArg Prod.fst read, ?_⟩
  rw [show Mode.code.read = Leaf.read from rfl, read, List.take_length]

/-- A string goes up to where it is closed, whatever follows. -/
theorem Found.closing? {text : List Char} (found : Found ⟨.string, text⟩) :
    ∃ quote body, text = quote :: body ∧ ∀ rest, closing? quote (body ++ rest) = some body.length := by
  obtain ⟨quote, source, n, quoted, closed, whole⟩ := found.string
  have closed := closing?_of_stringLength? quoted closed
  have bound := closing?_le closed
  refine ⟨quote, source.take n, whole, fun rest => ?_⟩
  rw [closing?_take quoted closed, List.length_take, Nat.min_eq_left bound]

/-- Two strings in front of one text are one. -/
theorem Found.string_eq {a b rest rest' : List Char} (first : Found ⟨.string, a⟩)
    (second : Found ⟨.string, b⟩) (same : a ++ rest = b ++ rest') : a = b := by
  obtain ⟨quote, body, rfl, closed⟩ := first.closing?
  obtain ⟨quote', body', rfl, closed'⟩ := second.closing?
  rw [List.cons_append, List.cons_append, List.cons.injEq] at same
  obtain ⟨rfl, same⟩ := same
  have here := closed rest
  rw [same, closed' rest'] at here
  have length : body.length = body'.length := (Option.some.inj here).symm
  rw [(List.append_inj same length).1]

/-- A string of markup goes up to the next quote of its kind, as any text that is written between quotes. -/
theorem Found.markupString_eq {quote : Char} {body b rest rest' : List Char} (outside : quote ∉ body)
    (found : Found ⟨.markupString, b⟩) (same : quote :: (body ++ quote :: rest) = b ++ rest') :
    b = quote :: (body ++ [quote]) := by
  obtain ⟨quote', body', rfl, _, outside'⟩ := found.markupString
  rw [List.cons_append, List.cons.injEq, List.append_assoc, List.singleton_append] at same
  obtain ⟨rfl, same⟩ := same
  have read := takeWhile_ne outside rest
  rw [same, takeWhile_ne outside' rest'] at read
  rw [read]

end Leaf

/-- A class site of a parsed source was read as a leaf of its kind. -/
theorem Syntax.ClassSite.found {d : Dialect} {source : List Char} {tree : Syntax} {site : Site}
    (inside : tree.ClassSite 0 site) (parsed : parse? d source = some tree) :
    Leaf.Found ⟨site.form.kind, site.text⟩ ∧ site.text ≠ [] := by
  obtain ⟨_, taken⟩ := parse?_taken parsed
  obtain ⟨before, after, leaves, _⟩ := inside.within.leaves
  have member : ⟨site.form.kind, site.text⟩ ∈ tree.leaves := by
    rw [leaves]
    simp
  exact ⟨taken.found _ member, taken.solid _ member⟩

end CompanionStyles.Component
