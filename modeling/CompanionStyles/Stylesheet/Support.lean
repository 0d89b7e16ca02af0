import CompanionStyles.Stylesheet.Query
import CompanionStyles.Stylesheet.Value.Property

/-!
What `@supports` asks for: declarations, whose values are kept as they are, and functions. Questions
about one declaration under several prefixes are one question.
-/

namespace CompanionStyles.Stylesheet.Query

open Reader

inductive Support where
  /-- Prefixes under any of which a declaration may be known. -/
  | declaration (prefixes : List String) (name value : List Char)
  | condition (c : Condition)

def prefixOrder : List String :=
  Value.vendorPrefixes ++ [""]

def Support.toCondition : Support → Condition
  | .condition c => c
  | .declaration prefixes name value =>
    let shown := match name with
      | '-' :: '-' :: rest => '-' :: '-' :: writeNameRest rest
      | name => name
    let question (p : String) : List Char :=
      p.toList ++ shown ++ ": ".toList ++ value
    let text := List.intercalate ") or (".toList ((prefixOrder.filter (prefixes.contains ·)).map question)
    .ofFeature (Phrase.ofChars
      (if prefixes.all (· = "") then ['('] ++ text ++ [')'] else "((".toList ++ text ++ "))".toList))

/-- Adds a question behind others. A declaration is asked about without a prefix there; if it has been
asked about under prefixes, the questions are one. -/
def Support.addTo (asked : List Support) : Support → List Support
  | .declaration _ name value =>
    let isSame : Support → Bool
      | .declaration _ n v => n = name ∧ v = value
      | .condition _ => false
    if asked.any isSame then
      asked.map fun s => match s with
        | .declaration ps n v => if n = name ∧ v = value then .declaration (ps ++ [""]) n v else s
        | s => s
    else asked ++ [.declaration [""] name value]
  | c => asked ++ [c]

/-- Passes over all that is left and yields its text. -/
def rawText : Reader (List Char) := do
  let raw := (← get).nodes.flatMap Node.raw
  match (← get).nodes.find? fun n => n.head.isBad with
  | some n => failAt n.place (.unexpected n.head)
  | none =>
    modify fun c => { c with nodes := [] }
    return raw

/-- A property and its value, of which the text is kept. -/
def supportsDeclaration : Reader Support := do
  let name ← ident
  expectToken .colon
  skipBlanks
  let value ← rawText
  let (front, short) := Value.splitKnown name
  return .declaration [front] short value

/-- Parentheses or a function; what is not understood is kept as text. -/
def supportsPrimary (inner : Reader Support) : Reader Support := do
  skipBlanks
  let place ← here
  match ← peek with
  | none =>
    let _ ← next
    failAt place .endOfInput
  | some n =>
    let unknown : Reader Support := do
      let _ ← next
      return .condition (.ofFeature (Phrase.ofChars n.raw))
    match n with
    | .block _ _ (.opening .round) .. => block .round (inner <|> supportsDeclaration) <|> unknown
    | .block _ _ (.function _) .. =>
      (do
        let raw ← call ["selector"] fun _ => rawText
        return .condition (.ofFeature (Phrase.ofChars ("selector(".toList ++ raw ++ [')']))))
      <|> unknown
    | n => failAt place (.unexpected n.head)

/-- Questions behind the first one, all behind the same word. -/
def moreSupports (inner : Reader Support) (w : String) : Reader (List Support) :=
  many (do
    word w
    supportsPrimary inner)

def support : Nat → Reader Support
  | 0 => fail .nestingDepth
  | depth + 1 => do
    let inner := support depth
    if ← found (word "not") then
      return .condition (negate (← supportsPrimary inner).toCondition)
    let first ← supportsPrimary inner
    let all ← moreSupports inner "and"
    let (kind, rest) ← if all.isEmpty then do pure (ConditionKind.any, ← moreSupports inner "or")
      else pure (ConditionKind.all, all)
    match rest.foldl Support.addTo [first] with
    | [only] => return only
    | asked => return .condition (combine kind (asked.map Support.toCondition))

def supportsCondition : Reader Phrase := do
  return (← support maxDepth).toCondition.phrase

/-- What a stylesheet that is imported needs, in parentheses. -/
def importedSupports : Reader Phrase := do
  let s ← support maxDepth <|> supportsDeclaration
  let p := s.toCondition.phrase
  match s with
  | .declaration .. => return p
  | .condition _ => return .text ['('] :: p ++ Phrase.ofString ")"

end CompanionStyles.Stylesheet.Query
