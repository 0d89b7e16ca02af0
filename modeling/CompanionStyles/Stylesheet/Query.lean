import CompanionStyles.Stylesheet.Value.Align

/-!
Queries: the conditions of `@media` and `@container`. Features with `min-` and `max-` are written as
comparisons.
-/

namespace CompanionStyles.Stylesheet.Query

open Reader Value

inductive ConditionKind where
  | feature
  | negation
  | all
  | any
  deriving DecidableEq, Repr

structure Condition where
  phrase : Phrase
  kind : ConditionKind
  deriving Repr

/-- A condition as part of one of another kind, in parentheses if they differ. -/
def Condition.within (c : Condition) (outer : ConditionKind) : Phrase :=
  if c.kind = .feature ∨ (c.kind = outer ∧ outer ≠ .negation) then c.phrase
  else .text ['('] :: c.phrase ++ Phrase.ofString ")"

def negate (c : Condition) : Condition :=
  ⟨.text "not ".toList :: c.within .negation, .negation⟩

def combine (kind : ConditionKind) (cs : List Condition) : Condition :=
  let between := if kind = .all then " and " else " or "
  ⟨Phrase.join (Phrase.ofString between) (cs.map fun c => c.within kind), kind⟩

/-- What the conditions of one kind of rule consist of. -/
structure Grammar where
  /-- The contents of parentheses that hold no condition. -/
  feature : Reader Phrase
  /-- The names of the functions that are conditions. -/
  functions : List String
  /-- Such a function. -/
  function : Reader Phrase

def Grammar.ofFeature (feature : Reader Phrase) : Grammar :=
  ⟨feature, [], fail .value⟩

def Condition.ofFeature (p : Phrase) : Condition :=
  ⟨p, .feature⟩

/-- Parentheses that hold a condition or a feature, or a function. -/
def primary (g : Grammar) (inner : Reader Condition) : Reader Condition := do
  let place ← here
  match ← peek with
  | some (.block _ _ (.opening .round) ..) =>
    block .round (inner <|> Condition.ofFeature <$> g.feature)
  | some n =>
    match n.head with
    | .function name =>
      if g.functions.any (isWord name ·) then Condition.ofFeature <$> g.function
      else failAt place (.unexpected n.head)
    | t => failAt place (.unexpected t)
  | none =>
    let _ ← next
    failAt place .endOfInput

/-- Conditions after the first one, all behind the same word. -/
def moreConditions (g : Grammar) (inner : Reader Condition) (w : String) :
    Nat → Reader (List Condition)
  | 0 => pure []
  | fuel + 1 => do
    if ← found (word w) then
      let c ← primary g inner
      return c :: (← moreConditions g inner w fuel)
    else return []

/-- A condition; `mixed` tells whether `or` may combine conditions. -/
def condition (g : Grammar) : Nat → Bool → Reader Condition
  | 0, _ => fail .nestingDepth
  | depth + 1, mixed => do
    let inner := condition g depth true
    let place ← here
    if ← found (word "not") then return negate (← primary g inner)
    let first ← primary g inner
    let fuel ← size
    if ← found (word "and") then
      let second ← primary g inner
      return combine .all (first :: second :: (← moreConditions g inner "and" fuel))
    else if ← found (word "or") then
      if !mixed then failAt place (.unexpected (.ident "or".toList))
      let second ← primary g inner
      return combine .any (first :: second :: (← moreConditions g inner "or" fuel))
    else return first

def maxDepth : Nat :=
  200

/-- What the values of a feature are. -/
inductive FeatureType where
  | length
  | number
  | integer
  | ratio
  | resolution
  | boolean
  | word
  | unknown
  deriving DecidableEq, Repr

def FeatureType.isRange : FeatureType → Bool
  | boolean | word => false
  | _ => true

/-- Names of features, and the types of their values. -/
abbrev Features := List (FeatureType × List String)

def mediaFeatures : Features :=
  [(.length, ["width", "height", "device-width", "device-height"]),
   (.word,
    ["orientation", "overflow-block", "overflow-inline", "display-mode", "scan", "update",
     "environment-blending", "pointer", "hover", "any-pointer", "any-hover", "nav-controls",
     "video-color-gamut", "video-dynamic-range", "scripting", "prefers-reduced-motion",
     "prefers-reduced-transparency", "prefers-contrast", "prefers-color-scheme", "forced-colors",
     "prefers-reduced-data", "color-gamut", "dynamic-range", "inverted-colors"]),
   (.ratio, ["aspect-ratio", "device-aspect-ratio"]),
   (.integer,
    ["color", "color-index", "monochrome", "horizontal-viewport-segments",
     "vertical-viewport-segments"]),
   (.resolution, ["resolution"]), (.boolean, ["grid"]),
   (.number, ["-webkit-device-pixel-ratio", "-moz-device-pixel-ratio"])]

def containerFeatures : Features :=
  [(.length, ["width", "height", "inline-size", "block-size"]), (.ratio, ["aspect-ratio"]),
   (.word, ["orientation"])]

def scrollFeatures : Features :=
  [(.word, ["stuck", "snapped", "scrollable", "scrolled"])]

def featureType? (known : Features) (name : List Char) : Option FeatureType :=
  (known.find? fun (_, names) => names.any (isWord name ·)).map Prod.fst

inductive Comparison where
  | equal
  | greater
  | greaterEqual
  | less
  | lessEqual
  deriving DecidableEq, Repr

def Comparison.text : Comparison → List Char
  | equal => "=".toList
  | greater => ">".toList
  | greaterEqual => ">=".toList
  | less => "<".toList
  | lessEqual => "<=".toList

def Comparison.opposite : Comparison → Comparison
  | equal => equal
  | greater => less
  | greaterEqual => lessEqual
  | less => greater
  | lessEqual => greaterEqual

/-- Whether two comparisons can bound a value from both sides. -/
def Comparison.agree : Comparison → Comparison → Bool
  | greater, greater | greater, greaterEqual | greaterEqual, greater
  | greaterEqual, greaterEqual => true
  | less, less | less, lessEqual | lessEqual, less | lessEqual, lessEqual => true
  | _, _ => false

structure FeatureName where
  phrase : Phrase
  type : FeatureType
  /-- The comparison that the name stands for. -/
  legacy : Option Comparison

/-- What is left of a name behind some letters in any case. -/
def behind? (front : String) (name : List Char) : Option (List Char) :=
  if isWord (name.take front.length) front then some (name.drop front.length) else none

def withoutLegacy (name : List Char) : List Char × Option Comparison :=
  match behind? "min-" name with
  | some rest => (rest, some .greaterEqual)
  | none =>
    match behind? "max-" name with
    | some rest => (rest, some .lessEqual)
    | none => (name, none)

def featureName (known : Features) : Reader FeatureName := do
  let name ← ident
  match name with
  | '-' :: '-' :: custom => return ⟨[.dashed custom .sheet], .unknown, none⟩
  | name =>
    let (short, legacy) := match behind? "-webkit-" name with
      | some rest =>
        let (short, legacy) := withoutLegacy rest
        ("-webkit-".toList ++ short, legacy)
      | none => withoutLegacy name
    match featureType? known short with
    | some type => return ⟨Phrase.ofChars (lower short), type, legacy⟩
    | none => return ⟨Phrase.ofChars (writeName name), .unknown, none⟩

def featureWord : Reader Phrase := do
  return Phrase.ofChars (writeName (← ident))

def typedValue : FeatureType → Reader Phrase
  | .length => Calc.phrase <$> Value.length
  | .number => Value.numberPhrase <$> Value.number
  | .integer => Value.integerPhrase
  | .ratio => Value.ratio
  | .resolution => Value.resolution
  | .boolean => do
    let n ← Value.integer
    if n = 0 ∨ n = 1 then return Phrase.ofString (toString n) else fail .value
  | .word => featureWord
  | .unknown => fail .value

/-- A value whose type is not known. A ratio is told from a number by its slash, a number from a
length by the lack of a unit. Anything may be a variable of the reader's system. -/
def anyValue : Reader (FeatureType × Phrase) :=
  (do
    let before ← get
    let _ ← Value.number
    delim '/'
    set before
    return (.ratio, ← Value.ratio))
  <|> (FeatureType.number, ·) <$> typedValue .number
  <|> (FeatureType.length, ·) <$> typedValue .length
  <|> (FeatureType.resolution, ·) <$> typedValue .resolution
  <|> (FeatureType.unknown, ·) <$> (call ["env"] fun _ => Value.environment false Value.looseDepth)
  <|> (FeatureType.word, ·) <$> featureWord

/-- A value of a feature, and whether it is one that the feature can have. -/
def featureValue (type : FeatureType) : Reader (Phrase × Bool) := do
  match ← attempt (typedValue type) with
  | some p => return (p, true)
  | none =>
    let (found, p) ← anyValue
    return (p, type = .unknown ∨ found = .unknown ∨ found = type)

def comparison : Reader Comparison := do
  let place ← here
  let n ← next
  match n.head with
  | .delim '=' => return .equal
  | .delim '>' => if ← found (delim '=') then return .greaterEqual else return .greater
  | .delim '<' => if ← found (delim '=') then return .lessEqual else return .less
  | t => failAt place (.unexpected t)

def range (name : Phrase) (c : Comparison) (value : Phrase) : Phrase :=
  name ++ .text (' ' :: c.text ++ [' ']) :: value

def nameFirst (known : Features) : Reader Phrase := do
  let name ← featureName known
  if ← found (expectToken .colon) then
    let (value, fits) ← featureValue name.type
    if !fits then fail .mediaQuery
    match name.legacy with
    | some c => if name.type.isRange then return range name.phrase c value else fail .mediaQuery
    | none => return name.phrase ++ .text ": ".toList :: value
  else
    match ← attempt comparison with
    | some c =>
      if name.legacy.isSome then fail .mediaQuery
      let (value, fits) ← featureValue name.type
      if !fits || !name.type.isRange then fail .mediaQuery
      return range name.phrase c value
    | none => return name.phrase

def isIdent (n : Node) : Bool :=
  match n.head with
  | .ident _ => true
  | _ => false

/-- Passes over everything in front of a name; blanks at the end are left. -/
def skipToIdent : Reader Unit :=
  modify fun c =>
    let rest := c.nodes.dropWhile fun n => !isIdent n
    if rest.isEmpty then { c with nodes := (c.nodes.reverse.takeWhile isGap).reverse }
    else { c with nodes := rest }

/-- A feature that starts with a value. The name behind it tells of which type the value is. -/
def valueFirst (known : Features) : Reader Phrase := do
  let start ← get
  skipToIdent
  if (← peek).isNone then fail .mediaQuery
  let ahead ← featureName known
  if ahead.legacy.isSome then fail .mediaQuery
  set start
  let (value, fits) ← featureValue ahead.type
  let c ← comparison
  let name ← featureName known
  if !fits || !name.type.isRange then fail .mediaQuery
  match ← attempt comparison with
  | none => return range name.phrase c.opposite value
  | some d =>
    if !c.agree d then fail .mediaQuery
    let (last, lastFits) ← featureValue name.type
    if !lastFits then fail .mediaQuery
    return range (range value c name.phrase) d last

/-- A feature in parentheses. A value stands first where no name does. -/
def feature (known : Features) : Reader Phrase := do
  let start ← get
  let p ← match (nameFirst known).run start with
    | .ok (p, rest) => do
      set rest
      pure p
    | .error fault => if fault.cause = .mediaQuery then throw fault else valueFirst known
  return .text ['('] :: p ++ Phrase.ofString ")"

def mediaType : Reader (List Char) :=
  expect fun
    | .token _ _ (.ident name) =>
      if ["not", "and", "or", "only"].any (isWord name ·) then none
      else if ["all", "print", "screen"].any (isWord name ·) then some (lower name)
      else some name
    | _ => none

def mediaGrammar : Grammar :=
  .ofFeature (feature mediaFeatures)

/-- One query: a medium and a condition, or one of them. -/
def mediaQuery : Reader Phrase := do
  let medium ← attempt (do
    let qualifier ← attempt (keyword ["not", "only"])
    return (qualifier, ← mediaType))
  match medium with
  | none => return (← condition mediaGrammar maxDepth true).phrase
  | some (qualifier, type) =>
    let front := match qualifier with
      | some q => q ++ [' ']
      | none => []
    if ← found (word "and") then
      let c ← condition mediaGrammar maxDepth false
      if type = "all".toList ∧ qualifier.isNone then return c.phrase
      else return .text (front ++ type ++ " and ".toList)
        :: if c.kind = .any then c.within .all else c.phrase
    else return Phrase.ofChars (front ++ type)

def mediaQueriesUpTo : Nat → Reader (List Phrase)
  | 0 => pure []
  | fuel + 1 => do
    match ← until? (· == .comma) mediaQuery with
    | .error fault => if fault.cause = .endOfInput then return [] else throw fault
    | .ok q =>
      if ← found comma then return q :: (← mediaQueriesUpTo fuel)
      else return [q]

/-- The queries of a rule, up to one that ends too early. -/
def mediaQueries : Reader (List Phrase) := do
  mediaQueriesUpTo ((← size) + 1)

/-- The queries of a rule; no query at all means no medium. -/
def mediaList : Reader Phrase := do
  match ← mediaQueries with
  | [] => return Phrase.ofString "not all"
  | qs => return Phrase.list qs

def containerName : Reader (List Char) := do
  let place ← here
  let name ← Value.customName
  if ["none", "and", "not", "or"].any (isWord name ·) then failAt place (.unexpected (.ident name))
  else return name

/-- What is asked about how a container has been scrolled. One question has no parentheses of its
own. -/
def scrollState : Reader Phrase := do
  let one := feature scrollFeatures
  let c ← condition (.ofFeature one) maxDepth true <|> Condition.ofFeature <$> one
  let shown := if c.kind = .feature then c.phrase
    else .text ['('] :: c.phrase ++ Phrase.ofString ")"
  return .text "scroll-state".toList :: shown

/-- A condition on containers; `declaration` reads what may be asked about their style. -/
def containerCondition (declaration : Reader Phrase) : Reader Phrase := do
  let style : Grammar :=
    .ofFeature ((fun p => .text ['('] :: p ++ Phrase.ofString ")") <$> declaration)
  let function : Reader Phrase :=
    call ["style", "scroll-state"] fun name => do
      if name = "scroll-state".toList then return ← scrollState
      let p ← (Condition.phrase <$> condition style maxDepth true) <|> declaration
      return .text "style(".toList :: p ++ Phrase.ofString ")"
  let grammar : Grammar := ⟨feature containerFeatures, ["style", "scroll-state"], function⟩
  return (← condition grammar maxDepth true).phrase

end CompanionStyles.Stylesheet.Query
