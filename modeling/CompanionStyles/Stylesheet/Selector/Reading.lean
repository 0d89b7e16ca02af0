import CompanionStyles.Stylesheet.RawText
import CompanionStyles.Stylesheet.Selector.Attribute
import CompanionStyles.Stylesheet.Selector.Names
import CompanionStyles.Stylesheet.Selector.Nth

/-!
Reading selectors. Classes and identities are names of the stylesheet, except inside `:global()`.
-/

namespace CompanionStyles.Stylesheet.Selector

open Reader

/-- What stands in front of a condition, and where its selector stands, as far as that decides what the
condition may be. -/
structure State where
  afterPseudoElement : Bool
  afterPart : Bool
  afterSlotted : Bool
  /-- Whether the pseudo-element in front is a part of a scroll bar. -/
  afterScrollbar : Bool
  /-- Whether the pseudo-element in front is a part of a transition between views. -/
  afterTransition : Bool
  noCombinators : Bool
  noPseudoElements : Bool
  /-- Whether the selector refers to the rule around it. -/
  nesting : Bool

namespace State

def start : State :=
  ⟨false, false, false, false, false, false, false, false⟩

/-- Whether an element has been chosen that has neither classes nor children. -/
def afterPseudo (s : State) : Bool :=
  s.afterPseudoElement || s.afterPart || s.afterSlotted

/-- The state of selectors that choose no pseudo-elements. -/
def plain (s : State) : State :=
  { s with noPseudoElements := true }

end State

/-- The selectors that may stand inside another one. -/
inductive Need where
  /-- A list; if `forgiving`, selectors that cannot be read are dropped. -/
  | list (forgiving : Bool)
  /-- Such a list, in which a selector may start with a combinator. -/
  | relative
  | single
  | compound
  deriving DecidableEq

/-- Reads selectors inside another one, and tells whether they refer to the rule around. -/
abbrev Inner := State → Need → Reader (List Selector × Bool)

def parenthesized (name : List Char) (arguments : Phrase) : Phrase :=
  .text (':' :: name ++ ['(']) :: arguments ++ Phrase.ofString ")"

/-- Selectors of which one at least has to hold. One alone stands without a function around it, if it is
about one element and does not start with the element's type. -/
def anyOf (selectors : List Selector) : Phrase :=
  match selectors with
  | [s] =>
    if s.isCompound && !s.startsWithType then s.phrase false
    else parenthesized "is".toList (s.phrase false)
  | selectors => parenthesized "is".toList (listPhrase false selectors)

def nthNames : List String :=
  ["nth-child", "nth-last-child", "nth-of-type", "nth-last-of-type", "nth-col", "nth-last-col"]

/-- Reads the arguments of such a function, behind which some of them take selectors. -/
def nthArguments (inner : Inner) (state : State) (name : List Char) : Reader Phrase := do
  if state.afterPseudo then fail .selectorState
  let n ← nth
  if isIn ["nth-child", "nth-last-child"] name then
    if ← found (word "of") then
      let (selectors, _) ← inner state.plain (.list true)
      return parenthesized name (.text (n.text ++ " of ".toList) :: listPhrase false selectors)
  return parenthesized name (Phrase.ofChars n.text)

/-- Reads the arguments of a pseudo-class without selectors, or of `:local()` and `:global()`. -/
def plainArguments (inner : Inner) (name : List Char) : Reader Phrase := do
  let small := lower name
  match String.ofList small with
  | "lang" =>
    let tags ← commaSeparated (ident <|> string)
    return parenthesized small (Phrase.list (tags.map fun t => Phrase.ofChars (writeName t)))
  | "dir" => return parenthesized small (Phrase.ofChars (← keyword ["ltr", "rtl"]))
  | "active-view-transition-type" | "state" =>
    let names ← commaSeparated Value.customName
    return parenthesized small (Phrase.list (names.map fun n => [.name n]))
  | "local" => return listPhrase false (← inner .start .single).1
  | "global" => return (listPhrase false (← inner .start .single).1).plain
  | _ => return parenthesized name (Phrase.ofChars (← rawRest))

/-- Reads the arguments of a pseudo-class, and tells whether they refer to the rule around. -/
def classArguments (inner : Inner) (state : State) (name : List Char) : Reader (Phrase × Bool) := do
  let small := lower name
  let listed (need : Need) (relative : Bool) (state : State) : Reader (Phrase × Bool) := do
    let (selectors, nesting) ← inner state need
    return (parenthesized small (listPhrase relative selectors), nesting)
  match String.ofList small with
  | "is" =>
    let (selectors, nesting) ← inner state.plain (.list true)
    return (anyOf selectors, nesting)
  | "where" | "-webkit-any" | "-moz-any" => listed (.list true) false state.plain
  | "not" => listed (.list false) false state.plain
  | "has" => listed .relative true state
  | "host" =>
    if state.afterPseudo then fail .selectorState
    listed .compound false state
  | _ =>
    if isIn nthNames small then return (← nthArguments inner state small, false)
    if state.afterPseudo then fail .selectorState
    return (← plainArguments inner name, false)

/-- Reads which transitions between views are meant: a name or `*`, and classes. -/
def transitionPart : Reader Phrase := do
  skipBlanks
  let name ← orDefault [] ((do delim '*'; return Phrase.ofString "*")
    <|> (do return [.name (← Value.customName)]))
  let refuse (n : Node) : Reader Phrase := do failAt (← behind n) .selectorState
  let rec classes : Nat → Reader Phrase
    | 0 => pure []
    | fuel + 1 => do
      if (← get).nodes.all fun n => !isBlank n && isGap n then return []
      let n ← nextRaw
      if n.head != .delim '.' then return ← refuse n
      match ← attempt nextRaw with
      | some (.token _ _ (.ident c)) => return .text ['.'] :: .name c :: (← classes fuel)
      | some n => refuse n
      | none => fail .selectorState
  let more ← classes ((← size) + 1)
  if name.isEmpty && more.isEmpty then fail .selectorState
  return name ++ more
where
  isBlank (n : Node) : Bool :=
    match n.head with
    | .blank _ => true
    | _ => false

/-- Reads the arguments of a pseudo-element, and tells whether it is known. -/
def elementArguments (inner : Inner) (name : List Char) : Reader (Phrase × Bool) := do
  let small := lower name
  let wrap (name : List Char) (arguments : Phrase) : Phrase :=
    .text [':'] :: parenthesized name arguments
  if isIn transitionElements small then return (wrap small (← transitionPart), true)
  match String.ofList small with
  | "cue" | "cue-region" =>
    return (wrap small (listPhrase false (← inner .start .single).1), true)
  | "highlight" => return (wrap small [.name (← Value.customName)], true)
  | "picker" => return (wrap small (Phrase.ofChars (writeName (← ident))), true)
  | _ => return (wrap name (Phrase.ofChars (← rawRest)), false)

/-- Reads a pseudo-element behind its colons, from its name on. -/
def pseudoElement (inner : Inner) (state : State) (n : Node) : Reader (Selector × State) := do
  let refuse : Reader (Selector × State) := do failAt (← behind n) .selectorState
  if state.afterPseudoElement || state.noPseudoElements then return ← refuse
  let shown (p : Phrase) : Component := .simple (.other p)
  let checked (valid : Bool) : Reader Unit := do
    if state.afterSlotted && !valid then fail .selectorState
  match n with
  | .block _ _ (.function name) arguments last =>
    if isWord name "part" then
      if state.afterPseudo then return ← refuse
      let names ← inside arguments last (many1 ident)
      let p := parenthesized ":part".toList (Phrase.words (names.map fun n => Phrase.ofChars (writeName n)))
      return ([.combinator .part, shown p], { state with afterPart := true })
    if isWord name "slotted" then
      if state.afterPseudo then return ← refuse
      let (selectors, nesting) ← inside arguments last (inner state .compound)
      return ([.combinator .slotted, shown (parenthesized ":slotted".toList (listPhrase false selectors))],
        { state with afterSlotted := true, nesting := state.nesting || nesting })
    let (p, known) ← inside arguments last (elementArguments inner name)
    checked false
    if known then
      return ([.combinator .pseudoElement, shown p],
        { state with
          afterPseudoElement := true
          afterTransition := state.afterTransition || isIn transitionElements name })
    else return ([shown p], state)
  | n =>
    let name := match n.head with
      | .ident name => name
      | _ => []
    checked (isIn slottedElements name)
    let p := Phrase.ofChars (elementText name)
    if isIn knownElements name then
      return ([.combinator .pseudoElement, shown p],
        { state with
          afterPseudoElement := true
          afterScrollbar := state.afterScrollbar || isIn scrollbarElements name })
    else return ([shown p], state)

/-- A pseudo-class without arguments, found behind a colon at `place`. -/
def pseudoClass (state : State) (place : Place) (name : List Char) : Reader Simple := do
  let shown (text : List Char) : Simple := .other (Phrase.ofChars (':' :: text))
  if state.afterSlotted then failAt place .selectorState
  if !state.afterPseudo && isIn structuralClasses name then
    return if isWord name "scope" then .scope else shown (lower name)
  if state.afterTransition && isWord name "only-child" then return shown (lower name)
  if isWord name "global" || isWord name "local" then failAt place .ambiguousScope
  if state.afterScrollbar then
    if !isIn afterScrollbar name then failAt place .afterScrollbar
  else if state.afterPseudoElement then
    if !isIn userActions name then failAt place .pseudoClassAfterPseudoElement
  else if isIn scrollbarClasses name then failAt place .beforeScrollbar
  return shown (classText name)

def behindColon (inner : Inner) (state : State) : Reader (Selector × State) := do
  let place ← here
  let first ← nextRaw
  let single := first.head != .colon
  let n ← if single then pure first else nextRaw
  let isElement (name : List Char) : Bool := !single || isIn singleColonElements name
  match n with
  | .token _ _ (.ident name) =>
    if isElement name then pseudoElement inner state n
    else return ([.simple (← pseudoClass state place name)], state)
  | .block _ _ (.function name) arguments last =>
    if isElement name then pseudoElement inner state n
    else
      let (phrase, nesting) ← inside arguments last (classArguments inner state name)
      return ([.simple (.other phrase)], { state with nesting := state.nesting || nesting })
  | n => failAt (← behind n) (.pseudoNeedsName n.head)

def simple (inner : Inner) (state : State) : Reader (Option (Selector × State)) := do
  match ← peekRaw with
  | none => return none
  | some n =>
    let take : Reader Unit := do
      let place ← here
      let _ ← nextRaw
      if state.afterPseudo then failAt place (.afterPseudoElement n.head)
    match n with
    | .token _ _ (.idHash id) =>
      take
      return some ([.simple (.other [.text ['#'], .name id])], state)
    | .token _ _ (.delim '.') =>
      take
      let place ← here
      match ← nextRaw with
      | .token _ _ (.ident name) =>
        return some ([.simple ⟨[.text ['.'], .name name], .className name⟩], state)
      | n => failAt place (.classNeedsName n.head)
    | .block _ _ (.opening .square) content last =>
      take
      return some ([.simple (← inside content last attributeTest)], state)
    | .token _ _ .colon =>
      let _ ← nextRaw
      return some (← behindColon inner state)
    | .token _ _ (.delim '&') =>
      let _ ← nextRaw
      return some ([.simple .nesting], { state with nesting := true })
    | _ => return none

def simples (inner : Inner) : Nat → State → Reader (Selector × State)
  | 0, state => pure ([], state)
  | fuel + 1, state => do
    match ← simple inner state with
    | none => return ([], state)
    | some (s, state) =>
      let (more, state) ← simples inner fuel state
      return (s ++ more, state)

def compound (inner : Inner) (state : State) : Reader (Selector × State) := do
  skipBlanks
  let leading ← found (do
    match ← nextRaw with
    | .token _ _ (.delim '&') => pure ()
    | n => fail (.unexpected n.head))
  let state := { state with nesting := state.nesting || leading }
  let front : Selector := if leading then [.simple .nesting] else []
  let type ← element
  if !type.isEmpty && state.afterPseudo then fail .selectorState
  let (more, state) ← simples inner ((← size) + 1) state
  return (front ++ type ++ more, state)

def combinator : Reader (Option Combinator) := do
  let c ← get
  let gaps := c.nodes.takeWhile isGap
  let blank := gaps.any fun n => match n.head with
    | .blank _ => true
    | _ => false
  match c.nodes.drop gaps.length with
  | [] =>
    set { c with nodes := [] }
    return none
  | n :: rest =>
    let sign := match n.head with
      | .delim d => Combinator.ofSign? d
      | _ => none
    match sign with
    | some k =>
      set { c with nodes := rest }
      return some k
    | none =>
      if blank then
        set { c with nodes := n :: rest }
        return some .descendant
      else return none

/-- Reads conditions on elements with combinators between them; `started` tells whether a combinator
stands in front. Behind a pseudo-element there is nothing. -/
def chain (inner : Inner) : Nat → Bool → State → Reader (Selector × State)
  | 0, _, _ => fail .emptySelector
  | fuel + 1, started, state => do
    let (s, state) ← compound inner state
    if s.isEmpty then fail (if started then .danglingCombinator else .emptySelector)
    if state.afterPseudo then
      let place ← here
      match ← attempt next with
      | some n => failAt place (.afterPseudoElement n.head)
      | none => return (s, state)
    match ← combinator with
    | none => return (s, state)
    | some k =>
      if state.noCombinators then fail .selectorState
      let (more, state) ← chain inner fuel true state
      return (s ++ .combinator k :: more, state)

/-- What a selector needs of the rule around it. -/
inductive Nesting where
  | free
  /-- It lies inside the rule, also if it does not say so. -/
  | implied
  /-- It has to refer to the rule. -/
  | required
  deriving DecidableEq

/-- Reads one selector, and tells whether it refers to the rule around. -/
def one (inner : Inner) (nesting : Nesting) (state : State) : Reader (Selector × Bool) := do
  let (s, state) ← chain inner ((← size) + 1) false state
  if state.nesting then return (s, true)
  match nesting with
  | .free => return (s, false)
  | .implied => return (.simple .nesting :: .combinator .descendant :: s, false)
  | .required => fail .missingNesting

/-- Reads one selector that may start with a combinator. -/
def relativeOne (inner : Inner) (nesting : Nesting) (state : State) : Reader (Selector × Bool) := do
  let before ← get
  let sign := match (← next).head with
    | .delim d => Combinator.ofSign? d
    | _ => none
  match sign with
  | none =>
    set before
    one inner nesting state
  | some k =>
    let (s, nested) ← one inner .free state
    let start : Simple := if nesting = .implied then .nesting else .scope
    return (.simple start :: .combinator k :: s, nested)

/-- Reads selectors up to the end, with commas between them. If `forgiving`, those that cannot be read
are left out. -/
def listUpTo (forgiving : Bool) (read : Reader (Selector × Bool)) :
    Nat → Reader (List (Selector × Bool))
  | 0 => pure []
  | fuel + 1 => do
    let front ← match ← until? (· == .comma) read with
      | .ok s => pure [s]
      | .error fault => if forgiving then pure [] else throw fault
    if ← found comma then return front ++ (← listUpTo forgiving read fuel)
    else return front

/-- Reads a list of selectors, and tells whether one of them refers to the rule around. -/
def listOf (forgiving : Bool) (read : Reader (Selector × Bool)) : Reader (List Selector × Bool) := do
  let all ← listUpTo forgiving read ((← size) + 1)
  return (all.map Prod.fst, all.any Prod.snd)

/-- Reads what is needed inside a selector; `depth` bounds how far selectors nest. -/
def nested : Nat → Inner
  | 0, _, _ => fail .nestingDepth
  | depth + 1, state, need =>
    let inner := nested depth
    let alone (state : State) : Reader (List Selector × Bool) := do
      let (s, nesting) ← one inner .free state
      return ([s], nesting)
    match need with
    | .list forgiving => listOf forgiving (one inner .free state)
    | .relative => listOf true (relativeOne inner .free state)
    | .single => alone state
    | .compound => alone { state with noPseudoElements := true, noCombinators := true }

def maxDepth : Nat :=
  500

def rule : Reader (List Selector) :=
  Prod.fst <$> listOf false (one (nested maxDepth) .free .start)

/-- Reads the selectors of a rule inside another one. -/
def nestedRule : Reader (List Selector) :=
  Prod.fst <$> listOf false (relativeOne (nested maxDepth) .implied .start)

/-- Reads selectors that have to refer to the rule around them. -/
def requiredNesting : Reader (List Selector) :=
  Prod.fst <$> listOf false (one (nested maxDepth) .required .start)

def scopeBounds : Reader (List Selector) :=
  Prod.fst <$> listOf true (relativeOne (nested maxDepth) .free .start)

end CompanionStyles.Stylesheet.Selector
