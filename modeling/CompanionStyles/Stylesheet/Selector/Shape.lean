import CompanionStyles.Stylesheet.Phrase

/-!
Selectors: conditions on an element, and combinators between those on several elements. A pseudo-element
is an element of its own, with a combinator in front of it that is not written.
-/

namespace CompanionStyles.Stylesheet

/-- What stands between the conditions on two elements. -/
inductive Combinator where
  | descendant
  | child
  | nextSibling
  | laterSibling
  | pseudoElement
  | part
  | slotted
  deriving DecidableEq, Repr

def Combinator.text : Combinator → List Char
  | descendant => " ".toList
  | child => " > ".toList
  | nextSibling => " + ".toList
  | laterSibling => " ~ ".toList
  | pseudoElement | part | slotted => []

def Combinator.ofSign? : Char → Option Combinator
  | '>' => some child
  | '+' => some nextSibling
  | '~' => some laterSibling
  | _ => none

/-- What kind of condition one is, as far as that decides how it is written beside others. -/
inductive SimpleKind where
  | namespace_
  | type
  | universal
  | className (name : List Char)
  /-- The rule around. -/
  | nesting
  /-- The element that the others are seen from. -/
  | scope
  | other
  deriving DecidableEq, Repr

/-- One condition on an element. -/
structure Simple where
  phrase : Phrase
  kind : SimpleKind
  deriving Repr

namespace Simple

def other (p : Phrase) : Simple :=
  ⟨p, .other⟩

def nesting : Simple :=
  ⟨Phrase.ofString "&", .nesting⟩

def scope : Simple :=
  ⟨Phrase.ofString ":scope", .scope⟩

def isType (s : Simple) : Bool :=
  s.kind = .type ∨ s.kind = .universal

end Simple

inductive Component where
  | simple (s : Simple)
  | combinator (c : Combinator)
  deriving Repr

/-- Conditions and combinators in the order in which they are written. -/
abbrev Selector := List Component

namespace Selector

def compounds : Selector → List (List Simple)
  | [] => [[]]
  | .combinator _ :: rest => [] :: compounds rest
  | .simple s :: rest =>
    match compounds rest with
    | c :: cs => (s :: c) :: cs
    | [] => [[s]]

def combinators : Selector → List Combinator
  | [] => []
  | .combinator c :: rest => c :: combinators rest
  | .simple _ :: rest => combinators rest

def isCompound (s : Selector) : Bool :=
  s.combinators.isEmpty

/-- The class that a selector consists of, if it is nothing else. -/
def className? : Selector → Option (List Char)
  | [.simple ⟨_, .className name⟩] => some name
  | _ => none

/-- Whether the first condition is on the type of an element. -/
def startsWithType : Selector → Bool
  | .simple ⟨_, .namespace_⟩ :: .simple s :: _ => s.isType
  | .simple s :: _ => s.isType
  | _ => false

/-- The conditions on one element. `*` goes without saying beside others, unless it has a namespace, and
in front of a pseudo-element; beside what refers to the rule around it is kept at the start of a
selector. -/
def compoundPhrase (first : Bool) (next : Option Combinator) (conditions : List Simple) : Phrase :=
  let kind? (i : Nat) : Option SimpleKind := conditions[i]?.map Simple.kind
  let named := kind? 0 = some .namespace_
  let front := if named ∨ (first ∧ kind? 0 = some .nesting) then 1 else 0
  let isHidden := next = some .pseudoElement ∨ next = some .slotted
  let isAlone := front + 1 = conditions.length ∧ kind? front = some .universal ∧ !isHidden
  let kept := if isAlone ∨ named then conditions else conditions.filter fun s => s.kind != .universal
  kept.flatMap Simple.phrase

/-- The conditions on elements with the combinators behind them; `relative` tells whether the element
that the others are seen from goes without saying at the start. -/
def chainPhrase (relative first : Bool) : List (List Simple) → List Combinator → Phrase
  | [], _ => []
  | c :: cs, ks =>
    let implied := relative && c.head?.any fun s => s.kind == .scope
    let lead := if implied then (ks.head?.map Combinator.text).getD [] else []
    let conditions := if implied then c.tail else c
    let ks := if implied then ks.tail else ks
    let relative := relative && !implied
    if conditions.isEmpty then .text lead :: chainPhrase relative first cs ks
    else
      .text lead :: compoundPhrase first ks.head? conditions
        ++ .text ((ks.head?.map Combinator.text).getD []) :: chainPhrase relative false cs ks.tail

def phrase (relative : Bool) (s : Selector) : Phrase :=
  chainPhrase relative true s.compounds s.combinators

def listPhrase (relative : Bool) (selectors : List Selector) : Phrase :=
  Phrase.list (selectors.map (phrase relative))

end Selector

end CompanionStyles.Stylesheet
