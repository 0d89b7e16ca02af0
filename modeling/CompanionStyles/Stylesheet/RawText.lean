import CompanionStyles.Stylesheet.Value.Loose

/-!
Nodes as they are written: their blanks and comments stay, and strings have double quotes.
-/

namespace CompanionStyles.Stylesheet

open Value

def bareAddress (address : List Char) : List Char :=
  address.flatMap fun c =>
    if c.toNat ≤ 0x20 ∨ c.toNat = 0x7F then escapeByCode c
    else if ['(', ')', '"', '\'', '\\'].contains c then ['\\', c]
    else [c]

namespace Token

def rawText : Token → List Char
  | url address => "url(".toList ++ bareAddress address ++ [')']
  | number n => numeralText n n.value
  | dimension n unit => numeralText n n.value ++ Quantity.unitName unit
  | blank text => text
  | comment text => "/*".toList ++ text ++ "*/".toList
  | t => tokenText t

def closingText (t : Token) : List Char :=
  match Node.closes? t with
  | some b => tokenText (.closing b)
  | none => []

end Token

namespace Node

mutual

def rawText : Node → List Char
  | token _ _ t => t.rawText
  | block _ _ t inner _ => t.rawText ++ rawTexts inner ++ t.closingText

def rawTexts : List Node → List Char
  | [] => []
  | n :: rest => n.rawText ++ rawTexts rest

end

mutual

/-- The first token inside a node that can stand in no value, and the place behind it; `after` is the
place behind the node. -/
def badInside? (after : Place) : Node → Option (Place × Token)
  | token _ _ t => if t.isBad then some (after, t) else none
  | block _ _ _ inner last => badAmong? last inner

def badAmong? (last : Place) : List Node → Option (Place × Token)
  | [] => none
  | n :: rest =>
    let after := match rest with
      | [] => last
      | m :: _ => m.place
    badInside? after n <|> badAmong? last rest

end

end Node

namespace Reader

/-- Passes over all that is left and yields its text. -/
def rawRest : Reader (List Char) := do
  let c ← get
  match Node.badAmong? c.stop c.nodes with
  | some (place, t) => failAt place (.unexpected t)
  | none =>
    set { c with nodes := [] }
    return Node.rawTexts c.nodes

end Reader

end CompanionStyles.Stylesheet
