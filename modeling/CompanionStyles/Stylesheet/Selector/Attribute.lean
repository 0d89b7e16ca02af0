import CompanionStyles.Stylesheet.Selector.Shape
import CompanionStyles.Stylesheet.Value.Loose

/-!
Names with namespaces, of elements and of attributes, and conditions on attributes.
-/

namespace CompanionStyles.Stylesheet.Selector

open Reader

/-- What is written in front of a bar. -/
inductive Namespace where
  /-- Nothing, and no bar either. -/
  | implied
  | absent
  | any
  | named (name : List Char)
  deriving DecidableEq, Repr

/-- A name in a namespace; any name if it is `*`. -/
structure QualifiedName where
  namespace_ : Namespace
  name : Option (List Char)
  deriving Repr

def peekRaw : Reader (Option Node) := do
  let before ← get
  let n ← attempt nextRaw
  set before
  return n

def nameBehindBar (inAttribute : Bool) (front : Namespace) : Reader QualifiedName := do
  let place ← here
  match ← nextRaw with
  | .token _ _ (.ident name) => return ⟨front, some name⟩
  | n =>
    if n.head = .delim '*' ∧ !inAttribute then return ⟨front, none⟩
    else failAt place (if inAttribute then .attributeNamespace n.head else .namespaceToken n.head)

def bar : Reader Bool := do
  match ← peekRaw with
  | some (.token _ _ (.delim '|')) =>
    let _ ← nextRaw
    return true
  | _ => return false

/-- Reads a name that may have a namespace, if one follows at once. -/
def qualifiedName (inAttribute : Bool) : Reader (Option QualifiedName) := do
  match ← peekRaw with
  | some (.token _ _ (.ident name)) =>
    let _ ← nextRaw
    if ← bar then return some (← nameBehindBar inAttribute (.named name))
    else return some ⟨.implied, some name⟩
  | some (.token _ _ (.delim '*')) =>
    let _ ← nextRaw
    if ← bar then return some (← nameBehindBar inAttribute .any)
    else if inAttribute then
      let place ← here
      let n ← nextRaw
      failAt place (.attributeNeedsBar n.head)
    else return some ⟨.implied, none⟩
  | some (.token _ _ (.delim '|')) =>
    let _ ← nextRaw
    return some (← nameBehindBar inAttribute .absent)
  | _ => return none

/-- Reads the type of an element, if one follows at once. A namespace of any kind goes without
saying. What ends too early is no type. -/
def element : Reader Selector := do
  let before ← get
  match (qualifiedName false).run before with
  | .error fault =>
    if fault.cause = .endOfInput then
      set { before with nodes := [] }
      return []
    else throw fault
  | .ok (none, _) => return []
  | .ok (some q, rest) =>
    set rest
    let front : Selector := match q.namespace_ with
      | .implied | .any => []
      | .absent => [.simple ⟨Phrase.ofString "|", .namespace_⟩]
      | .named name => [.simple ⟨Phrase.ofChars (writeName name ++ ['|']), .namespace_⟩]
    return front ++ [.simple (match q.name with
      | some name => ⟨Phrase.ofChars (writeName name), .type⟩
      | none => ⟨Phrase.ofString "*", .universal⟩)]

/-- Reads the operator of a condition on an attribute. -/
def attributeOperator : Reader (List Char) := do
  let place ← here
  let n ← next
  match n.head with
  | .delim '=' => return ['=']
  | .includeMatch | .dashMatch | .prefixMatch | .suffixMatch | .substringMatch =>
    return Value.tokenText n.head
  | t => failAt place (.attributeOperator t)

def attributeFlag : Reader (List Char) := do
  if (← get).nodes.all isGap then
    skipBlanks
    return []
  let flag ← keyword ["i", "s"]
  return ' ' :: flag

def attributeTest : Reader Simple := do
  skipBlanks
  match ← qualifiedName true with
  | some ⟨namespace_, some name⟩ =>
    let front := match namespace_ with
      | .implied | .absent => []
      | .any => "*|".toList
      | .named n => writeName n ++ ['|']
    let start := '[' :: front ++ writeName name
    if (← get).nodes.all isGap then
      skipBlanks
      return .other (Phrase.ofChars (start ++ [']']))
    let operator ← attributeOperator
    let place ← here
    let n ← next
    match n with
    | .token _ _ (.ident value) | .token _ _ (.string value) =>
      return .other (Phrase.ofChars
        (start ++ operator ++ writeString value ++ (← attributeFlag) ++ [']']))
    | n => failAt place (.attributeValue n.head)
  | _ =>
    let place ← here
    let n ← nextRaw
    failAt place (.attributeNeedsName n.head)

end CompanionStyles.Stylesheet.Selector
