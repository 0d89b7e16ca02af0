import CompanionStyles.Stylesheet.Fault
import CompanionStyles.Stylesheet.Node

/-!
Readers of nodes. A reader that fails changes nothing, so that `a <|> b` reads `b` where `a` would
have. Blanks and comments are passed over unless said otherwise; a fault about a token lies where
the blanks in front of it start.
-/

namespace CompanionStyles.Stylesheet

/-- The nodes that are left, and the place behind them. -/
structure Cursor where
  nodes : List Node
  stop : Place

abbrev Reader := StateT Cursor (Except Fault)

namespace Reader

variable {α β : Type}

def here : Reader Place := do
  let c ← get
  return match c.nodes with
    | [] => c.stop
    | n :: _ => n.place

def failAt (place : Place) (cause : Cause) : Reader α :=
  throw ⟨some place, cause⟩

def fail (cause : Cause) : Reader α := do
  failAt (← here) cause

def nextRaw : Reader Node := do
  let c ← get
  match c.nodes.dropWhile fun n => match n.head with
      | .comment _ => true
      | _ => false with
  | [] =>
    set { c with nodes := [] }
    failAt c.stop .endOfInput
  | n :: rest =>
    set { c with nodes := rest }
    return n

def isGap (n : Node) : Bool :=
  match n.head with
  | .blank _ | .comment _ => true
  | _ => false

def skipBlanks : Reader Unit :=
  modify fun c => { c with nodes := c.nodes.dropWhile isGap }

def next : Reader Node := do
  skipBlanks
  nextRaw

/-- The place behind the token that a node starts with, if the node has just been read. -/
def behind (n : Node) : Reader Place := do
  match n with
  | .token .. => here
  | .block _ _ _ inner last =>
    return match inner with
      | [] => last
      | first :: _ => first.place

/-- The next node that is no blank, which is not passed over. -/
def peek : Reader (Option Node) := do
  return (← get).nodes.find? fun n => !isGap n

def attempt (read : Reader α) : Reader (Option α) :=
  (some <$> read) <|> pure none

def found (read : Reader α) : Reader Bool := do
  return (← attempt read).isSome

def orDefault (default : α) (read : Reader α) : Reader α := do
  return (← attempt read).getD default

/-- Reads a node that `accept` takes; another one is unexpected. -/
def expect (accept : Node → Option α) : Reader α := do
  let place ← here
  let n ← next
  match accept n with
  | some a => return a
  | none => failAt place (.unexpected n.head)

def ident : Reader (List Char) :=
  expect fun
    | .token _ _ (.ident name) => some name
    | _ => none

/-- Whether two words are the same but for the case of their letters. -/
def isWord (name : List Char) (word : String) : Bool :=
  Scanner.sameWord name word

def lower (name : List Char) : List Char :=
  name.map Char.toLower

def keyword (words : List String) : Reader (List Char) :=
  expect fun
    | .token _ _ (.ident name) =>
      if words.any (isWord name ·) then some (lower name) else none
    | _ => none

def word (w : String) : Reader Unit := do
  let _ ← keyword [w]

def expectToken (t : Token) : Reader Unit :=
  expect fun n => if n.head = t then some () else none

def delim (c : Char) : Reader Unit :=
  expectToken (.delim c)

def comma : Reader Unit :=
  expectToken .comma

def string : Reader (List Char) :=
  expect fun
    | .token _ _ (.string text) => some text
    | _ => none

/-- Reads to the end of the nodes; what is left there is unexpected. -/
def whole (read : Reader α) : Reader α := do
  let a ← read
  let place ← here
  match ← attempt next with
  | none => return a
  | some n => failAt place (.unexpected n.head)

def inside (inner : List Node) (last : Place) (read : Reader α) : Reader α :=
  match (whole read).run ⟨inner, last⟩ with
  | .ok (a, _) => pure a
  | .error fault => throw fault

def block (bracket : Bracket) (read : Reader α) : Reader α := do
  let (inner, last) ← expect fun
    | .block _ _ (.opening b) inner last => if b = bracket then some (inner, last) else none
    | _ => none
  inside inner last read

/-- Reads a call of one of some functions; the reader is given the function's name. -/
def call (names : List String) (read : List Char → Reader α) : Reader α := do
  let (name, inner, last) ← expect fun
    | .block _ _ (.function name) inner last =>
      if names.any (isWord name ·) then some (lower name, inner, last) else none
    | _ => none
  inside inner last (read name)

/-- The nodes in front of the first one that starts with a token to stop at, the place behind them,
and the rest. -/
def divide (stops : Token → Bool) (c : Cursor) : List Node × Place × List Node :=
  let front := c.nodes.takeWhile fun n => !stops n.head
  let rest := c.nodes.drop front.length
  let place := match rest with
    | [] => c.stop
    | n :: _ => n.place
  (front, place, rest)

/-- Runs a reader on all that stands in front of a token to stop at, and goes on there. -/
def until? (stops : Token → Bool) (read : Reader α) : Reader (Except Fault α) := do
  let c ← get
  let (front, place, rest) := divide stops c
  set { c with nodes := rest }
  match (whole read).run ⟨front, place⟩ with
  | .ok (a, _) => return .ok a
  | .error fault => return .error fault

def until_ (stops : Token → Bool) (read : Reader α) : Reader α := do
  ofExcept (← until? stops read)

/-- How many nodes are left: no list read from them is longer. -/
def size : Reader Nat := do
  return (← get).nodes.length

/-- Reads as often as the reader succeeds, at most `fuel` times. -/
def manyUpTo (read : Reader α) : Nat → Reader (List α)
  | 0 => pure []
  | fuel + 1 => do
    match ← attempt read with
    | none => return []
    | some a => return a :: (← manyUpTo read fuel)

def many (read : Reader α) : Reader (List α) := do
  manyUpTo read (← size)

def many1 (read : Reader α) : Reader (List α) := do
  let a ← read
  return a :: (← many read)

def commaSeparatedUpTo (read : Reader α) : Nat → Reader (List α)
  | 0 => pure []
  | fuel + 1 => do
    skipBlanks
    let a ← until_ (· == .comma) read
    if ← found comma then return a :: (← commaSeparatedUpTo read fuel)
    else return [a]

/-- Reads items with commas between them, to the end. -/
def commaSeparated (read : Reader α) : Reader (List α) := do
  commaSeparatedUpTo read ((← size) + 1)

def runOn (nodes : List Node) (stop : Place) (read : Reader α) : Except Fault α :=
  (whole read).run' ⟨nodes, stop⟩

end Reader

end CompanionStyles.Stylesheet
