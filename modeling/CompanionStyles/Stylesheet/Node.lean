import CompanionStyles.Stylesheet.Scanner

/-!
Nodes: tokens, with what brackets and functions enclose put into one node. A closing bracket that
closes nothing stays a token.
-/

namespace CompanionStyles.Stylesheet

/-- The text of a node is kept beside what it means. -/
inductive Node where
  | token (place : Place) (raw : List Char) (token : Token)
  /-- A bracket or function, what it encloses, and the place where that ends. -/
  | block (place : Place) (raw : List Char) (opening : Token) (inner : List Node) (last : Place)
  deriving Repr

namespace Node

def place : Node → Place
  | token place _ _ => place
  | block place _ _ _ _ => place

def raw : Node → List Char
  | token _ raw _ => raw
  | block _ raw _ _ _ => raw

def head : Node → Token
  | token _ _ t => t
  | block _ _ opening _ _ => opening

def closes? : Token → Option Bracket
  | .opening b => some b
  | .function _ => some .round
  | _ => none

/-- What a bracket encloses, or what a stylesheet consists of. -/
structure Nested where
  nodes : List Node
  /-- The place where the nodes end, and the text that ends them. -/
  last : Place
  closing : List Char
  /-- What follows. -/
  rest : List Scanner.Lexeme

def Nested.raw (n : Nested) : List Char :=
  n.nodes.flatMap Node.raw ++ n.closing

/-- The nodes up to the bracket that closes them, or up to the end of the text. Each step takes a
lexeme. -/
def nest (last : Place) : Nat → Option Bracket → List Scanner.Lexeme → Nested
  | 0, _, lexemes => ⟨[], last, [], lexemes⟩
  | _ + 1, _, [] => ⟨[], last, [], []⟩
  | fuel + 1, awaited, l :: lexemes =>
    if (awaited.map Token.closing) = some l.token then ⟨[], l.place, l.raw, lexemes⟩
    else
      match closes? l.token with
      | none =>
        let more := nest last fuel awaited lexemes
        { more with nodes := token l.place l.raw l.token :: more.nodes }
      | some b =>
        let inner := nest last fuel (some b) lexemes
        let more := nest last fuel awaited inner.rest
        { more with
          nodes := block l.place (l.raw ++ inner.raw) l.token inner.nodes inner.last :: more.nodes }

/-- The nodes of a stylesheet and the place where it ends. -/
def ofText (text : List Char) : List Node × Place :=
  let (lexemes, last) := Scanner.lexemes text.length ⟨1, 1⟩ text
  ((nest last (lexemes.length + 1) none lexemes).nodes, last)

end Node

end CompanionStyles.Stylesheet
