import CompanionStyles.Text.Utf8
import CompanionStyles.Text.Words

/-!
Globs: patterns of file names. `?` stands for a byte, `*` for any number of them, neither for a
separator; brackets choose among bytes, curly brackets among patterns, and a backslash takes what
follows it literally. `Glob.parse` reads a pattern, `Token.rests` says what it can leave of a name.
-/

namespace CompanionStyles.Glob

def separator : UInt8 :=
  0x2F

inductive Token where
  | literal (bytes : Bytes)
  | any
  | star
  /-- `**` in front of a separator or alone. -/
  | leadingStars
  /-- `**` behind a separator, at the end. -/
  | trailingStars
  /-- `**` between separators. -/
  | innerStars
  | oneOf (negated : Bool) (ranges : List (UInt8 × UInt8))
  | alternates (branches : List (List Token))
  deriving Repr

/-- What is wrong with a pattern. -/
inductive Cause where
  | unclosedClass
  | invalidRange (first last : Char)
  | unopenedAlternates
  | unclosedAlternates
  | danglingEscape
  deriving DecidableEq, Repr

def Cause.message : Cause → String
  | unclosedClass => "unclosed character class; missing ']'"
  | invalidRange first last =>
    "invalid range; '" ++ first.toString ++ "' > '" ++ last.toString ++ "'"
  | unopenedAlternates =>
    "unopened alternate group; missing '\x7b' (maybe escape '\x7d' with '[\x7d]'?)"
  | unclosedAlternates =>
    "unclosed alternate group; missing '\x7d' (maybe escape '\x7b' with '[\x7b]'?)"
  | danglingEscape => "dangling '\\'"

def Token.ofChar (c : Char) : Token :=
  .literal (Utf8.encodeChar c)

/-- The ranges of bytes that a range of characters stands for: those of a longer character count each
for themselves, but for the two in the middle. -/
def byteRanges (first last : Char) : List (UInt8 × UInt8) :=
  let same (b : UInt8) := (b, b)
  if first = last then (Utf8.encodeChar first).map same
  else
    let a := Utf8.encodeChar first
    let b := Utf8.encodeChar last
    a.dropLast.map same ++ [(a.getLastD 0, b.headD 0)] ++ b.tail.map same

/-- The ranges of a class up to its bracket, the last one first, and the rest. `inRange` tells whether
a range is waiting for its end. -/
def classRanges : List (Char × Char) → Bool → Bool → List Char →
    Except Cause (List (Char × Char) × List Char)
  | _, _, _, [] => .error .unclosedClass
  | ranges, atStart, inRange, c :: rest =>
    if c = ']' ∧ !atStart then
      .ok (if inRange then ('-', '-') :: ranges else ranges, rest)
    else if c = '-' ∧ !atStart ∧ !inRange then classRanges ranges false true rest
    else if inRange then
      match ranges with
      | (first, _) :: others =>
        if c < first then .error (.invalidRange first c)
        else classRanges ((first, c) :: others) false false rest
      | [] => classRanges [(c, c)] false false rest
    else classRanges ((c, c) :: ranges) false false rest

def parseClass (text : List Char) : Except Cause (Token × List Char) := do
  let (negated, text) := match text with
    | '!' :: rest => (true, rest)
    | '^' :: rest => (true, rest)
    | rest => (false, rest)
  let (ranges, rest) ← classRanges [] true false text
  return (.oneOf negated (ranges.reverse.flatMap fun (a, b) => byteRanges a b), rest)

/-- Reads two stars. `before` are the tokens of the branch so far, the last one first, `previous` the
character in front of the stars, `depth` the number of open groups. -/
def parseStars (depth : Nat) (previous : Option Char) (before : List Token) (text : List Char) :
    List Token × Option Char × List Char :=
  let plain := (.star :: .star :: before, some '*', text)
  match before, text with
  | [], [] => ([.leadingStars], some '*', [])
  | [], '/' :: rest => ([.leadingStars], some '/', rest)
  | [], _ => plain
  | last :: others, text =>
    let begins := depth > 0 && (previous == some ',' || previous == some '\x7b')
    if previous != some '/' && !begins then plain
    else
      let closing (rest : List Char) (p : Option Char) (t : Token) :=
        match last with
        | .leadingStars => (.leadingStars :: others, p, rest)
        | .trailingStars => (.trailingStars :: others, p, rest)
        | _ => (t :: others, p, rest)
      match text with
      | [] => closing [] (some '*') .trailingStars
      | '/' :: rest => closing rest (some '/') .innerStars
      | c :: _ =>
        if depth > 0 ∧ (c = ',' ∨ c = '\x7d') then closing text (some '*') .trailingStars
        else plain

/-- Why a branch of a pattern ends. -/
inductive Ending where
  | text
  | comma
  | bracket
  deriving DecidableEq

mutual

/-- Reads a branch of a pattern. Each step takes at least one character. -/
def parseBranch : Nat → Nat → Option Char → List Token → List Char →
    Except Cause (List Token × Ending × List Char)
  | 0, _, _, before, text => .ok (before.reverse, .text, text)
  | _ + 1, _, _, before, [] => .ok (before.reverse, .text, [])
  | fuel + 1, depth, previous, before, c :: rest =>
    match c with
    | '?' => parseBranch fuel depth (some c) (.any :: before) rest
    | '*' =>
      match rest with
      | '*' :: rest =>
        let (tokens, previous, rest) := parseStars depth previous before rest
        parseBranch fuel depth previous tokens rest
      | rest => parseBranch fuel depth (some c) (.star :: before) rest
    | '[' => do
      let (token, rest) ← parseClass rest
      parseBranch fuel depth (some ']') (token :: before) rest
    | '\x7b' => do
      let (branches, rest) ← parseBranches fuel (depth + 1) '\x7b' rest
      parseBranch fuel depth (some '\x7d') (.alternates branches :: before) rest
    | '\x7d' =>
      if depth = 0 then .error .unopenedAlternates else .ok (before.reverse, .bracket, rest)
    | ',' =>
      if depth = 0 then parseBranch fuel depth (some c) (.ofChar ',' :: before) rest
      else .ok (before.reverse, .comma, rest)
    | '\\' =>
      match rest with
      | [] => .error .danglingEscape
      | d :: rest => parseBranch fuel depth (some d) (.ofChar d :: before) rest
    | c => parseBranch fuel depth (some c) (.ofChar c :: before) rest

/-- Reads the branches of a group behind its opening bracket or a comma. -/
def parseBranches : Nat → Nat → Char → List Char → Except Cause (List (List Token) × List Char)
  | 0, _, _, _ => .error .unclosedAlternates
  | fuel + 1, depth, previous, text => do
    let (tokens, ending, rest) ← parseBranch fuel depth (some previous) [] text
    match ending with
    | .text => .error .unclosedAlternates
    | .bracket => return ([tokens], rest)
    | .comma =>
      let (branches, rest) ← parseBranches fuel depth ',' rest
      return (tokens :: branches, rest)

end

def parse (pattern : List Char) : Except Cause (List Token) := do
  let (tokens, _, _) ← parseBranch (2 * pattern.length + 2) 0 none [] pattern
  return tokens

/-- What is left of a name behind each of its separators. -/
def behindSeparators : Bytes → List Bytes
  | [] => []
  | b :: rest => if b = separator then rest :: behindSeparators rest else behindSeparators rest

/-- What is left behind a run of bytes that are no separators. -/
def behindRun : Bytes → List Bytes
  | [] => [[]]
  | b :: rest => if b = separator then [b :: rest] else (b :: rest) :: behindRun rest

/-- What is left behind the first byte, if it is taken. -/
def behindByte (takes : UInt8 → Bool) : Bytes → List Bytes
  | [] => []
  | b :: rest => if takes b then [rest] else []

def behindBytes : Bytes → Bytes → List Bytes
  | [], text => [text]
  | _ :: _, [] => []
  | a :: bytes, b :: text => if a = b then behindBytes bytes text else []

def suffixes : Bytes → List Bytes
  | [] => [[]]
  | b :: rest => (b :: rest) :: suffixes rest

def inRanges (ranges : List (UInt8 × UInt8)) (b : UInt8) : Bool :=
  ranges.any fun (first, last) => first ≤ b && b ≤ last

mutual

/-- What can be left of a text behind what a token stands for. -/
def Token.rests : Token → Bytes → List Bytes
  | .literal bytes, text => behindBytes bytes text
  | .any, text => behindByte (· != separator) text
  | .star, text => behindRun text
  | .leadingStars, text => text :: behindSeparators text
  | .trailingStars, text =>
    match text with
    | b :: rest => if b = separator then suffixes rest else []
    | [] => []
  | .innerStars, text =>
    match text with
    | b :: rest => if b = separator then rest :: behindSeparators rest else []
    | [] => []
  | .oneOf negated ranges, text => behindByte (fun b => inRanges ranges b != negated) text
  | .alternates branches, text =>
    if branchesEmpty branches then [text] else branchRests branches text

/-- What can be left of one of some texts behind tokens in turn. -/
def restsOfAll : List Token → List Bytes → List Bytes
  | [], texts => texts
  | t :: ts, texts => restsOfAll ts (texts.flatMap fun text => t.rests text).eraseDups

/-- What can be left behind one of some branches; empty ones do not count. -/
def branchRests : List (List Token) → Bytes → List Bytes
  | [], _ => []
  | ts :: branches, text =>
    (if tokensEmpty ts then [] else restsOfAll ts [text]) ++ branchRests branches text

def branchesEmpty : List (List Token) → Bool
  | [] => true
  | ts :: branches => tokensEmpty ts && branchesEmpty branches

/-- Whether nothing is written for some tokens: none of them, or groups of empty branches only. -/
def tokensEmpty : List Token → Bool
  | [] => true
  | t :: ts => t.isNothing && tokensEmpty ts

def Token.isNothing : Token → Bool
  | .alternates branches => branchesEmpty branches
  | .literal _ | .any | .star | .leadingStars | .trailingStars | .innerStars | .oneOf _ _ => false

end

/-- Whether tokens stand for a whole name. Two stars alone stand for every name. -/
def isMatch (tokens : List Token) (name : Bytes) : Bool :=
  match tokens with
  | [.leadingStars] => true
  | tokens => (restsOfAll tokens [name]).any List.isEmpty

/-- A text in which nothing but the backslash has a meaning of its own any more. -/
def escape (text : List Char) : List Char :=
  text.flatMap fun c =>
    if c = '?' ∨ c = '*' ∨ c = '[' ∨ c = ']' ∨ c = '\x7b' ∨ c = '\x7d' then ['[', c, ']'] else [c]

end CompanionStyles.Glob
