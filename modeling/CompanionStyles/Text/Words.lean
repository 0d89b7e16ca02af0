/-!
Words: the longest runs of a text without blanks. A blank is a character with the Unicode property
`White_Space`.
-/

namespace CompanionStyles.Text

def isBlank (c : Char) : Bool :=
  let n := c.toNat
  (0x09 ≤ n && n ≤ 0x0D) || n == 0x20 || n == 0x85 || n == 0xA0 || n == 0x1680
    || (0x2000 ≤ n && n ≤ 0x200A) || n == 0x2028 || n == 0x2029 || n == 0x202F || n == 0x205F
    || n == 0x3000

/-- The words of a text; `word` holds, backwards, the one being read. -/
def wordsFrom (word : List Char) : List Char → List (List Char)
  | [] => if word = [] then [] else [word.reverse]
  | c :: rest =>
    if isBlank c then
      if word = [] then wordsFrom [] rest else word.reverse :: wordsFrom [] rest
    else wordsFrom (c :: word) rest

def words (text : List Char) : List (List Char) :=
  wordsFrom [] text

/-- The parts of a text between the places where `c` stands; never none. -/
def splitOn (c : Char) : List Char → List (List Char)
  | [] => [[]]
  | d :: rest =>
    if d = c then [] :: splitOn c rest
    else
      match splitOn c rest with
      | [] => [[d]]
      | first :: others => (d :: first) :: others

def splitFirst? (c : Char) : List Char → Option (List Char × List Char)
  | [] => none
  | d :: rest =>
    if d = c then some ([], rest)
    else (splitFirst? c rest).map fun (before, after) => (d :: before, after)

/-- What follows `front` in a text that starts with it. -/
def dropFront? : List Char → List Char → Option (List Char)
  | [], text => some text
  | _ :: _, [] => none
  | a :: front, b :: text => if a = b then dropFront? front text else none

/-- What precedes `back` in a text that ends with it. -/
def dropBack? (back text : List Char) : Option (List Char) :=
  (dropFront? back.reverse text.reverse).map List.reverse

/-- Replaces every occurrence of `old`, from the left and without overlap; an empty `old` occurs
before each character and at the end. -/
def replaceAll (old new : List Char) (text : List Char) : List Char :=
  match old with
  | [] => new ++ text.flatMap (· :: new)
  | o :: old' => go (o :: old') (text.length + 1) text
where
  /-- Each step takes at least one character. -/
  go (old : List Char) : Nat → List Char → List Char
    | 0, text => text
    | fuel + 1, text =>
      match dropFront? old text with
      | some rest => new ++ go old fuel rest
      | none =>
        match text with
        | [] => []
        | c :: rest => c :: go old fuel rest

end CompanionStyles.Text
