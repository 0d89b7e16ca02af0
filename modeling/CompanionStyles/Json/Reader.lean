import CompanionStyles.Json.Number
import CompanionStyles.Text.Hex
import CompanionStyles.Text.Shown

/-!
Reading JSON texts as values of known types. A record is an object whose unknown members are passed
over, or an array of its fields in order; what it does not give keeps its default.
-/

namespace CompanionStyles.Json

def isBlank (c : Char) : Bool :=
  c = ' ' ∨ c = '\n' ∨ c = '\t' ∨ c = '\r'

def skipBlanks (text : List Char) : List Char :=
  text.dropWhile isBlank

abbrev Found (α : Type) :=
  α × List Char

abbrev Reader (α : Type) :=
  List Char → Except Stop (Found α)

def skipWord : List Char → List Char → Except Stop (List Char)
  | [], text => .ok text
  | _ :: _, [] => .error (stopAt .endOfValue [])
  | c :: word, d :: rest =>
    if c = d then skipWord word rest else .error (stopPast .expectedWord (d :: rest))

/-- The character that a letter behind a backslash stands for. -/
def escaped? (c : Char) : Option Char :=
  if c = '"' ∨ c = '\\' ∨ c = '/' then some c
  else if c = 'b' then some '\x08'
  else if c = 'f' then some '\x0c'
  else if c = 'n' then some '\n'
  else if c = 'r' then some '\r'
  else if c = 't' then some '\t'
  else none

def readUnit : Reader Nat := fun text =>
  if Utf8.size text < 4 then .error (stopAt .endOfString [])
  else
    match (text.take 4).mapM Text.hexValue? with
    | some digits => .ok (digits.foldl (16 * · + ·) 0, text.drop 4)
    | none => .error ⟨.escape, text, 4⟩

/-- Reads an escape behind its backslash. Two units in a row make a character past U+FFFF. -/
def readEscape : Reader Char
  | [] => .error (stopAt .endOfString [])
  | 'u' :: rest => do
    let (high, rest) ← readUnit rest
    if 0xDC00 ≤ high ∧ high ≤ 0xDFFF then .error (stopAt .loneSurrogate rest)
    else if high < 0xD800 ∨ 0xDBFF < high then .ok (Char.ofNat high, rest)
    else
      match rest with
      | [] => .error (stopAt .endOfString [])
      | ['\\'] => .error (stopAt .endOfString [])
      | '\\' :: 'u' :: rest => do
        let (low, rest) ← readUnit rest
        if low < 0xDC00 ∨ 0xDFFF < low then .error (stopAt .loneSurrogate rest)
        else .ok (Char.ofNat ((high - 0xD800) * 0x400 + (low - 0xDC00) + 0x10000), rest)
      | '\\' :: rest => .error (stopPast .endOfEscape rest)
      | rest => .error (stopPast .endOfEscape rest)
  | c :: rest =>
    match escaped? c with
    | some d => .ok (d, rest)
    | none => .error (stopPast .escape (c :: rest))

/-- Reads a string behind its opening quote. Each step takes at least one character. -/
def readStringFrom : Nat → Reader (List Char)
  | 0, rest => .error (stopAt .endOfString rest)
  | _ + 1, [] => .error (stopAt .endOfString [])
  | fuel + 1, c :: rest =>
    if c = '"' then .ok ([], rest)
    else if c = '\\' then do
      let (d, rest) ← readEscape rest
      let (text, rest) ← readStringFrom fuel rest
      return (d :: text, rest)
    else if c.toNat < 0x20 then .error (stopPast .controlCharacter (c :: rest))
    else do
      let (text, rest) ← readStringFrom fuel rest
      return (c :: text, rest)

def readQuoted : Reader (List Char) := fun text =>
  readStringFrom (text.length + 1) text

/-- Passes over a string behind its opening quote; lone surrogates do not matter. -/
def skipStringFrom : Nat → List Char → Except Stop (List Char)
  | 0, rest => .error (stopAt .endOfString rest)
  | _ + 1, [] => .error (stopAt .endOfString [])
  | fuel + 1, c :: rest =>
    if c = '"' then .ok rest
    else if c = '\\' then
      match rest with
      | [] => .error (stopAt .endOfString [])
      | 'u' :: rest => do
        let (_, rest) ← readUnit rest
        skipStringFrom fuel rest
      | d :: rest =>
        match escaped? d with
        | some _ => skipStringFrom fuel rest
        | none => .error (stopPast .escape (d :: rest))
    else if c.toNat < 0x20 then .error (stopAt .controlCharacter (c :: rest))
    else skipStringFrom fuel rest

def skipQuoted (text : List Char) : Except Stop (List Char) :=
  skipStringFrom (text.length + 1) text

mutual

/-- Passes over a value. Each step takes at least one character or ends. -/
def skipValue : Nat → List Char → Except Stop (List Char)
  | 0, rest => .error (stopAt .endOfValue rest)
  | fuel + 1, text =>
    match skipBlanks text with
    | [] => .error (stopPast .endOfValue [])
    | 'n' :: rest => skipWord "ull".toList rest
    | 't' :: rest => skipWord "rue".toList rest
    | 'f' :: rest => skipWord "alse".toList rest
    | '-' :: rest => skipNumber rest
    | '"' :: rest => skipQuoted rest
    | '[' :: rest =>
      match skipBlanks rest with
      | [] => .error (stopPast .endOfList [])
      | ']' :: rest => .ok rest
      | rest => skipElements fuel rest
    | '\x7b' :: rest =>
      match skipBlanks rest with
      | [] => .error (stopPast .endOfObject [])
      | '\x7d' :: rest => .ok rest
      | rest => skipMembers fuel rest
    | c :: rest =>
      if c.isDigit then skipNumber (c :: rest) else .error (stopPast .expectedValue (c :: rest))

/-- Passes over the elements of a list and its bracket. -/
def skipElements : Nat → List Char → Except Stop (List Char)
  | 0, rest => .error (stopAt .endOfList rest)
  | fuel + 1, text => do
    let rest ← skipValue fuel text
    match skipBlanks rest with
    | [] => .error (stopPast .endOfList [])
    | ',' :: rest => skipElements fuel rest
    | ']' :: rest => .ok rest
    | rest => .error (stopPast .expectedListComma rest)

/-- Passes over the members of an object and its bracket. -/
def skipMembers : Nat → List Char → Except Stop (List Char)
  | 0, rest => .error (stopAt .endOfObject rest)
  | fuel + 1, text =>
    match skipBlanks text with
    | [] => .error (stopPast .endOfObject [])
    | '"' :: rest => do
      let rest ← skipQuoted rest
      match skipBlanks rest with
      | [] => .error (stopPast .endOfObject [])
      | ':' :: rest => do
        let rest ← skipValue fuel rest
        match skipBlanks rest with
        | [] => .error (stopPast .endOfObject [])
        | ',' :: rest => skipMembers fuel rest
        | '\x7d' :: rest => .ok rest
        | rest => .error (stopPast .expectedObjectComma rest)
      | rest => .error (stopPast .expectedColon rest)
    | rest => .error (stopPast .keyNotString rest)

end

/-- Why there is no value of an expected type at the front of a text. -/
def wrongType (expected : String) (text : List Char) : Stop :=
  let found (shown : String) (rest : List Char) : Stop := stopAt (.wrongType shown expected) rest
  let behind (word : String) (shown : String) (rest : List Char) : Stop :=
    match skipWord word.toList rest with
    | .ok rest => found shown rest
    | .error stop => stop
  let number (negative : Bool) (text : List Char) : Stop :=
    match readNumber negative text with
    | .ok (n, rest) => found n.shown rest
    | .error stop => stop
  match text with
  | [] => stopPast .endOfValue []
  | 'n' :: rest => behind "ull" "null" rest
  | 't' :: rest => behind "rue" "boolean `true`" rest
  | 'f' :: rest => behind "alse" "boolean `false`" rest
  | '-' :: rest => number true rest
  | '"' :: rest =>
    match readQuoted rest with
    | .ok (text, rest) => found ("string " ++ String.ofList (Text.shown text)) rest
    | .error stop => stop
  | '[' :: rest => found "sequence" ('[' :: rest)
  | '\x7b' :: rest => found "map" ('\x7b' :: rest)
  | c :: rest =>
    if c.isDigit then number false (c :: rest) else stopPast .expectedValue (c :: rest)

def readBool : Reader Bool := fun text =>
  match skipBlanks text with
  | 't' :: rest => (skipWord "rue".toList rest).map (true, ·)
  | 'f' :: rest => (skipWord "alse".toList rest).map (false, ·)
  | rest => .error (wrongType "a boolean" rest)

def readString : Reader (List Char) := fun text =>
  match skipBlanks text with
  | '"' :: rest => readQuoted rest
  | rest => .error (wrongType "a string" rest)

def readOption {α : Type} (read : Reader α) : Reader (Option α) := fun text =>
  match skipBlanks text with
  | 'n' :: rest => (skipWord "ull".toList rest).map (none, ·)
  | rest => do
    let (value, rest) ← read rest
    return (some value, rest)

/-- Goes on to the next element of a list: whether there is one, and the rest. -/
def nextElement (first : Bool) : Reader Bool := fun text =>
  match skipBlanks text with
  | [] => .error (stopPast .endOfList [])
  | ']' :: rest => .ok (false, ']' :: rest)
  | c :: rest =>
    if first then .ok (true, c :: rest)
    else if c = ',' then
      match skipBlanks rest with
      | [] => .error (stopPast .endOfValue [])
      | ']' :: rest => .error (stopPast .trailingComma (']' :: rest))
      | rest => .ok (true, rest)
    else .error (stopPast .expectedListComma (c :: rest))

def endList (text : List Char) : Except Stop (List Char) :=
  match skipBlanks text with
  | [] => .error (stopPast .endOfList [])
  | ']' :: rest => .ok rest
  | ',' :: rest =>
    match skipBlanks rest with
    | ']' :: rest => .error (stopPast .trailingComma (']' :: rest))
    | rest => .error (stopPast .trailingCharacters rest)
  | rest => .error (stopPast .trailingCharacters rest)

/-- Reads the elements of a list up to its bracket. Each step takes at least one character. -/
def readElements {α : Type} (read : Reader α) : Nat → Bool → Reader (List α)
  | 0, _, rest => .error (stopAt .endOfList rest)
  | fuel + 1, first, text => do
    let (more, rest) ← nextElement first text
    if more then
      let (value, rest) ← read rest
      let (values, rest) ← readElements read fuel false rest
      return (value :: values, rest)
    else return ([], rest)

def readList {α : Type} (read : Reader α) : Reader (List α) := fun text =>
  match skipBlanks text with
  | '[' :: rest => do
    let (values, rest) ← readElements read (rest.length + 1) true rest
    let rest ← endList rest
    return (values, rest)
  | rest => .error (wrongType "a sequence" rest)

/-- A field of a record: its name, and how a value for it is read into the record. -/
structure RecordField (α : Type) where
  name : String
  read : α → Reader α

/-- The name of the next member of an object, and the rest behind it; none at the bracket. -/
def nextKey (first : Bool) : Reader (Option (List Char)) := fun text =>
  let key : Reader (Option (List Char)) := fun text => do
    let (name, rest) ← readQuoted text
    return (some name, rest)
  match skipBlanks text with
  | [] => .error (stopPast .endOfObject [])
  | '\x7d' :: rest => .ok (none, '\x7d' :: rest)
  | c :: rest =>
    if first then
      if c = '"' then key rest else .error (stopPast .keyNotString (c :: rest))
    else if c = ',' then
      match skipBlanks rest with
      | [] => .error (stopPast .endOfValue [])
      | '"' :: rest => key rest
      | '\x7d' :: rest => .error (stopPast .trailingComma ('\x7d' :: rest))
      | rest => .error (stopPast .keyNotString rest)
    else .error (stopPast .expectedObjectComma (c :: rest))

def skipColon (text : List Char) : Except Stop (List Char) :=
  match skipBlanks text with
  | [] => .error (stopPast .endOfObject [])
  | ':' :: rest => .ok rest
  | rest => .error (stopPast .expectedColon rest)

/-- Where the reading of an object stops that is given up: behind its bracket, if it is the next. -/
def givenUp (text : List Char) : List Char :=
  match skipBlanks text with
  | '\x7d' :: rest => rest
  | rest => rest

/-- Reads the members of an object into a record, up to the bracket. `seen` are the names of the
fields given already. -/
def readMembers {α : Type} (fields : List (RecordField α)) :
    Nat → Bool → List String → α → Reader α
  | 0, _, _, _, rest => .error (stopAt .endOfObject rest)
  | fuel + 1, first, seen, record, text => do
    let (key, rest) ← nextKey first text
    match key with
    | none => return (record, rest)
    | some key =>
      match fields.find? fun f => f.name.toList = key with
      | some field =>
        if field.name ∈ seen then .error (stopAt (.duplicateField field.name) (givenUp rest))
        else
          let rest ← skipColon rest
          let (record, rest) ← field.read record rest
          readMembers fields fuel false (field.name :: seen) record rest
      | none =>
        let rest ← skipColon rest
        let rest ← skipValue (2 * rest.length + 2) rest
        readMembers fields fuel false seen record rest

/-- Reads the elements of a list into the fields of a record, in order. -/
def readFields {α : Type} : List (RecordField α) → Bool → α → Reader α
  | [], _, record, text => .ok (record, text)
  | field :: fields, first, record, text => do
    let (more, rest) ← nextElement first text
    if more then
      let (record, rest) ← field.read record rest
      readFields fields false record rest
    else return (record, rest)

def endObject (text : List Char) : Except Stop (List Char) :=
  match skipBlanks text with
  | [] => .error (stopPast .endOfObject [])
  | '\x7d' :: rest => .ok rest
  | ',' :: rest => .error (stopPast .trailingComma (',' :: rest))
  | rest => .error (stopPast .trailingCharacters rest)

def readRecord {α : Type} (expected : String) (fields : List (RecordField α)) (default : α) :
    Reader α := fun text =>
  match skipBlanks text with
  | '[' :: rest => do
    let (record, rest) ← readFields fields true default rest
    let rest ← endList rest
    return (record, rest)
  | '\x7b' :: rest => do
    let (record, rest) ← readMembers fields (rest.length + 1) true [] default rest
    let rest ← endObject rest
    return (record, rest)
  | rest => .error (wrongType expected rest)

def parse {α : Type} (read : Reader α) (text : List Char) : Except Fault α :=
  let result : Except Stop α := do
    let (value, rest) ← read text
    match skipBlanks rest with
    | [] => return value
    | rest => .error (stopPast .trailingCharacters rest)
  result.mapError (Stop.fault text)

end CompanionStyles.Json
