import CompanionStyles.Decimal.Single
import CompanionStyles.Text.Shown

/-!
The tokens of stylesheets and the places where they stand.
-/

namespace CompanionStyles.Stylesheet

/-- A line and a column, both counted from one; columns count UTF-16 units. -/
structure Place where
  line : Nat
  column : Nat
  deriving DecidableEq, Repr, Inhabited

/-- A number as it is written. -/
structure Numeral where
  /-- The number; a percentage counts as a part of one. -/
  value : Float32
  /-- Whether a sign is written. -/
  signed : Bool
  /-- The number in front of a percent sign or a unit, held within 32 bits, if neither a point nor a
  power of ten is written. -/
  whole? : Option Int
  deriving DecidableEq, Repr

/-- What encloses the contents of a block. -/
inductive Bracket where
  | round
  | square
  | curly
  deriving DecidableEq, Repr

inductive Token where
  | ident (name : List Char)
  | atKeyword (name : List Char)
  /-- A name after `#` that could not stand alone. -/
  | hash (name : List Char)
  | idHash (name : List Char)
  | string (text : List Char)
  | url (text : List Char)
  | delim (c : Char)
  | number (n : Numeral)
  | percentage (n : Numeral)
  | dimension (n : Numeral) (unit : List Char)
  | blank (text : List Char)
  | comment (text : List Char)
  | colon
  | semicolon
  | comma
  | includeMatch
  | dashMatch
  | prefixMatch
  | suffixMatch
  | substringMatch
  | commentOpen
  | commentClose
  | function (name : List Char)
  | opening (bracket : Bracket)
  | closing (bracket : Bracket)
  | badUrl (text : List Char)
  | badString (text : List Char)
  deriving DecidableEq, Repr

/-- The fields of a numeral as they are shown; `field` names the value. -/
def Numeral.shown (field : String) (n : Numeral) : List Char :=
  let whole := match n.whole? with
    | some i => s!"Some({i})"
    | none => "None"
  let value := if n.value.isInf then (if Single.isNegative n.value then "-inf" else "inf").toList
    else (Single.decimal n.value).fractionText 4
  ("has_sign: ".toList ++ (toString n.signed).toList ++ ", ".toList ++ field.toList
    ++ ": ".toList ++ value ++ ", int_value: ".toList ++ whole.toList)

namespace Token

def shownWith (kind : String) (text : List Char) : List Char :=
  kind.toList ++ '(' :: Text.shown text ++ [')']

def shownFields (kind : String) (fields : List Char) : List Char :=
  kind.toList ++ " \x7b ".toList ++ fields ++ " \x7d".toList

def shown : Token → List Char
  | ident name => shownWith "Ident" name
  | atKeyword name => shownWith "AtKeyword" name
  | hash name => shownWith "Hash" name
  | idHash name => shownWith "IDHash" name
  | string text => shownWith "String" text
  | url text => shownWith "UnquotedUrl" text
  | delim c => "Delim(".toList ++ Text.shownAlone c ++ [')']
  | number n => shownFields "Number" (n.shown "value")
  | percentage n => shownFields "Percentage" (n.shown "unit_value")
  | dimension n unit =>
    shownFields "Dimension" (n.shown "value" ++ ", unit: ".toList ++ Text.shown unit)
  | blank text => shownWith "WhiteSpace" text
  | comment text => shownWith "Comment" text
  | colon => "Colon".toList
  | semicolon => "Semicolon".toList
  | comma => "Comma".toList
  | includeMatch => "IncludeMatch".toList
  | dashMatch => "DashMatch".toList
  | prefixMatch => "PrefixMatch".toList
  | suffixMatch => "SuffixMatch".toList
  | substringMatch => "SubstringMatch".toList
  | commentOpen => "CDO".toList
  | commentClose => "CDC".toList
  | function name => shownWith "Function" name
  | opening .round => "ParenthesisBlock".toList
  | opening .square => "SquareBracketBlock".toList
  | opening .curly => "CurlyBracketBlock".toList
  | closing .round => "CloseParenthesis".toList
  | closing .square => "CloseSquareBracket".toList
  | closing .curly => "CloseCurlyBracket".toList
  | badUrl text => shownWith "BadUrl" text
  | badString text => shownWith "BadString" text

def isBad : Token → Bool
  | closing _ | badUrl _ | badString _ => true
  | _ => false

end Token

end CompanionStyles.Stylesheet
