import CompanionStyles.Text.Hex
import CompanionStyles.Text.Printable
import CompanionStyles.Text.Utf8

/-!
How texts are shown inside messages: between quotes, with the ends of lines, quotes and characters
that cannot be seen escaped.
-/

namespace CompanionStyles.Text

/-- A character as it is shown, where `isQuote` tells the quotes to escape. -/
def shownChar (isQuote : Char → Bool) (c : Char) : List Char :=
  if c = '\x00' then "\\0".toList
  else if c = '\t' then "\\t".toList
  else if c = '\n' then "\\n".toList
  else if c = '\r' then "\\r".toList
  else if c = '\\' ∨ isQuote c = true then ['\\', c]
  else if isPrintable c && !isGraphemeExtender c then [c]
  else "\\u\x7b".toList ++ hex c.toNat ++ ['\x7d']

def shown (text : List Char) : List Char :=
  '"' :: text.flatMap (shownChar (· == '"')) ++ ['"']

def shownAlone (c : Char) : List Char :=
  '\'' :: shownChar (· == '\'') c ++ ['\'']

def shownByte (b : UInt8) : List Char :=
  '\\' :: 'x' :: (hexDigits 2 b.toNat).map Char.toUpper

/-- A character or an invalid run; quotes of both kinds are escaped. -/
def shownRun : Except Bytes Char → List Char
  | .ok c => shownChar (fun d => d == '"' || d == '\'') c
  | .error run => run.flatMap shownByte

def shownBytes (bytes : Bytes) : List Char :=
  '"' :: (Utf8.runs bytes).flatMap shownRun ++ ['"']

end CompanionStyles.Text
