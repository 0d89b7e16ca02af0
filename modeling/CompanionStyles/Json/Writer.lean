import CompanionStyles.Text.Hex

/-!
Writing JSON strings.
-/

namespace CompanionStyles.Json

/-- A character as it is written in a string: quotes, backslashes and controls are escaped. -/
def escapedChar (c : Char) : List Char :=
  if c = '"' then ['\\', '"']
  else if c = '\\' then ['\\', '\\']
  else if c = '\x08' then ['\\', 'b']
  else if c = '\x0c' then ['\\', 'f']
  else if c = '\n' then ['\\', 'n']
  else if c = '\r' then ['\\', 'r']
  else if c = '\t' then ['\\', 't']
  else if c.toNat < 0x20 then '\\' :: 'u' :: Text.hexDigits 4 c.toNat
  else [c]

def quote (text : List Char) : List Char :=
  '"' :: text.flatMap escapedChar ++ ['"']

end CompanionStyles.Json
