/-!
UTF-16 code units: a character outside the basic plane counts twice. Columns are counted in them.
-/

namespace CompanionStyles.Text

def unitsOf (c : Char) : Nat :=
  if c.toNat < 0x10000 then 1 else 2

end CompanionStyles.Text
