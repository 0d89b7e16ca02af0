import CompanionStyles.Text.Words

/-!
Module ids: a path, and behind a question mark a query.
-/

namespace CompanionStyles

/-- The part of a module id before its query. -/
def modulePath (id : List Char) : List Char :=
  match Text.splitFirst? '?' id with
  | some (path, _) => path
  | none => id

end CompanionStyles
