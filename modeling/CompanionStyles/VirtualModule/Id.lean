import CompanionStyles.Digest.Sha256
import CompanionStyles.Text.Utf8
import CompanionStyles.Text.Words

/-!
Ids of virtual style modules: a prefix, a token that depends on the path and the content, and the path,
with slashes between them. A NUL in front marks an id as resolved. The path is read off the id alone.
-/

namespace CompanionStyles.VirtualModule

def idPrefix : List Char :=
  "virtual:auto-css-modules".toList

def resolvedMark : Char :=
  '\x00'

/-- How many digits of the digest make the token. -/
def tokenLength : Nat :=
  8

/-- What the token is the digest of. -/
def tokenInput (path : List Char) (css : Option (List Char)) : Bytes :=
  match css with
  | some css => Utf8.encode path ++ 0 :: Utf8.encode css
  | none => Utf8.encode path

/-- The token changes with the content. -/
def token (path : List Char) (css : Option (List Char)) : List Char :=
  (Sha256.hex (tokenInput path css)).take tokenLength

/-- The id of the module at a path. -/
def virtualId (path : List Char) (css : Option (List Char)) : List Char :=
  idPrefix ++ '/' :: token path css ++ '/' :: path

/-- An id without the mark of resolved ones. -/
def withoutMark : List Char → List Char
  | [] => []
  | c :: rest => if c = resolvedMark then rest else c :: rest

def isVirtual (id : List Char) : Bool :=
  idPrefix.isPrefixOf (withoutMark id)

/-- Marks a virtual id as resolved; other ids are not claimed. -/
def resolveId (id : List Char) : Option (List Char) :=
  if idPrefix.isPrefixOf id then some (resolvedMark :: id) else none

/-- The path that an id names. -/
def decodeId (id : List Char) : Option (List Char) :=
  match Text.dropFront? (idPrefix ++ ['/']) (withoutMark id) with
  | none => none
  | some rest =>
    match Text.splitFirst? '/' rest with
    | none => none
    | some (token, path) => if token = [] ∨ path = [] then none else some path

end CompanionStyles.VirtualModule
