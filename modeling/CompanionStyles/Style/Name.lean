import CompanionStyles.Path.Basic

/-!
Names of style files: the language that an extension tells, and the mark `.module` behind a name, which
makes a file a module and is left out of the path it is served under.
-/

namespace CompanionStyles.Style

/-- The languages of style files; all but the first need a preprocessor to become CSS. -/
inductive Dialect where
  | css
  | scss
  | less
  deriving DecidableEq, Repr

def asciiLower (b : UInt8) : UInt8 :=
  if 0x41 ≤ b ∧ b ≤ 0x5A then b + 0x20 else b

/-- The dialect of a style file; extensions in any case count, unknown ones are plain CSS. -/
def Dialect.ofPath (p : Path) : Dialect :=
  let lower := p.extension.map (·.map asciiLower)
  let isOne (name : String) : Bool := lower = some (Utf8.encode name.toList)
  if isOne "scss" || isOne "sass" then .scss else if isOne "less" then .less else .css

/-- The mark of modules. -/
def moduleSuffix : Bytes :=
  Utf8.encode ".module".toList

/-- What stands in front of the mark in the stem of a file name that is text. -/
def moduleStem? (p : Path) : Option Bytes :=
  p.fileStem.bind fun stem =>
    if (Utf8.decode? stem).isSome ∧ moduleSuffix.isSuffixOf stem then
      some (stem.take (stem.length - moduleSuffix.length))
    else none

def hasModuleSuffix (p : Path) : Bool :=
  (moduleStem? p).isSome

/-- The path without the mark of a module. An extension that is no text is left out with it. -/
def normalizedPath (p : Path) : Path :=
  match moduleStem? p, p.parent with
  | some stem, some parent =>
    match p.extension with
    | some extension =>
      if (Utf8.decode? extension).isSome then parent.join ⟨stem ++ Path.dot :: extension⟩
      else parent.join ⟨stem⟩
    | none => parent.join ⟨stem⟩
  | _, _ => p

/-- A style file that a component can be bound to. -/
structure Candidate where
  path : Path
  isModule : Bool
  deriving DecidableEq, Repr

/-- A candidate is a module by its name, or because every one is. -/
def Candidate.classify (path : Path) (alwaysModule : Bool) : Candidate :=
  ⟨path, alwaysModule || hasModuleSuffix path⟩

end CompanionStyles.Style
