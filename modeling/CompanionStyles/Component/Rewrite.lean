import CompanionStyles.Component.Dialect
import CompanionStyles.Component.Sites
import CompanionStyles.Patch.Basic

/-!
Rewriting a component: the import of its style in front, and every class site renamed by the
manifest. All other text stays as it is.
-/

namespace CompanionStyles.Component

/-- The line that imports a style for its effect. -/
def importLine (id : List Char) : List Char :=
  "import ".toList ++ Text.quote id ++ [';', '\n']

/-- The edit of a site, if its text changes. -/
def Site.edit? (site : Site) (m : Manifest) : Option Edit :=
  (site.replacement? m).map fun text => ⟨site.start, site.stop, text⟩

/-- The edits of a component's class sites; none if the source is not well formed. -/
def classEdits? (source id : List Char) (m : Manifest) : Option (List Edit) :=
  (parse? (Dialect.ofId id) source).map fun tree => (tree.classSites 0).filterMap (·.edit? m)

/-- What rewriting gives: a patched text, or that the source is not well formed, with the messages of
either. The patch is none if an edit splits a character. -/
structure Rewriting where
  output : Option (Option PatchOutput)
  log : List LogLine
  deriving DecidableEq, Repr

/-- The patch that brings the import in front, unless the source starts with it. -/
def importPatch (source styleId : List Char) : Patch :=
  if (importLine styleId).isPrefixOf source then .of source
  else (Patch.of source).prepend (importLine styleId)

/-- The message after the class sites have been found. -/
def rewritesLine (id : List Char) (count : Nat) : LogLine :=
  ⟨.debug, s!"{String.ofList id}: {count} class rewrites"⟩

/-- Rewrites the component with the given module id. With an empty manifest nothing is renamed and the
source need not be well formed. -/
def rewrite (source id : List Char) (m : Manifest) (styleId : List Char) : Rewriting :=
  let patch := importPatch source styleId
  let name := String.ofList id
  if m.isEmpty then ⟨some (patch.finish? name), patch.log name⟩
  else
    match classEdits? source id m with
    | none => ⟨none, []⟩
    | some edits =>
      let patch := edits.foldl Patch.overwrite patch
      ⟨some (patch.finish? name), rewritesLine id patch.edits.length :: patch.log name⟩

end CompanionStyles.Component
