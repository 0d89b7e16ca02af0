import CompanionStyles.Component.Dialect
import CompanionStyles.Component.Exports
import CompanionStyles.Component.Grammar.Bindings
import CompanionStyles.Component.Grammar.Classes
import CompanionStyles.Component.Grammar.Declarations
import CompanionStyles.Component.Grammar.Expressions
import CompanionStyles.Component.Grammar.Goal
import CompanionStyles.Component.Grammar.Markup
import CompanionStyles.Component.Grammar.Modules
import CompanionStyles.Component.Grammar.Names
import CompanionStyles.Component.Grammar.Statements
import CompanionStyles.Component.Grammar.Targets
import CompanionStyles.Component.Grammar.Types
import CompanionStyles.Component.Leaf
import CompanionStyles.Component.Parser
import CompanionStyles.Component.Reader
import CompanionStyles.Component.Rewrite
import CompanionStyles.Component.Sites
import CompanionStyles.Component.Syntax
import CompanionStyles.Decimal.Basic
import CompanionStyles.Decimal.Binary
import CompanionStyles.Decimal.Single
import CompanionStyles.Digest.Base64
import CompanionStyles.Digest.Sha256
import CompanionStyles.Digest.SipHash
import CompanionStyles.Failure
import CompanionStyles.FileTree.Basic
import CompanionStyles.Glob.Basic
import CompanionStyles.Json.Fault
import CompanionStyles.Json.Number
import CompanionStyles.Json.Reader
import CompanionStyles.Json.Writer
import CompanionStyles.Manifest
import CompanionStyles.ModuleId
import CompanionStyles.Options.Basic
import CompanionStyles.Options.Format
import CompanionStyles.Options.Strategy
import CompanionStyles.Patch.Basic
import CompanionStyles.Patch.SourceMap
import CompanionStyles.Path.Basic
import CompanionStyles.Plugin.Basic
import CompanionStyles.Plugin.Procedure
import CompanionStyles.Proofs.Component.Again
import CompanionStyles.Proofs.Component.ClassEdits
import CompanionStyles.Proofs.Component.ClassSites
import CompanionStyles.Proofs.Component.FoundLeaves
import CompanionStyles.Proofs.Component.ImportLine
import CompanionStyles.Proofs.Component.Parsed
import CompanionStyles.Proofs.Component.ReadBack
import CompanionStyles.Proofs.Component.Rewritten
import CompanionStyles.Proofs.Component.Settled
import CompanionStyles.Proofs.Component.SiteSpans
import CompanionStyles.Proofs.Component.SpelledNames
import CompanionStyles.Proofs.FileTree.Changes
import CompanionStyles.Proofs.FileTree.Listing
import CompanionStyles.Proofs.Glob.Escaped
import CompanionStyles.Proofs.Json.Reading
import CompanionStyles.Proofs.Patch.Front
import CompanionStyles.Proofs.Patch.Mapped
import CompanionStyles.Proofs.Patch.Places
import CompanionStyles.Proofs.Patch.Restating
import CompanionStyles.Proofs.Patch.Splicing
import CompanionStyles.Proofs.Patch.Stretches
import CompanionStyles.Proofs.Plugin.AllOrNothing
import CompanionStyles.Proofs.Plugin.Binding
import CompanionStyles.Proofs.Plugin.Commuting
import CompanionStyles.Proofs.Plugin.Configured
import CompanionStyles.Proofs.Plugin.ManifestHook
import CompanionStyles.Proofs.Plugin.Rebinding
import CompanionStyles.Proofs.Plugin.Reloading
import CompanionStyles.Proofs.Plugin.Runs
import CompanionStyles.Proofs.Plugin.Serving
import CompanionStyles.Proofs.Plugin.Tracking
import CompanionStyles.Proofs.Plugin.Unaffected
import CompanionStyles.Proofs.Plugin.Validated
import CompanionStyles.Proofs.Reload.History
import CompanionStyles.Proofs.Reload.Tracker
import CompanionStyles.Proofs.SourceMap.Decoding
import CompanionStyles.Proofs.SourceMap.Document
import CompanionStyles.Proofs.Style.First
import CompanionStyles.Proofs.Text.Quoted
import CompanionStyles.Proofs.Text.Renaming
import CompanionStyles.Proofs.Text.Utf8
import CompanionStyles.Proofs.Text.Words
import CompanionStyles.Proofs.VirtualModule.Id
import CompanionStyles.Reload.Tracker
import CompanionStyles.Scope.Exports
import CompanionStyles.Scope.Naming
import CompanionStyles.Scope.Pattern
import CompanionStyles.Scope.Writing
import CompanionStyles.Style.Compile
import CompanionStyles.Style.Name
import CompanionStyles.Style.Resolve
import CompanionStyles.Stylesheet.Declaration
import CompanionStyles.Stylesheet.Escape
import CompanionStyles.Stylesheet.Fault
import CompanionStyles.Stylesheet.Layout
import CompanionStyles.Stylesheet.Node
import CompanionStyles.Stylesheet.Phrase
import CompanionStyles.Stylesheet.Query
import CompanionStyles.Stylesheet.RawText
import CompanionStyles.Stylesheet.Reader
import CompanionStyles.Stylesheet.Rule
import CompanionStyles.Stylesheet.Scanner
import CompanionStyles.Stylesheet.Selector.Attribute
import CompanionStyles.Stylesheet.Selector.Names
import CompanionStyles.Stylesheet.Selector.Nth
import CompanionStyles.Stylesheet.Selector.Reading
import CompanionStyles.Stylesheet.Selector.Shape
import CompanionStyles.Stylesheet.Support
import CompanionStyles.Stylesheet.Token
import CompanionStyles.Stylesheet.Value.Align
import CompanionStyles.Stylesheet.Value.Background
import CompanionStyles.Stylesheet.Value.Box
import CompanionStyles.Stylesheet.Value.Calculation
import CompanionStyles.Stylesheet.Value.Color
import CompanionStyles.Stylesheet.Value.ColorNames
import CompanionStyles.Stylesheet.Value.ColorSpace
import CompanionStyles.Stylesheet.Value.Decoration
import CompanionStyles.Stylesheet.Value.Effect
import CompanionStyles.Stylesheet.Value.Font
import CompanionStyles.Stylesheet.Value.FontFace
import CompanionStyles.Stylesheet.Value.Grid
import CompanionStyles.Stylesheet.Value.Image
import CompanionStyles.Stylesheet.Value.Loose
import CompanionStyles.Stylesheet.Value.Motion
import CompanionStyles.Stylesheet.Value.Position
import CompanionStyles.Stylesheet.Value.Property
import CompanionStyles.Stylesheet.Value.PropertyName
import CompanionStyles.Stylesheet.Value.PropertyType
import CompanionStyles.Stylesheet.Value.Quantity
import CompanionStyles.Stylesheet.Value.Transform
import CompanionStyles.Text.CodeRange
import CompanionStyles.Text.Hex
import CompanionStyles.Text.Identifier
import CompanionStyles.Text.Printable
import CompanionStyles.Text.Quoted
import CompanionStyles.Text.Shown
import CompanionStyles.Text.Units
import CompanionStyles.Text.Utf8
import CompanionStyles.Text.Words
import CompanionStyles.Trace
import CompanionStyles.Traced
import CompanionStyles.VirtualModule.Id
import CompanionStyles.VirtualModule.Registry
import CompanionStyles.Proofs.Patch.Apart
import CompanionStyles.Proofs.Component.Confined
import CompanionStyles.Proofs.Scope.Composition
import CompanionStyles.Proofs.Path.FileName
import CompanionStyles.Proofs.Style.Candidates
import CompanionStyles.Proofs.Glob.Matching
import CompanionStyles.Proofs.Glob.Literal
import CompanionStyles.Proofs.Glob.Samples
import CompanionStyles.Proofs.Style.Literal
import CompanionStyles.Proofs.VirtualModule.Faithful
import CompanionStyles.Proofs.Component.WrittenMarkup
import CompanionStyles.Proofs.Component.WrittenStrings
import CompanionStyles.Proofs.FileTree.Bystanders
import CompanionStyles.Proofs.Plugin.Bystanders
import CompanionStyles.Proofs.Patch.AnyOrder
import CompanionStyles.Proofs.Plugin.FirstConfiguration
import CompanionStyles.Proofs.Plugin.Query
import CompanionStyles.Proofs.Options.Format
import CompanionStyles.Proofs.Path.Join
import CompanionStyles.Proofs.Path.Parent
import CompanionStyles.Proofs.Path.Text
import CompanionStyles.Proofs.Reload.Spelling
import CompanionStyles.Proofs.Plugin.Namespace
import CompanionStyles.Proofs.Style.Normalized
import CompanionStyles.Proofs.Plugin.Key
