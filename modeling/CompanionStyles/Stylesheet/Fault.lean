import CompanionStyles.Stylesheet.Token

/-!
Faults: what can be wrong with a stylesheet, where, and how it is said.
-/

namespace CompanionStyles.Stylesheet

inductive Cause where
  | endOfInput
  | unexpected (token : Token)
  | atRuleBody
  | unknownAtRule (name : List Char)
  | declaration
  | mediaQuery
  | value
  | nestingDepth
  | importTooLate
  | namespaceTooLate
  | valueRule
  | emptySelector
  | danglingCombinator
  | classNeedsName (token : Token)
  | ambiguousScope
  | missingNesting
  | selectorState
  | afterPseudoElement (token : Token)
  | pseudoClassAfterPseudoElement
  | pseudoNeedsName (token : Token)
  | beforeScrollbar
  | afterScrollbar
  | attributeNeedsName (token : Token)
  | attributeNeedsBar (token : Token)
  | attributeNamespace (token : Token)
  | attributeOperator (token : Token)
  | attributeValue (token : Token)
  | namespaceToken (token : Token)
  | composesNeedsClass
  | composesNested
  | gridPattern
  deriving DecidableEq, Repr

def withToken (before : String) (token : Token) (behind : String) : String :=
  before ++ String.ofList token.shown ++ behind

def Cause.message : Cause → String
  | endOfInput => "Unexpected end of input"
  | unexpected token => withToken "Unexpected token " token ""
  | atRuleBody => "Invalid @ rule body"
  | unknownAtRule name => "Unknown at rule: @" ++ String.ofList name
  | declaration => "Invalid declaration"
  | mediaQuery => "Invalid media query"
  | value => "Invalid value"
  | nestingDepth => "Overflowed the maximum nesting depth"
  | importTooLate =>
    "@import rules must precede all rules aside from @charset and @layer statements"
  | namespaceTooLate =>
    "@namespaces rules must precede all rules aside from @charset, @import, and @layer statements"
  | valueRule => "The @value rule is deprecated"
  | emptySelector => "Invalid empty selector"
  | danglingCombinator => "Invalid dangling combinator in selector"
  | classNeedsName token => withToken "Expected identifier in class selector, got " token ""
  | ambiguousScope => "Ambiguous CSS module class not supported"
  | missingNesting => "A nesting selector (&) is required in each selector of a @nest rule"
  | selectorState => "Invalid state"
  | afterPseudoElement token =>
    withToken "Pseudo-elements like '::before' or '::after' can't be followed by selectors like '"
      token "'"
  | pseudoClassAfterPseudoElement =>
    "Invalid pseudo class after pseudo element, only user action pseudo classes (e.g. :hover, "
      ++ ":active) are allowed"
  | pseudoNeedsName token => withToken "Invalid token in pseudo element: " token ""
  | beforeScrollbar => "Pseudo class must be prefixed by a ::-webkit-scrollbar pseudo element"
  | afterScrollbar => "Invalid pseudo class after ::-webkit-scrollbar pseudo element"
  | attributeNeedsBar token => withToken "Expected | in attribute, got " token ""
  | attributeNamespace token =>
    withToken "Invalid qualified name in attribute selector: " token ""
  | attributeNeedsName token =>
    withToken "No qualified name in attribute selector: " token "."
  | attributeOperator token => withToken "Unexpected token in attribute selector: " token ""
  | attributeValue token => withToken "Invalid value in attribute selector: " token ""
  | namespaceToken token => withToken "Unexpected token in namespace selector: " token ""
  | composesNeedsClass =>
    "The `composes` property cannot be used with a simple class selector"
  | composesNested => "The `composes` property cannot be used within nested rules"
  | gridPattern =>
    "The CSS modules `pattern` config must end with `[local]` for use in CSS grid line names."

/-- A cause and where it shows; some faults have no place. -/
structure Fault where
  place : Option Place
  cause : Cause
  deriving DecidableEq, Repr

end CompanionStyles.Stylesheet
