import CompanionStyles.Stylesheet.Rule

/-!
Layout: how rules are printed. Blocks are indented by two, rules stand apart by an empty line, and
every declaration has a line of its own.
-/

namespace CompanionStyles.Stylesheet

def indentation : Nat :=
  2

/-- What a composition does to the classes that its rule is about. Only a rule at the top may compose
classes, and only if each of its selectors is a class and nothing else. -/
def Composition.pieces (atTop : Bool) (selectors : List Selector) (c : Composition) : Phrase :=
  if atTop then
    selectors.map fun s =>
      match s.className? with
      | some name => .compose name c.names c.origin
      | none => .fault ⟨some c.place, .composesNeedsClass⟩
  else [.fault ⟨some c.place, .composesNested⟩]

/-- Declarations on lines of their own; `first` tells whether none has been printed yet. -/
def declarationLines (atTop : Bool) (selectors : List Selector) : Bool → List Declaration → Phrase
  | _, [] => []
  | first, .value p :: rest =>
    (if first then [] else [.lineBreak 0]) ++ p ++ .text [';']
      :: declarationLines atTop selectors false rest
  | first, .composes c :: rest =>
    c.pieces atTop selectors ++ declarationLines atTop selectors first rest

def Declarations.lines (atTop : Bool) (selectors : List Selector) (ds : Declarations) : Phrase :=
  declarationLines atTop selectors true ds.all

/-- Contents between curly brackets; they bring their own first line break. -/
def enclosed (head : Phrase) (content : Phrase) : Phrase :=
  head ++ .text " \x7b".toList :: content.indent indentation ++ [.lineBreak 0, .text ['\x7d']]

def onNewLine (p : Phrase) : Phrase :=
  .lineBreak 0 :: p

def gap : Phrase :=
  [.text ['\n'], .lineBreak 0]

/-- A block of declarations; `spaced` tells whether an empty one has an empty line. -/
def declarationBlock (atTop spaced : Bool) (head : Phrase) (ds : Declarations) : Phrase :=
  enclosed head (if ds.isEmpty && !spaced then [] else onNewLine (ds.lines atTop []))

def framesPhrase : List (Phrase × Declarations) → Phrase
  | [] => []
  | [(head, ds)] => declarationBlock false true head ds
  | (head, ds) :: rest => declarationBlock false true head ds ++ gap ++ framesPhrase rest

/-- Whether a rule stands right below another one of its kind. -/
def Rule.isTight : Rule → Bool
  | statement _ tight => tight
  | _ => false

mutual

/-- A rule as it is printed; `atTop` tells whether no other rule stands around it. -/
def Rule.phrase (atTop : Bool) : Rule → Phrase
  | .style front selectors ds rules =>
    let declared := if ds.isEmpty then [] else onNewLine (ds.lines atTop selectors)
    let nested := match rules with
      | [] => []
      | _ => (if ds.isEmpty then [.lineBreak 0] else gap) ++ rulesPhrase false rules
    enclosed (front ++ Selector.listPhrase false selectors) (declared ++ nested)
  | .between ds => ds.lines atTop []
  | .group head rules => enclosed head (onNewLine (rulesPhrase false rules))
  | .blocks head frames =>
    enclosed head (if frames.isEmpty then [] else onNewLine (framesPhrase frames))
  | .block head ds spaced => declarationBlock atTop spaced head ds
  | .page head ds margins =>
    let declared := if ds.isEmpty then [] else onNewLine (ds.asValues.lines false [])
    let nested :=
      if margins.isEmpty then []
      else (if ds.isEmpty then [.lineBreak 0] else gap) ++ framesPhrase margins
    enclosed head (declared ++ nested)
  | .lines head content => enclosed head (onNewLine (Phrase.join [.lineBreak 0] content))
  | .statement p _ => p ++ [.text [';']]
  | .unknown head none => head ++ [.text [';']]
  | .unknown head (some content) => enclosed head (onNewLine content)

def rulesPhrase (atTop : Bool) : List Rule → Phrase
  | [] => []
  | r :: rest =>
    let between := match rest with
      | [] => []
      | next :: _ => if r.isTight && next.isTight then [.lineBreak 0] else gap
    r.phrase atTop ++ between ++ rulesPhrase atTop rest

end

def Sheet.phrase (s : Sheet) : Phrase :=
  (s.licenses.map fun l => .text ("/*".toList ++ l ++ "*/\n".toList)) ++ rulesPhrase true s.rules
    ++ [.lineBreak 0]

end CompanionStyles.Stylesheet
