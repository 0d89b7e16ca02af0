import CompanionStyles.Stylesheet.Declaration
import CompanionStyles.Stylesheet.Support
import CompanionStyles.Stylesheet.Selector.Reading
import CompanionStyles.Stylesheet.Value.PropertyType

/-!
Rules: what a stylesheet consists of. The first fault ends the reading of a stylesheet, except inside
rules that drop what they do not know.
-/

namespace CompanionStyles.Stylesheet

open Reader

inductive Rule where
  /-- Declarations for elements, and rules inside them. -/
  | style (front : Phrase) (selectors : List Selector) (declarations : Declarations)
    (rules : List Rule)
  /-- Declarations between the rules of a style rule. -/
  | between (declarations : Declarations)
  | group (head : Phrase) (rules : List Rule)
  /-- Blocks of declarations, each behind a head of its own. -/
  | blocks (head : Phrase) (blocks : List (Phrase × Declarations))
  /-- A block of declarations; `spaced` tells whether an empty one has an empty line. -/
  | block (head : Phrase) (declarations : Declarations) (spaced : Bool)
  /-- Declarations, and blocks among them. -/
  | page (head : Phrase) (declarations : Declarations) (margins : List (Phrase × Declarations))
  /-- A block of lines. -/
  | lines (head : Phrase) (lines : List Phrase)
  /-- A rule without a block; `tight` tells whether it follows others of its kind at once. -/
  | statement (phrase : Phrase) (tight : Bool)
  /-- A rule that is not known, with what stands in its block. -/
  | unknown (head : Phrase) (content : Option Phrase)

namespace Rule

/-- What is expected of the place where a rule stands. -/
structure Setting where
  /-- Whether names that start with two dashes may come from other files. -/
  dashed : Bool
  /-- Whether a style rule stands around. -/
  inStyle : Bool
  /-- Whether declarations may stand here. -/
  declarations : Bool

/-- The order in which rules have to stand at the top of a stylesheet. -/
inductive Stage where
  | start
  | layers
  | imports
  | namespaces
  | body
  deriving DecidableEq

def Stage.number : Stage → Nat
  | start => 0
  | layers => 1
  | imports => 2
  | namespaces => 3
  | body => 4

/-- What a rule is known to be once its head is read. -/
inductive Head where
  | import_ (phrase : Phrase)
  | namespace_ (phrase : Phrase)
  | charset
  | layer (names : List (List Char))
  | group (phrase : Phrase)
  | nest (selectors : List Selector)
  | keyframes (phrase : Phrase)
  | block (phrase : Phrase)
  | described (phrase : Phrase) (readers : Value.DescriptorReaders)
  | property (name : Phrase)
  | page (phrase : Phrase)
  | unknown (phrase : Phrase)

def Head.nests : Head → Bool
  | layer _ | group _ | nest _ | property _ | unknown _ => true
  | _ => false

/-- A name of a layer, with points between its parts. -/
def layerName : Reader (List Char) := do
  let first ← ident
  let parts ← many (do
    match ← nextRaw with
    | .token _ _ (.delim '.') =>
      match ← nextRaw with
      | .token _ _ (.ident name) => return name
      | n => failAt n.place (.unexpected n.head)
    | n => failAt n.place (.unexpected n.head))
  return writeName first ++ parts.flatMap fun p => '.' :: writeName p

def address : Reader (List Char) :=
  expect fun n => match n with
    | .token _ _ (.url a) => some a
    | .token _ _ (.string a) => some a
    | .block _ _ (.function name) [.token _ _ (.string a)] _ =>
      if isWord name "url" then some a else none
    | _ => none

def importHead : Reader Phrase := do
  let a ← address
  let layer : Phrase ← if ← found (word "layer") then pure (Phrase.ofString " layer")
    else do
      match ← attempt (call ["layer"] fun _ => layerName) with
      | some name => pure (Phrase.ofChars (" layer(".toList ++ name ++ [')']))
      | none => pure []
  let supports : Phrase ← match ← peek with
    | some (.block _ _ (.function name) _ _) =>
      if isWord name "supports" then
        call ["supports"] fun _ => return .text " supports".toList :: (← Query.importedSupports)
      else pure []
    | _ => pure []
  let media : Phrase ← match ← Query.mediaQueries with
    | [] => pure []
    | qs => pure (.text [' '] :: Phrase.list qs)
  return .text ("@import ".toList ++ writeString a) :: layer ++ supports ++ media

def namespaceHead : Reader Phrase := do
  let front := match ← attempt ident with
    | some name => writeName name ++ [' ']
    | none => []
  return Phrase.ofChars ("@namespace ".toList ++ front ++ writeString (← address))

def keyframesName : Reader Phrase := do
  let n ← next
  match n with
  | .token _ _ (.ident name) =>
    if ("none" :: Value.wideWords).any (isWord name ·) then fail (.unexpected n.head)
    else return [.name name]
  | .token _ _ (.string name) =>
    if ("none" :: Value.wideWords).any (isWord name ·) then
      return Phrase.ofChars (writeString name)
    else return [.name name]
  | n => fail (.unexpected n.head)

def pageSelector : Reader (List Char) := do
  let name ← orDefault [] ident
  let pseudos ← many (do
    match ← nextRaw with
    | .token _ _ .colon =>
      match ← nextRaw with
      | .token _ _ (.ident p) =>
        if ["left", "right", "first", "last", "blank"].any (isWord p ·) then
          return ':' :: lower p
        else fail .value
      | n => failAt n.place (.unexpected n.head)
    | n => failAt n.place (.unexpected n.head))
  if name.isEmpty && pseudos.isEmpty then fail .value
  return writeName name ++ pseudos.flatten

def scopeHead : Reader Phrase := do
  let first : Phrase ← match ← attempt (Reader.block .round Selector.scopeBounds) with
    | some s => pure (.text " (".toList :: Selector.listPhrase false s ++ Phrase.ofString ")")
    | none => pure []
  let last : Phrase ← if ← found (word "to") then do
      let s ← Reader.block .round Selector.scopeBounds
      pure (.text " to (".toList :: Selector.listPhrase false s ++ Phrase.ofString ")")
    else pure []
  return .text "@scope".toList :: first ++ last

def containerHead (s : Setting) : Reader Phrase := do
  let name ← attempt Query.containerName
  let front : Phrase := match name with
    | some n => [.text [' '], .name n]
    | none => []
  if name.isSome && (← get).nodes.all isGap then
    skipBlanks
    return .text "@container".toList :: front
  let c ← Query.containerCondition (Declaration.styleFeature s.dashed)
  return .text "@container".toList :: front ++ .text [' '] :: c

/-- Reads the head of a rule that may stand anywhere. -/
def head (s : Setting) (name : List Char) : Reader Head := do
  let keyword := String.ofList (lower name)
  match keyword with
  | "media" => return .group (.text "@media ".toList :: (← Query.mediaList))
  | "supports" => return .group (.text "@supports ".toList :: (← Query.supportsCondition))
  | "container" => return .group (← containerHead s)
  | "starting-style" => return .group (Phrase.ofString "@starting-style")
  | "scope" => return .group (← scopeHead)
  | "-moz-document" =>
    call ["url-prefix"] fun _ => do
      let _ ← attempt string
      return ()
    return .group (Phrase.ofString "@-moz-document url-prefix()")
  | "layer" =>
    if (← get).nodes.all isGap then
      skipBlanks
      return .layer []
    return .layer (← commaSeparated layerName)
  | "font-face" => return .described (Phrase.ofString "@font-face") Value.fontFaceReaders
  | "view-transition" =>
    return .described (Phrase.ofString "@view-transition") Value.transitionReaders
  | "font-palette-values" =>
    let n ← Value.dashedName
    return .described [.text "@font-palette-values ".toList, .dashed n .sheet] Value.paletteReaders
  | "property" => return .property [.dashed (← Value.dashedName) .sheet]
  | "counter-style" =>
    let n ← Value.customName
    return .block [.text "@counter-style ".toList, .name n]
  | "viewport" | "-ms-viewport" => return .block (Phrase.ofString ("@" ++ keyword))
  | "keyframes" | "-webkit-keyframes" | "-moz-keyframes" | "-o-keyframes" | "-ms-keyframes" =>
    return .keyframes (.text ('@' :: keyword.toList ++ [' ']) :: (← keyframesName))
  | "page" =>
    let pages ← orDefault [] (whole (commaSeparated pageSelector))
    let shown : Phrase := match pages with
      | [] => []
      | ps => .text [' '] :: Phrase.list (ps.map Phrase.ofChars)
    return .page (.text "@page".toList :: shown)
  | "value" => fail .valueRule
  | _ =>
    if keyword = "nest" ∧ s.inStyle then return .nest (← Selector.requiredNesting)
    skipBlanks
    let prelude ← Value.loose s.dashed
    let front := '@' :: name
    return .unknown (if prelude.isEmpty then Phrase.ofChars front
      else .text (front ++ [' ']) :: prelude)

/-- Reads the head of a rule at the top of a stylesheet. -/
def topHead (s : Setting) (stage : Stage) (name : List Char) : Reader Head := do
  match String.ofList (lower name) with
  | "import" =>
    if stage.number > Stage.imports.number then fail .importTooLate
    return .import_ (← importHead)
  | "namespace" =>
    if stage.number > Stage.namespaces.number then fail .namespaceTooLate
    return .namespace_ (← namespaceHead)
  | "charset" =>
    let _ ← string
    return .charset
  | _ => head s name

/-- Adds a declaration behind the others of its importance. -/
def addDeclaration (ds : Declarations) (d : Declaration × Bool) : Declarations :=
  if d.2 then { ds with important := ds.important ++ [d.1] }
  else { ds with normal := ds.normal ++ [d.1] }

def isSemicolon (t : Token) : Bool :=
  t == .semicolon

/-- Reads a declaration behind its name with `value`, and the semicolon that ends it. -/
def declarationOf {α : Type} (value : List Char → Reader α) (name : List Char) :
    Reader (Except Fault α) := do
  let result ← until? isSemicolon do
    expectToken .colon
    value name
  let _ ← attempt (expectToken .semicolon)
  return result

def declaration (dashed : Bool) (name : List Char) :
    Reader (Except Fault (Declaration × Bool)) :=
  declarationOf (Declaration.afterColon dashed) name

/-- Whether a node can be passed over between declarations and rules. -/
def isFiller (n : Node) : Bool :=
  isGap n || n.head == .semicolon || n.head == .closing .curly

/-- Reads declarations alone, which `add` adds to those in front. Unless `lenient`, what is none is a
fault. -/
def declarationsUpTo {σ : Type} (add : σ → List Char → Reader σ) (lenient : Bool) : Nat → σ → Reader σ
  | 0, ds => pure ds
  | fuel + 1, ds => do
    modify fun c => { c with nodes := c.nodes.dropWhile isFiller }
    if (← get).nodes.isEmpty then return ds
    let place ← here
    let n ← next
    let result : Except Fault σ ← match n with
      | .token _ _ (.ident name) => declarationOf (add ds) name
      | .token _ _ (.atKeyword name) =>
        let _ ← until? (fun t => isSemicolon t || t == .opening .curly)
          (modify fun c => { c with nodes := [] } : Reader Unit)
        let after ← here
        let _ ← attempt next
        pure (.error ⟨some after, .unknownAtRule name⟩)
      | n =>
        let _ ← until? isSemicolon (modify fun c => { c with nodes := [] } : Reader Unit)
        let _ ← attempt (expectToken .semicolon)
        pure (.error ⟨some place, .unexpected n.head⟩)
    match result with
    | .ok ds => declarationsUpTo add lenient fuel ds
    | .error fault =>
      if lenient then declarationsUpTo add lenient fuel ds else throw fault

def declarations (dashed : Bool) : Reader Declarations := do
  let add (ds : Declarations) (name : List Char) : Reader Declarations :=
    addDeclaration ds <$> Declaration.afterColon dashed name
  declarationsUpTo add false ((← size) + 1) .empty

/-- Reads descriptors; those that cannot be read are left out. -/
def descriptors (readers : Value.DescriptorReaders) : Reader Declarations := do
  let add (ds : Declarations) (name : List Char) : Reader Declarations :=
    addDeclaration ds <$> Declaration.afterDescriptor readers name
  declarationsUpTo add true ((← size) + 1) .empty

/-- Reads the block of a rule behind its head, and says whether there is one. The fault of a head
counts only if its block can be found. -/
def withBlock {α β : Type} (stops : Token → Bool) (front : Reader α)
    (behind : α → Reader β) : Reader β := do
  let result ← until? stops front
  let place ← here
  let n ← next
  match n with
  | .block _ _ (.opening .curly) inner last =>
    let a ← ofExcept result
    inside inner last (behind a)
  | n => failAt place (.unexpected n.head)

def keyframe : Reader Phrase :=
  let part := Value.quantityPhrase <$> Value.percentage
  Value.oneOf ["from", "to"] <|> part <|> do
    let range ← Value.oneOf Value.rangeNames
    return Phrase.words [range, ← part]

/-- Reads keyframes; those that cannot be read are left out. -/
def keyframesUpTo (dashed : Bool) : Nat → Reader (List (Phrase × Declarations))
  | 0 => pure []
  | fuel + 1 => do
    modify fun c => { c with nodes := c.nodes.dropWhile isFiller }
    let c ← get
    if c.nodes.isEmpty then return []
    let front := c.nodes.takeWhile fun n => n.head != .opening .curly
    let frame ← attempt (withBlock (· == .opening .curly) (commaSeparated keyframe) fun ps => do
      return (Phrase.list ps, ← declarations dashed))
    set { c with nodes := c.nodes.drop (front.length + 1) }
    return frame.toList ++ (← keyframesUpTo dashed fuel)

def pageMargins : List String :=
  ["top-left-corner", "top-left", "top-center", "top-right", "top-right-corner", "left-top",
   "left-middle", "left-bottom", "right-top", "right-middle", "right-bottom", "bottom-left-corner",
   "bottom-left", "bottom-center", "bottom-right", "bottom-right-corner"]

/-- Reads declarations and blocks for the margins of a page. -/
def pageUpTo (dashed : Bool) : Nat → Declarations → List (Phrase × Declarations) →
    Reader (Declarations × List (Phrase × Declarations))
  | 0, ds, ms => pure (ds, ms)
  | fuel + 1, ds, ms => do
    modify fun c => { c with nodes := c.nodes.dropWhile isFiller }
    if (← get).nodes.isEmpty then return (ds, ms)
    let place ← here
    let n ← next
    match n with
    | .token _ _ (.ident name) =>
      let d ← ofExcept (← declaration dashed name)
      pageUpTo dashed fuel (addDeclaration ds d) ms
    | .token _ _ (.atKeyword name) =>
      if pageMargins.any (isWord name ·) then
        let inner ← Reader.block .curly (declarations dashed)
        pageUpTo dashed fuel ds (ms ++ [(Phrase.ofChars ('@' :: lower name), inner)])
      else fail (.unknownAtRule name)
    | n => failAt place (.unexpected n.head)

/-- What a custom property is declared to be. -/
structure PropertyRule where
  type : Option Value.PropertyType
  inherits : Option (List Char)
  /-- The text of the first value. -/
  initial : Option (List Char)

/-- Reads what stands behind the name of a descriptor of a custom property. -/
def PropertyRule.add (r : PropertyRule) (name : List Char) : Reader PropertyRule :=
  match String.ofList (lower name) with
  | "syntax" => do
    match Value.PropertyType.ofText? (← string) with
    | some t => return { r with type := some t }
    | none => fail .value
  | "inherits" => do return { r with inherits := some (← keyword ["true", "false"]) }
  | "initial-value" =>
    modifyGet fun c => ({ r with initial := some (c.nodes.flatMap Node.raw) }, { c with nodes := [] })
  | _ => fail .declaration

/-- Reads the first value of a property from its text. Places in it are counted from its start. -/
def initialValue (type : Value.PropertyType) (text : List Char) : Except Fault Phrase :=
  let (nodes, last) := Node.ofText text
  type.reader.run' ⟨nodes, last⟩

/-- Reads what a custom property is declared to be. Only a property of any type needs no first value. -/
def property (name : Phrase) : Reader Rule := do
  let r ← declarationsUpTo PropertyRule.add false ((← size) + 1) ⟨none, none, none⟩
  match r.type, r.inherits with
  | some type, some inherits =>
    if r.initial.isNone && type != .anything then fail .atRuleBody
    let initial ← match r.initial with
      | some text => do pure [← ofExcept (initialValue type text)]
      | none => pure []
    let end_ := if initial.isEmpty then [] else [';']
    return .lines (.text "@property ".toList :: name)
      ([Phrase.ofChars ("syntax: ".toList ++ type.text ++ [';']),
        Phrase.ofChars ("inherits: ".toList ++ inherits ++ end_)]
        ++ initial.map fun p => .text "initial-value: ".toList :: p ++ Phrase.ofString ";")
  | _, _ => fail .atRuleBody

def withoutBlock : Head → Option (List Rule)
  | .import_ p => some [.statement p true]
  | .namespace_ p => some [.statement p true]
  | .charset => some []
  | .layer [] => none
  | .layer names =>
    some [.statement (.text "@layer ".toList :: Phrase.list (names.map Phrase.ofChars)) true]
  | .unknown p => some [.unknown p none]
  | _ => none

/-- Puts declarations in front of the rules that follow them. -/
def withDeclarations (ds : Declarations) (rules : List Rule) : List Rule :=
  if ds.isEmpty then rules else .between ds :: rules

/-- What has been read of a block: its first declarations, the rules behind them, the last one first,
and the declarations behind those. -/
structure Body where
  first : Declarations
  rules : List Rule
  pending : Declarations

def Body.empty : Body :=
  ⟨.empty, [], .empty⟩

def Body.declare (b : Body) (d : Declaration × Bool) : Body :=
  if b.rules.isEmpty then { b with first := addDeclaration b.first d }
  else { b with pending := addDeclaration b.pending d }

def Body.settle (b : Body) : Body :=
  if b.pending.isEmpty then b
  else { b with rules := .between b.pending :: b.rules, pending := .empty }

def Body.add (b : Body) (rules : List Rule) : Body :=
  let b := b.settle
  { b with rules := rules.reverse ++ b.rules }

def Body.finish (b : Body) : Declarations × List Rule :=
  (b.first, b.settle.rules.reverse)

/-- Reads the block of a rule whose head is known; `body` reads blocks of rules. -/
def blockOf (body : Setting → Reader (Declarations × List Rule)) (s : Setting) :
    Head → Reader (List Rule)
  | .group p => do
    let (ds, rules) ← body s
    return [.group p (withDeclarations ds rules)]
  | .layer names => do
    let p : Phrase ← match names with
      | [] => pure (Phrase.ofString "@layer")
      | [name] => pure (Phrase.ofChars ("@layer ".toList ++ name))
      | _ => fail .atRuleBody
    let (ds, rules) ← body s
    return [.group p (withDeclarations ds rules)]
  | .nest selectors => do
    let (ds, rules) ← body { s with declarations := true }
    return [.style (Phrase.ofString "@nest ") selectors ds rules]
  | .keyframes p => do return [.blocks p (← keyframesUpTo s.dashed ((← size) + 1))]
  | .block p => do return [.block p (← declarations s.dashed) true]
  | .described p readers => do return [.block p (← descriptors readers) false]
  | .property name => do return [← property name]
  | .page p => do
    let (ds, ms) ← pageUpTo s.dashed ((← size) + 1) .empty []
    return [.page p ds ms]
  | .unknown p => do return [.unknown p (some (← Value.loose s.dashed))]
  | .import_ _ | .namespace_ _ | .charset => fail (.unexpected (.opening .curly))

def atRule (body : Setting → Reader (Declarations × List Rule)) (s : Setting)
    (readHead : Reader Head) : Reader (Head × List Rule) := do
  let result ← until? (fun t => isSemicolon t || t == .opening .curly) readHead
  let h ← ofExcept result
  let c ← get
  match c.nodes with
  | .block _ _ (.opening .curly) inner last :: rest =>
    set { c with nodes := rest }
    return (h, ← inside inner last (blockOf body s h))
  | rest =>
    set { c with nodes := rest.drop 1 }
    match withoutBlock h with
    | some rules => return (h, rules)
    | none =>
      fail (.unexpected .semicolon)

def styleRule (body : Setting → Reader (Declarations × List Rule)) (s : Setting)
    (stops : Token → Bool) : Reader Rule :=
  withBlock stops (if s.inStyle then Selector.nestedRule else Selector.rule) fun selectors => do
    let (ds, rules) ← body { s with inStyle := true, declarations := true }
    return .style [] selectors ds rules

def item (body : Setting → Reader (Declarations × List Rule)) (s : Setting) (b : Body) :
    Reader Body := do
  let before ← get
  let stops := fun t => t == .opening .curly || (s.declarations && isSemicolon t)
  match ← nextRaw with
  | .token _ _ (.atKeyword name) =>
    let (_, rules) ← atRule body s (do
      let h ← head s name
      if s.inStyle && !h.nests then fail (.unknownAtRule name)
      return h)
    return b.add rules
  | .token _ _ (.ident name) =>
    if s.declarations then
      match ← declaration s.dashed name with
      | .ok d => return b.declare d
      | .error fault =>
        set before
        match ← attempt (styleRule body s stops) with
        | some r => return b.add [r]
        | none => throw fault
    else
      set before
      return b.add [← styleRule body s stops]
  | _ =>
    set before
    return b.add [← styleRule body s stops]

def items (body : Setting → Reader (Declarations × List Rule)) (s : Setting) :
    Nat → Body → Reader Body
  | 0, b => pure b
  | fuel + 1, b => do
    modify fun c => { c with nodes := c.nodes.dropWhile isFiller }
    if (← get).nodes.isEmpty then return b
    items body s fuel (← item body s b)

/-- Reads the contents of a block; `depth` bounds how far blocks nest. -/
def body : Nat → Setting → Reader (Declarations × List Rule)
  | 0, _ => fail .nestingDepth
  | depth + 1, s => do
    let b ← items (body depth) s ((← size) + 1) .empty
    return b.finish

def maxDepth : Nat :=
  500

def Stage.after (stage : Stage) : Head → Bool → Stage
  | .import_ _, _ => .imports
  | .namespace_ _, _ => .namespaces
  | .charset, _ => stage
  | .layer _, false => if stage.number ≤ Stage.layers.number then .layers else .body
  | _, _ => .body

/-- Marks of comments, which count for nothing between rules. -/
def isTopFiller (n : Node) : Bool :=
  isGap n || n.head == .commentOpen || n.head == .commentClose

/-- Reads the rules of a stylesheet. A rule for the character set counts for nothing at the start. -/
def sheetUpTo (s : Setting) : Nat → Bool → Stage → Reader (List Rule)
  | 0, _, _ => pure []
  | fuel + 1, first, stage => do
    modify fun c => { c with nodes := c.nodes.dropWhile isTopFiller }
    let before ← get
    match before.nodes with
    | [] => return []
    | .token _ _ (.atKeyword name) :: rest =>
      set { before with nodes := rest }
      if first && isWord name "charset" then
        modify fun c => { c with nodes := (c.nodes.dropWhile fun n => n.head != .semicolon).drop 1 }
        sheetUpTo s fuel false stage
      else
        let blocked := match rest.find? fun n => isSemicolon n.head || n.head == .opening .curly with
          | some n => n.head == .opening .curly
          | none => false
        let (h, rules) ← atRule (body maxDepth) s (topHead s stage name)
        return rules ++ (← sheetUpTo s fuel false (stage.after h blocked))
    | _ =>
      let r ← styleRule (body maxDepth) s (· == .opening .curly)
      return r :: (← sheetUpTo s fuel false .body)

def sheet (dashed : Bool) : Reader (List Rule) := do
  sheetUpTo ⟨dashed, false, false⟩ ((← size) + 1) true .start

end Rule

/-- The comments at the start of a stylesheet that have to be kept. -/
def licenses : List Node → List (List Char)
  | .token _ _ (.blank _) :: rest => licenses rest
  | .token _ _ (.comment ('!' :: text)) :: rest => ('!' :: text) :: licenses rest
  | _ => []

/-- A stylesheet. -/
structure Sheet where
  licenses : List (List Char)
  rules : List Rule

def Sheet.parse (dashed : Bool) (text : List Char) : Except Fault Sheet := do
  let (nodes, last) := Node.ofText text
  let rules ← Reader.runOn nodes last (Rule.sheet dashed)
  return ⟨Stylesheet.licenses nodes, rules⟩

end CompanionStyles.Stylesheet
