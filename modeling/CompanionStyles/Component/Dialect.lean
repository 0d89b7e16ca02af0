import CompanionStyles.Component.Parser
import CompanionStyles.ModuleId
import CompanionStyles.Path.Basic

/-!
The language of a component by its module id. Marks in front of an id and a query behind it do not
count; an extension that is not known stands for typed modules with markup.
-/

namespace CompanionStyles.Component.Dialect

def ofExtension (extension : Option Bytes) : Dialect :=
  let isOne (names : List String) : Bool := names.any fun name => extension = some (Utf8.encode name.toList)
  let form : SourceForm :=
    if isOne ["ts", "tsx", "js", "jsx"] then .open_
    else if isOne ["cts", "cjs"] then .function
    else .module
  let typed := !isOne ["js", "jsx", "mjs", "cjs"]
  let markup := !isOne ["ts", "mts", "cts", "js", "mjs", "cjs"]
  { typed := typed, markup := markup, form := form, declares := false }

/-- The pieces of a name between its dots, the last one first; `piece` is read already. -/
def pieces (piece : Bytes) : (backwards : Bytes) → List Bytes
  | [] => [piece]
  | b :: rest => if b = Path.dot then piece :: pieces [] rest else pieces (b :: piece) rest

/-- Whether a file name says that the file declares only what is defined elsewhere: `d` stands right
before its extension, or before one more extension. -/
def isDeclaring (name : Bytes) : Bool :=
  let d : Bytes := Utf8.encode ['d']
  let isOne (piece : Bytes) (names : List String) : Bool :=
    names.any fun name => piece = Utf8.encode name.toList
  match pieces [] name.reverse with
  | extension :: before =>
    if isOne extension ["ts"] then (before.take 2).contains d
    else isOne extension ["mts", "cts"] && before.head? = some d
  | [] => false

def ofId (id : List Char) : Dialect :=
  let path := Path.ofText (modulePath (id.dropWhile (· = '\x00')))
  { ofExtension path.extension with declares := (path.fileName.map isDeclaring).getD false }

end CompanionStyles.Component.Dialect
