import ApiStubs.ApiModule
import ApiStubs.ApiModule.Fault
import ApiStubs.Document.Json
import ApiStubs.Document.Toml

/-!
# Reading modules from documents

The fields of each part are read in a fixed order, so that of several faults the
first one in this order is reported.  Texts are read as code units, and shown as characters
in faults and to whoever renders the modules.
-/

namespace ApiStubs

open Text (Form UnitText)

namespace ApiModule

abbrev Reading := Except Fault

abbrev Value := Document.Value UnitText

/-- The entries of a table, in listing order. -/
abbrev Fields := List (UnitText × Value)

def Fields.get? (fields : Fields) (name : String) : Option Value :=
  fields.lookup (Form.ofText name)

/-- What is wrong with a value that may be missing. -/
def mismatch {α : Type} (value? : Option Value) (path expected : String) :
    Reading α :=
  .error (.wrongKind path expected
    ((value?.map Document.Value.kindName).getD "undefined"))

def readTable (value? : Option Value) (path : String) : Reading Fields :=
  match value?.bind Document.Value.entries? with
  | some entries => .ok entries
  | none => mismatch value? path "table"

def readArray (value? : Option Value) (path : String) :
    Reading (List Value) :=
  match value?.bind Document.Value.items? with
  | some items => .ok items
  | none => mismatch value? path "array"

def readText (value? : Option Value) (path : String) : Reading UnitText :=
  match value?.bind Document.Value.text? with
  | some content => .ok content
  | none => mismatch value? path "string"

def readText? (value? : Option Value) (path : String) :
    Reading (Option UnitText) :=
  match value? with
  | none => .ok none
  | value? => some <$> readText value? path

def readFlag? (value? : Option Value) (path : String) :
    Reading (Option Bool) :=
  match value? with
  | none => .ok none
  | some (.boolean truth) => .ok (some truth)
  | value? => mismatch value? path "boolean"

def itemPath (path : String) (index : Nat) : String :=
  path ++ "[" ++ toString index ++ "]"

/-- Reads the items from a position on. -/
def readFrom {α : Type} (readItem : Option Value → String → Reading α)
    (path : String) : Nat → List Value → Reading (List α)
  | _, [] => .ok []
  | index, item :: rest => do
      let first ← readItem (some item) (itemPath path index)
      return first :: (← readFrom readItem path (index + 1) rest)

def readItems {α : Type} (readItem : Option Value → String → Reading α)
    (value? : Option Value) (path : String) : Reading (List α) := do
  readFrom readItem path 0 (← readArray value? path)

/-- Keys that no table of a descriptor may have. -/
def prohibitedKeys : List String := ["__proto__", "constructor", "prototype"]

def readEntries {α : Type} (readEntry : Option Value → String → Reading α)
    (path : String) : Fields → Reading (List (UnitText × α))
  | [] => .ok []
  | (key, value) :: rest => do
      let name := Form.toText key
      if key ∈ prohibitedKeys.map Form.ofText then throw (.prohibitedKey name path)
      let first ← readEntry (some value) (path ++ "." ++ name)
      return (key, first) :: (← readEntries readEntry path rest)

/-- The table of a field; a missing one is empty. -/
def readTableOf {α : Type} (readEntry : Option Value → String → Reading α)
    (value? : Option Value) (path : String) : Reading (Table α UnitText) :=
  match value? with
  | none => .ok Table.empty
  | value? => do
      return Table.ofList (← readEntries readEntry path (← readTable value? path))

def readOperator (value? : Option Value) (path : String) :
    Reading (Operator UnitText) := do
  let fields ← readTable value? path
  let operand ← readText? (fields.get? "param") (path ++ ".param")
  let result ← readText (fields.get? "result") (path ++ ".result")
  return { result, operand }

/-- Types that are missing or null are none. -/
def typesField (fields : Fields) : Option Value :=
  match fields.get? "types" with
  | none => some (.array [])
  | some .null => some (.array [])
  | some value => some value

def readParameter (value? : Option Value) (path : String) :
    Reading (Parameter UnitText) := do
  let fields ← readTable value? path
  let doc ← readText? (fields.get? "doc") (path ++ ".doc")
  let optional ← readFlag? (fields.get? "optional") (path ++ ".optional")
  let name ← readText (fields.get? "name") (path ++ ".name")
  let types ← readItems readText (typesField fields) (path ++ ".types")
  return { name, types, doc, optional }

def readParameters (value? : Option Value) (path : String) :
    Reading (List (Parameter UnitText)) :=
  match value? with
  | none => .ok []
  | value? => readItems readParameter value? path

def readElement (value? : Option Value) (path : String) :
    Reading (Element UnitText) := do
  let fields ← readTable value? path
  let kindName ← readText (fields.get? "kind") (path ++ ".kind")
  let name ← readText (fields.get? "name") (path ++ ".name")
  match ElementKind.ofName? kindName with
  | none => return .unsupported name kindName
  | some kind =>
      let description ←
        readText? (fields.get? "description") (path ++ ".description")
      match kind with
      | .constant => return .constant name description
      | .variable => return .variable name description
      | .function =>
          let parameters ←
            readParameters (fields.get? "parameters") (path ++ ".parameters")
          let returns ← readParameters (fields.get? "returns") (path ++ ".returns")
          return .function name description parameters returns
      | .classType =>
          let members ← readTableOf readText (fields.get? "fields") (path ++ ".fields")
          let global ← readFlag? (fields.get? "global") (path ++ ".global")
          let operators ←
            readTableOf readOperator (fields.get? "operators") (path ++ ".operators")
          return .classType name members (global.getD false) operators
      | .alias =>
          let definition ←
            readText (fields.get? "definition") (path ++ ".definition")
          return .alias name definition

/-- Elements that are missing are none. -/
def elementsField (fields : Fields) : Option Value :=
  some ((fields.get? "elements").getD (.array []))

def readModule (value? : Option Value) (path : String) :
    Reading (ApiModule UnitText) := do
  let fields ← readTable value? path
  let elements ← readArray (elementsField fields) (path ++ ".elements")
  let space ← readText? (fields.get? "namespace") (path ++ ".namespace")
  let brief ← readText? (fields.get? "brief") (path ++ ".brief")
  let description ← readText? (fields.get? "description") (path ++ ".description")
  return {
    space := space.getD (Form.ofText "")
    brief := brief.getD (Form.ofText "")
    description := description.getD (Form.ofText "")
    elements := ← readFrom readElement (path ++ ".elements") 0 elements }

def readDocument (value : Value) : Reading (List (ApiModule UnitText)) := do
  let fields ← readTable (some value) "<root>"
  match fields.get? "modules" with
  | none => return []
  | modules? => readItems readModule modules? "modules"

def valueOf? (content : String) : Format → Option Value
  | .toml => (Document.Toml.parse? content).map (Document.Value.map Form.ofText)
  | .json => Document.Json.parse? content

/-- The modules of a document, with their texts as they stand there. -/
def parseUnits (format : Format) (content : String) : Reading (List (ApiModule UnitText)) :=
  match valueOf? content format with
  | none => .error (.malformed format)
  | some value => readDocument value

/-- The modules of a document, to be rendered. -/
def parse (format : Format) (content : String) : Reading (List ApiModule) :=
  List.map (ApiModule.map Form.toText) <$> parseUnits format content

end ApiModule
end ApiStubs
