import ApiStubs.Text.Form

/-!
# Values of a document

What a TOML or JSON document can hold, with texts in one form.  Numbers carry no
amount, because no setting and no descriptor field is numeric; only their kind is
reported.  A date or time reads as a table with at most one mark.
-/

namespace ApiStubs
namespace Document

/-- Dates and times: a day, a time of day, a moment without and with a zone. -/
inductive Moment where
  | day
  | timeOfDay
  | floating
  | zoned
  deriving DecidableEq, Repr

/-- The only entry of a date or time that is read as a table. -/
def Moment.mark? : Moment → Option String
  | .day => some "isDate"
  | .timeOfDay => some "isTime"
  | .floating => some "isFloating"
  | .zoned => none

/-- The entries of a table stand in listing order. -/
inductive Value (τ : Type := String) where
  | null
  | boolean (truth : Bool)
  | number
  | bigInteger
  | text (content : τ)
  | moment (kind : Moment)
  /-- No document writes a function, but a path of keys can lead to one. -/
  | function
  | array (items : List (Value τ))
  | table (entries : List (τ × Value τ))
  deriving Repr

namespace Value

variable {σ τ : Type}

/-- The name of a value's kind in messages about descriptors. -/
def kindName : Value τ → String
  | null => "null"
  | boolean _ => "boolean"
  | number => "number"
  | bigInteger => "bigint"
  | text _ => "string"
  | moment _ => "object"
  | function => "function"
  | array _ => "array"
  | table _ => "object"

/-- Messages about settings do not tell arrays, tables and nothing apart. -/
def plainKindName : Value τ → String
  | null => "object"
  | array _ => "object"
  | value => value.kindName

/-- The entries of a value that can stand where a table is expected. -/
def entries? [Text.Form τ] : Value τ → Option (List (τ × Value τ))
  | table entries => some entries
  | moment kind =>
      some (kind.mark?.toList.map (fun mark => (Text.Form.ofText mark, boolean true)))
  | _ => none

def text? : Value τ → Option τ
  | text content => some content
  | _ => none

def boolean? : Value τ → Option Bool
  | boolean truth => some truth
  | _ => none

def items? : Value τ → Option (List (Value τ))
  | array items => some items
  | _ => none

mutual

/-- The value with its texts in another form. -/
def map (f : σ → τ) : Value σ → Value τ
  | null => null
  | boolean truth => boolean truth
  | number => number
  | bigInteger => bigInteger
  | text content => text (f content)
  | moment kind => moment kind
  | function => function
  | array items => array (mapItems f items)
  | table entries => table (mapEntries f entries)

def mapItems (f : σ → τ) : List (Value σ) → List (Value τ)
  | [] => []
  | item :: rest => item.map f :: mapItems f rest

def mapEntries (f : σ → τ) : List (σ × Value σ) → List (τ × Value τ)
  | [] => []
  | (name, value) :: rest => (f name, value.map f) :: mapEntries f rest

end

end Value
end Document
end ApiStubs
