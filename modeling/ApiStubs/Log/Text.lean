import ApiStubs.Decimal.Binary64
import ApiStubs.Log
import ApiStubs.Text.Search

/-!
# The text of log entries

An entry is written as one line of JSON.  Numbers are written in double precision.
-/

namespace ApiStubs
namespace Log

def hexDigit (n : Nat) : Char :=
  if n < 10 then Char.ofNat ('0'.toNat + n) else Char.ofNat ('a'.toNat + n - 10)

def escapeChar (c : Char) : List Char :=
  if c = '"' then ['\\', '"']
  else if c = '\\' then ['\\', '\\']
  else if c = '\n' then ['\\', 'n']
  else if c = '\r' then ['\\', 'r']
  else if c = '\t' then ['\\', 't']
  else if c.toNat = 8 then ['\\', 'b']
  else if c.toNat = 12 then ['\\', 'f']
  else if c.toNat < 0x20 then
    ['\\', 'u', '0', '0', hexDigit (c.toNat / 16), hexDigit (c.toNat % 16)]
  else [c]

def quoted (text : String) : String :=
  "\"" ++ String.ofList (text.toList.flatMap escapeChar) ++ "\""

def fieldText (name value : String) : String :=
  quoted name ++ ":" ++ value

def objectText (fields : List String) : String :=
  "\x7b" ++ Text.joinWith "," fields ++ "\x7d"

/-- A number in double precision, with as few digits as name it; too large a one is absent. -/
def numberText (mantissa : Int) (places : Nat) : String :=
  match Binary64.nearest? mantissa.natAbs (Decimal.tenTo places) with
  | none => "null"
  | some 0 => "0"
  | some units => (if mantissa < 0 then "-" else "") ++ (Binary64.shortest units).text

mutual

def Datum.render : Datum → String
  | .null => "null"
  | .boolean true => "true"
  | .boolean false => "false"
  | .number mantissa places => numberText mantissa places
  | .bigInteger => "null"
  | .text content => quoted content
  | .list items => "[" ++ Text.joinWith "," (itemTexts items) ++ "]"
  | .fields entries => objectText (entryTexts entries)

def itemTexts : List Datum → List String
  | [] => []
  | item :: rest => item.render :: itemTexts rest

def entryTexts : List (String × Datum) → List String
  | [] => []
  | (name, value) :: rest => fieldText name value.render :: entryTexts rest

end

def Payload.fields : Payload → List String
  | none => []
  | data value => [fieldText "data" value.render]
  | unserializable => [
      fieldText "serializationError" (quoted unserializableReason),
      fieldText "originalData" (quoted unserializableNotice)]

def Entry.render (entry : Entry) : String :=
  objectText ([
    fieldText "level" (quoted entry.level.name),
    fieldText "component" (quoted entry.component),
    fieldText "event" (quoted entry.event)] ++ entry.payload.fields)

end Log
end ApiStubs
