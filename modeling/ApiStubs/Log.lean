/-!
# Log entries

An entry has a level, a component, the name of an event and data.  Entries of
the lowest level are written only while debugging.  Data that holds an integer
too large for the log is replaced by a notice.
-/

namespace ApiStubs
namespace Log

inductive Level where
  | debug
  | info
  | warn
  | error
  deriving DecidableEq, Repr

def Level.name : Level → String
  | debug => "debug"
  | info => "info"
  | warn => "warn"
  | error => "error"

/-- A number is `mantissa` shifted by `places` decimal places. -/
inductive Datum where
  | null
  | boolean (truth : Bool)
  | number (mantissa : Int) (places : Nat)
  | bigInteger
  | text (content : String)
  | list (items : List Datum)
  | fields (entries : List (String × Datum))
  deriving Inhabited, Repr

namespace Datum

def count (n : Nat) : Datum :=
  .number n 0

mutual

def holdsBigInteger : Datum → Bool
  | .bigInteger => true
  | .list items => anyHoldsBigInteger items
  | .fields entries => anyFieldHoldsBigInteger entries
  | _ => false

def anyHoldsBigInteger : List Datum → Bool
  | [] => false
  | item :: rest => item.holdsBigInteger || anyHoldsBigInteger rest

def anyFieldHoldsBigInteger : List (String × Datum) → Bool
  | [] => false
  | (_, value) :: rest => value.holdsBigInteger || anyFieldHoldsBigInteger rest

end

end Datum

structure Message where
  level : Level
  event : String
  data : Option Datum := none
  deriving Repr

inductive Payload where
  | none
  | data (value : Datum)
  | unserializable
  deriving Repr

structure Entry where
  level : Level
  component : String
  event : String
  payload : Payload
  deriving Repr

def unserializableReason : String := "Do not know how to serialize a BigInt"

def unserializableNotice : String := "[unserializable]"

structure Logger where
  component : String
  debugging : Bool := false
  deriving DecidableEq, Repr

namespace Logger

def writes (logger : Logger) (message : Message) : Bool :=
  logger.debugging || message.level != .debug

def entryOf (logger : Logger) (message : Message) : Entry where
  level := message.level
  component := logger.component
  event := message.event
  payload :=
    match message.data with
    | .none => .none
    | .some value => if value.holdsBigInteger then .unserializable else .data value

/-- The entries that a logger writes for messages. -/
def entries (logger : Logger) (messages : List Message) : List Entry :=
  (messages.filter logger.writes).map logger.entryOf

end Logger
end Log
end ApiStubs
