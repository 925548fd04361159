import ApiStubs.Document.Value
import ApiStubs.Table

/-!
# The tree of a TOML document while it is read

A table that a header has named is declared; it takes no second header and no
dotted key from outside.  A dotted key and the inner keys of a header make
undeclared tables.  Values, with the arrays and tables written inline, are
closed.

Some names stand for a function in every table, and a few more in every function.
A header or a dotted key that goes through such a name, where there is no entry of
its own for it, reaches the function: it takes entries, which are not kept, and is
closed for all else.  Every function has some entries from the start.
-/

namespace ApiStubs
namespace Document
namespace Toml

inductive Node where
  | closed (value : Value)
  | table (declared : Bool) (entries : List (String × Node))
  | tables (items : List (List (String × Node)))
  | function (entries : List (String × Node))

abbrev Entries := List (String × Node)

def Entries.replace (key : String) (node : Node) : Entries → Entries
  | [] => [(key, node)]
  | (other, old) :: rest =>
      if other = key then (key, node) :: rest
      else (other, old) :: Entries.replace key node rest

/-- The names that stand for a function in every table. -/
def tableFunctions : List String := [
  "constructor", "hasOwnProperty", "isPrototypeOf", "propertyIsEnumerable",
  "toLocaleString", "toString", "valueOf", "__defineGetter__", "__defineSetter__",
  "__lookupGetter__", "__lookupSetter__"]

/-- The key stands for a function in a function, or in a table. -/
def namesFunction (inFunction : Bool) (key : String) : Bool :=
  tableFunctions.contains key ||
    (inFunction && ["apply", "bind", "call"].contains key)

/-- The names of the entries that a function has from the start. -/
def takenNames (inFunction : Bool) (key : String) : List String :=
  ["length", "name", "arguments", "caller"] ++
    if key = "constructor" then
      "prototype" :: if inFunction then [] else [
        "assign", "create", "defineProperties", "defineProperty", "entries", "freeze",
        "fromEntries", "getOwnPropertyDescriptor", "getOwnPropertyDescriptors",
        "getOwnPropertyNames", "getOwnPropertySymbols", "getPrototypeOf", "groupBy",
        "hasOwn", "is", "isExtensible", "isFrozen", "isSealed", "keys",
        "preventExtensions", "seal", "setPrototypeOf", "values"]
    else []

/-- The function of a name, as it is when it is first reached. -/
def functionEntries (inFunction : Bool) (key : String) : Entries :=
  (takenNames inFunction key).map (fun name => (name, .closed .function))

/-- Changes the last table of a list of tables. -/
def changeLast (change : Entries → Option Entries) :
    List Entries → Option (List Entries)
  | [] => none
  | [last] => (change last).map ([·])
  | first :: rest => (changeLast change rest).map (first :: ·)

/-- Stores a value under a dotted key; no part of the key may be taken. -/
def assign (value : Value) : (inFunction : Bool) → List String → Entries → Option Entries
  | _, [], _ => none
  | _, [key], entries =>
      match entries.lookup key with
      | none => some (entries ++ [(key, .closed value)])
      | some _ => none
  | inFunction, key :: more, entries =>
      match entries.lookup key with
      | none =>
          if namesFunction inFunction key then do
            let inner ← assign value true more (functionEntries inFunction key)
            return entries ++ [(key, .function inner)]
          else do
            let inner ← assign value false more []
            return entries ++ [(key, .table false inner)]
      | some (.table false old) => do
          let inner ← assign value false more old
          return entries.replace key (.table false inner)
      | some _ => none

/-- Opens the table that a header names. -/
def openTable : List String → Entries → Option Entries
  | [], _ => none
  | [key], entries =>
      match entries.lookup key with
      | none =>
          if namesFunction false key then
            some (entries ++ [(key, .function (functionEntries false key))])
          else some (entries ++ [(key, .table true [])])
      | some (.table false old) => some (entries.replace key (.table true old))
      | some _ => none
  | key :: more, entries =>
      match entries.lookup key with
      | none => do
          let inner ← openTable more []
          return entries ++ [(key, .table false inner)]
      | some (.table declared old) => do
          let inner ← openTable more old
          return entries.replace key (.table declared inner)
      | some (.tables items) => do
          let items ← changeLast (openTable more) items
          return entries.replace key (.tables items)
      | some _ => none

/-- Adds a table to the list of tables that a header names. -/
def openItem : List String → Entries → Option Entries
  | [], _ => none
  | [key], entries =>
      match entries.lookup key with
      | none => some (entries ++ [(key, .tables [[]])])
      | some (.tables items) => some (entries.replace key (.tables (items ++ [[]])))
      | some _ => none
  | key :: more, entries =>
      match entries.lookup key with
      | none => do
          let inner ← openItem more []
          return entries ++ [(key, .table false inner)]
      | some (.table declared old) => do
          let inner ← openItem more old
          return entries.replace key (.table declared inner)
      | some (.tables items) => do
          let items ← changeLast (openItem more) items
          return entries.replace key (.tables items)
      | some _ => none

/-- Changes the table or the function that the last header has opened. -/
def changeAt (change : (inFunction : Bool) → Entries → Option Entries) :
    List String → Entries → Option Entries
  | [], entries => change false entries
  | key :: more, entries =>
      match entries.lookup key with
      | some (.table declared old) => do
          let inner ← changeAt change more old
          return entries.replace key (.table declared inner)
      | some (.tables items) => do
          let items ← changeLast (changeAt change more) items
          return entries.replace key (.tables items)
      | some (.function old) => do
          let inner ← change true old
          return entries.replace key (.function inner)
      | _ => none

mutual

def Node.toValue : Node → Value
  | .closed value => value
  | .table _ entries => .table (Table.ofList (entryValues entries)).entries
  | .tables items => .array (itemValues items)
  | .function _ => .function

def entryValues : List (String × Node) → List (String × Value)
  | [] => []
  | (key, node) :: rest => (key, node.toValue) :: entryValues rest

def itemValues : List (List (String × Node)) → List Value
  | [] => []
  | item :: rest =>
      .table (Table.ofList (entryValues item)).entries :: itemValues rest

end

end Toml
end Document
end ApiStubs
