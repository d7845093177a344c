/-!
# TOML tables

A table gives values to keys. It grows by the statements of a text, and how a table came about
decides what may still be added to it: a header opens a table once, a dotted key adds only to
tables that dotted keys made, and a table between braces is finished when it is closed.
-/
namespace EnclaveChain.Toml

/-- How a table came about. -/
inductive Origin where
  /-- A header of its own opened it. -/
  | opened
  /-- It lies on the way to a table that a header opened. -/
  | implied
  /-- It lies on the way of a dotted key. -/
  | dotted
deriving DecidableEq, Repr

/-- A value. What answers never depend on is left out: of a real number and of a date and time
only that it is one. -/
inductive Value where
  /-- A string. -/
  | string (text : String)
  /-- An integer of 64 bits. -/
  | integer (value : Int)
  /-- A real number. -/
  | real
  /-- A truth value. -/
  | boolean (value : Bool)
  /-- A date, a time, or both. -/
  | moment
  /-- An array between brackets. -/
  | array (items : List Value)
  /-- A table between braces. -/
  | inline (entries : List (String × Value))
  /-- A table that statements add to. -/
  | table (origin : Origin) (entries : List (String × Value))
  /-- Tables opened one after the other by one header; statements add to the last. -/
  | tables (elements : List (List (String × Value)))

/-- Keys with their values, each key once. -/
abbrev Entries := List (String × Value)

namespace Entries

/-- The value of a key. -/
def get? (entries : Entries) (key : String) : Option Value :=
  (entries.find? fun entry => entry.1 = key).map (·.2)

/-- Gives a value to a key that has none. -/
def add (entries : Entries) (key : String) (value : Value) : Option Entries :=
  match entries.get? key with
  | none => some (entries ++ [(key, value)])
  | some _ => none

/-- Gives another value to a key. -/
def replace (entries : Entries) (key : String) (value : Value) : Entries :=
  entries.map fun entry => if entry.1 = key then (key, value) else entry

/-- Changes the last of some tables. -/
def changeLast (change : Entries → Option Entries) : List Entries → Option (List Entries)
  | [] => none
  | [last] => (change last).map ([·])
  | first :: second :: others => (changeLast change (second :: others)).map (first :: ·)

/-- Gives a value to a dotted key. The table that the value goes into must have been made by a
dotted key, unless the key has one part. -/
def put : List String → Value → Entries → Option Entries
  | [], _, _ => none
  | [key], value, entries => entries.add key value
  | step :: next :: steps, value, entries =>
    match entries.get? step with
    | none => (put (next :: steps) value []).bind fun inner =>
      entries.add step (.table .dotted inner)
    | some (.table .opened _) => none
    | some (.table origin inner) =>
      if steps = [] ∧ origin ≠ .dotted then none
      else (put (next :: steps) value inner).map fun inner =>
        entries.replace step (.table origin inner)
    | some (.tables elements) =>
      if steps = [] then none
      else (changeLast (put (next :: steps) value) elements).map fun elements =>
        entries.replace step (.tables elements)
    | some _ => none

/-- Changes the table that the steps of a header lead to, making those that are missing. -/
def change (change : Entries → Option Entries) : List String → Entries → Option Entries
  | [], entries => change entries
  | step :: steps, entries =>
    match entries.get? step with
    | none => (Entries.change change steps []).bind fun inner =>
      entries.add step (.table .implied inner)
    | some (.table origin inner) => (Entries.change change steps inner).map fun inner =>
      entries.replace step (.table origin inner)
    | some (.tables elements) => (changeLast (Entries.change change steps) elements).map
      fun elements => entries.replace step (.tables elements)
    | some _ => none

/-- Opens the table of a key: a new one, or one that a header implied. -/
def openTable (key : String) (entries : Entries) : Option Entries :=
  match entries.get? key with
  | none => entries.add key (.table .opened [])
  | some (.table .implied inner) => some (entries.replace key (.table .opened inner))
  | some _ => none

/-- Opens one more table of a key that has a list of them. -/
def openElement (key : String) (entries : Entries) : Option Entries :=
  match entries.get? key with
  | none => entries.add key (.tables [[]])
  | some (.tables elements) => some (entries.replace key (.tables (elements ++ [[]])))
  | some _ => none

end Entries

end EnclaveChain.Toml
