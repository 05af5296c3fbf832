-- Stores: the variables of namespaces, by their dotted names. One keeps the values in memory;
-- a database keeps their texts, and reads them back whenever they are asked for.
import Watchtower.Fault
import Watchtower.Json.Doc
import Watchtower.Json.Writer
import Watchtower.Sorted

namespace Watchtower.Live

/-- What a store tells of a variable. -/
structure VariableEntry where
  name : String
  value : Json
  writable : Bool

/-- A database: rows with the text of each value, and the version of the tables. -/
structure Database where
  rows : List (String × String × Bool) := []
  version : Option String := none

/-- A store. The variables are sorted by name. -/
inductive Store where
  | memory (vars : List (String × Json × Bool))
  | database (data : Database)

namespace Store

/-- A stored text read as a value. -/
def readText (text : String) : Except Fault Json :=
  match Json.ofText text with
  | some value => .ok value
  | none => .error .encoding

/-- Enters a variable, unless there is one of this name. -/
def register (s : Store) (name : String) (value : Json) (writable : Bool) : Bool × Store :=
  match s with
  | .memory vars =>
    if (vars.lookup name).isSome then (false, s)
    else (true, .memory (Sorted.insert name (value, writable) vars))
  | .database data =>
    if (data.rows.lookup name).isSome then (false, s)
    else (true, .database { data with
      rows := Sorted.insert name (value.compact, writable) data.rows })

/-- The value of a variable. -/
def get (s : Store) (name : String) : Except Fault Json :=
  match s with
  | .memory vars =>
    match vars.lookup name with
    | some (value, _) => .ok value
    | none => .error (.unknownVariable name)
  | .database data =>
    match data.rows.lookup name with
    | some (text, _) => readText text
    | none => .error (.unknownVariable name)

/-- Writes a variable, and gives the value that it held. -/
def set (s : Store) (name : String) (value : Json) : Except Fault (Json × Store) :=
  match s with
  | .memory vars =>
    match vars.lookup name with
    | some (previous, writable) =>
      .ok (previous, .memory (Sorted.insert name (value, writable) vars))
    | none => .error (.unknownVariable name)
  | .database data =>
    match data.rows.lookup name with
    | some (text, writable) => do
      let previous ← readText text
      return (previous, .database { data with
        rows := Sorted.insert name (value.compact, writable) data.rows })
    | none => .error (.unknownVariable name)

/-- All variables, sorted by name. -/
def entries (s : Store) : Except Fault (List VariableEntry) :=
  match s with
  | .memory vars =>
    .ok (vars.map fun (name, value, writable) => ⟨name, value, writable⟩)
  | .database data => data.rows.mapM fun (name, text, writable) => do
    return ⟨name, ← readText text, writable⟩

/-- Enters some variables one after the other. -/
def registerAll (s : Store) (entries : List (String × Json × Bool)) : Store :=
  entries.foldl (fun s (name, value, writable) => (s.register name value writable).2) s

end Store

/-! ## Opening a database -/

namespace Database

/-- The version of the tables that this library reads and writes. -/
def currentVersion : Int := 1

/-- A number of decimal digits. -/
def digits? (cs : List Char) : Option Nat :=
  if cs.isEmpty || !cs.all Char.isDigit then none
  else some (cs.foldl (fun n c => n * 10 + (c.toNat - '0'.toNat)) 0)

/-- A version: decimal digits, perhaps with a sign, of a number of 32 bits. -/
def version? (text : String) : Option Int := do
  let n : Int ← match text.toList with
    | '-' :: cs => (digits? cs).map fun n => -(n : Int)
    | '+' :: cs => (digits? cs).map fun n => (n : Int)
    | cs => (digits? cs).map fun n => (n : Int)
  if -2147483648 ≤ n ∧ n ≤ 2147483647 then some n else none

/-- Opens a database. One without a version gets the current version; with another version it
is not opened. -/
def checked (d : Database) : Except Fault Database :=
  match d.version with
  | none => .ok { d with version := some (toString currentVersion) }
  | some text =>
    match version? text with
    | none => .error (.schema "store schema version is invalid")
    | some version =>
      if version = currentVersion then .ok d
      else .error (.schema ("store schema version mismatch: database has version "
        ++ toString version ++ ", expected " ++ toString currentVersion))

/-- Puts a text into a row that is there, whatever the text. -/
def overwrite (d : Database) (name text : String) : Database :=
  { d with rows := d.rows.map fun (key, old, writable) =>
      if key = name then (key, text, writable) else (key, old, writable) }

end Database

end Watchtower.Live
