import TemplateDeps.Toml.Value

/-!
# Adding to tables

A document is built up by its statements. A path of keys leads from a table to another one; tables that
are missing on the way are made. What is there already limits where a path may go and what may be added
at its end:

* a table between braces is finished, and nothing is added to it or below it;
* a dotted key does not reach through a table with a header of its own;
* an array with headed elements stands for its last element, and any other array ends the path;
* a header may open a table that was only implied by other headers, but no other existing value;
* a dotted key adds to tables made by dotted keys, a plain key to those with a header.
-/

namespace TemplateDeps.Toml

/-- The value at a key. -/
def lookup (key : String) (entries : Entries) : Option Value :=
  (entries.find? (·.1 = key)).map (·.2)

/-- Put another value at a key. -/
def replace (key : String) (value : Value) (entries : Entries) : Entries :=
  entries.map fun e => if e.1 = key then (key, value) else e

/-- A change of the entries of a table, given its origin, unless it is not allowed. -/
abbrev Change := Origin → Entries → Option Entries

/-- Follow a path from a table and apply a change at its end. `dotted` says that the path belongs to a
dotted key. -/
def descend (dotted : Bool) : (path : List String) → Change → Change
  | [], change => change
  | key :: path, change => fun _ entries =>
    match lookup key entries with
    | none => do
      let origin := if dotted then .dotted else .implied
      let child ← descend dotted path change origin []
      some (entries ++ [(key, .table origin child)])
    | some (.table origin child) =>
      if origin = .inline ∨ (dotted = true ∧ origin = .header) then none
      else do
        let child ← descend dotted path change origin child
        some (replace key (.table origin child) entries)
    | some (.array true rows) =>
      match rows.getLast? with
      | some (.table origin child) => do
        let child ← descend dotted path change origin child
        some (replace key (.array true (rows.dropLast ++ [.table origin child])) entries)
      | _ => none
    | some _ => none

/-- Open the table `key` for a header. -/
def openTable (key : String) : Change := fun _ entries =>
  match lookup key entries with
  | none => some (entries ++ [(key, .table .header [])])
  | some (.table .implied child) => some (replace key (.table .header child) entries)
  | some _ => none

/-- Open a further element of the array `key` for a header in double brackets. -/
def openRow (key : String) : Change := fun _ entries =>
  match lookup key entries with
  | none => some (entries ++ [(key, .array true [.table .header []])])
  | some (.array true rows) =>
    some (replace key (.array true (rows ++ [.table .header []])) entries)
  | some _ => none

/-- Add a value at a key that is not there yet. -/
def addValue (dotted : Bool) (key : String) (value : Value) : Change := fun origin entries =>
  if origin = .dotted ↔ dotted = true then
    match lookup key entries with
    | none => some (entries ++ [(key, value)])
    | some _ => none
  else none

/-- Add a value at the end of a path of keys. -/
def assign (path : List String) (value : Value) : Change :=
  match path.getLast? with
  | none => fun _ _ => none
  | some key =>
    let dotted := path.length > 1
    descend dotted path.dropLast (addValue dotted key value)

end TemplateDeps.Toml
