import ChatGateway.InsertionMap
import ChatGateway.Json.Basic

/-!
# Tables that are being filled

A TOML document fills a tree of tables. A table may be opened by a header, once; it may come into
being on the way to another table, and be opened later; or it may come into being through a key
with dots, which other such keys may extend. A table or array that is written as a value is closed
for good. The operations return none where the document would define something twice.
-/

namespace ChatGateway.Toml

/-- How a table came into being. -/
inductive TableKind where
  /-- By a header of its own. -/
  | opened
  /-- On the way to another table. -/
  | passed
  /-- By a key with dots. -/
  | dotted
deriving DecidableEq, Repr

/-- What stands under a key. -/
inductive Node where
  | value (value : Json)
  | table (kind : TableKind) (entries : List (String × Node))
  /-- An array of tables, each with its entries, oldest first. -/
  | tables (elements : List (List (String × Node)))

/-- The entries of a table. -/
abbrev Entries := InsertionMap Node

namespace Entries

/-- The entries with the table at a path changed. Tables on the way come into being if need be; of
an array of tables the last one is meant. -/
def change (f : Entries → Option Entries) : List String → Entries → Option Entries
  | [], es => f es
  | key :: path, es =>
    match InsertionMap.get? es key with
    | none => (change f path []).map fun inner => InsertionMap.put es key (.table .passed inner)
    | some (.table kind inner) =>
      (change f path inner).map fun inner => InsertionMap.put es key (.table kind inner)
    | some (.tables elements) =>
      (change f path (elements.getLast?.getD [])).map fun inner =>
        InsertionMap.put es key (.tables (elements.dropLast ++ [inner]))
    | some (.value _) => none

/-- The entries with a table opened under a key. -/
def openTable (key : String) (es : Entries) : Option Entries :=
  match InsertionMap.get? es key with
  | none => some (InsertionMap.put es key (.table .opened []))
  | some (.table .passed inner) => some (InsertionMap.put es key (.table .opened inner))
  | some _ => none

/-- The entries with one more table in the array under a key. -/
def openElement (key : String) (es : Entries) : Option Entries :=
  match InsertionMap.get? es key with
  | none => some (InsertionMap.put es key (.tables [[]]))
  | some (.tables elements) => some (InsertionMap.put es key (.tables (elements ++ [[]])))
  | some _ => none

/-- The entries with a value under a key with dots. The table that receives it must have come into
being through such a key. -/
def assign (value : Json) : List String → Entries → Option Entries
  | [], _ => none
  | [key], es =>
    if (InsertionMap.get? es key).isSome then none
    else some (InsertionMap.put es key (.value value))
  | key :: next :: path, es =>
    match InsertionMap.get? es key with
    | none =>
      (assign value (next :: path) []).map fun inner =>
        InsertionMap.put es key (.table .dotted inner)
    | some (.table .dotted inner) =>
      (assign value (next :: path) inner).map fun inner =>
        InsertionMap.put es key (.table .dotted inner)
    | some (.table .passed inner) =>
      if path.isEmpty then none
      else
        (assign value (next :: path) inner).map fun inner =>
          InsertionMap.put es key (.table .passed inner)
    | some (.tables elements) =>
      if path.isEmpty then none
      else
        (assign value (next :: path) (elements.getLast?.getD [])).map fun inner =>
          InsertionMap.put es key (.tables (elements.dropLast ++ [inner]))
    | some (.table .opened _) => none
    | some (.value _) => none

end Entries

mutual

/-- The value that a tree amounts to. -/
def Node.toJson : Node → Json
  | .value j => j
  | .table _ entries => .obj (entriesToJson entries)
  | .tables elements => .arr (elementsToJson elements)

def entriesToJson : List (String × Node) → List (String × Json)
  | [] => []
  | (key, node) :: rest => (key, node.toJson) :: entriesToJson rest

def elementsToJson : List (List (String × Node)) → List Json
  | [] => []
  | entries :: rest => .obj (entriesToJson entries) :: elementsToJson rest

end

end ChatGateway.Toml
