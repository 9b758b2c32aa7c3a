import ChatGateway.Binary64
import ChatGateway.Json.Basic

/-!
# Records in documents

A record is written as an object with one member per field, or as an array of its fields in
declared order. `Fields.ofJson?` accepts both: an object must not repeat a declared key, and in
JSON an array must not be longer than the declaration. The rest of the module reads single fields.
-/

namespace ChatGateway.Json

/-- The documents that values are read from differ in what stands for nothing, and in whether an
array may have items that nobody asks for. -/
inductive Dialect where
  | json
  | toml
deriving DecidableEq, Repr

/-- The fields of a record that is being read, by name. -/
abbrev Fields := String → Option Json

/-- What becomes of keys that a record does not declare. -/
inductive Extra where
  | ignored
  | refused
deriving DecidableEq, Repr

/-- No declared key is given twice. -/
def declaredOnce (names : List String) (members : List (String × Json)) : Bool :=
  names.all fun name => (valuesOf members name).length ≤ 1

/-- The fields of a record that declares `names`. -/
def Fields.ofJson? (dialect : Dialect) (names : List String) (extra : Extra) :
    Json → Option Fields
  | .obj members =>
    if declaredOnce names members ∧ (extra = .refused → members.all fun m => m.1 ∈ names) then
      some fun name => if name ∈ names then (valuesOf members name).head? else none
    else none
  | .arr items =>
    if dialect = .toml ∨ items.length ≤ names.length then
      some fun name => if name ∈ names then items[names.idxOf name]? else none
    else none
  | _ => none

namespace Fields

/-- A field that has to be there. -/
def required {α : Type} (f : Fields) (name : String) (read : Json → Option α) : Option α :=
  (f name).bind read

/-- A field with a value for when it is not there. -/
def orElse {α : Type} (f : Fields) (name : String) (default : α) (read : Json → Option α) :
    Option α :=
  match f name with
  | none => some default
  | some j => read j

/-- A field that may be left out or null. -/
def optional {α : Type} (f : Fields) (name : String) (read : Json → Option α) :
    Option (Option α) :=
  match f name with
  | none => some none
  | some .null => some none
  | some j => (read j).map some

end Fields

/-! ## Single values -/

def asString? : Json → Option String
  | .str s => some s
  | _ => none

def asBool? : Json → Option Bool
  | .bool b => some b
  | _ => none

/-- A number, whole or not. -/
def asFloat? : Json → Option Float
  | .int n => some (Binary64.ofWhole n)
  | .real x => some x
  | _ => none

/-- A whole number from `low` to `high`. -/
def asIntIn? (low high : Int) : Json → Option Int
  | .int n => if low ≤ n ∧ n ≤ high then some n else none
  | _ => none

def asUInt32? (j : Json) : Option UInt32 :=
  (asIntIn? 0 0xFFFFFFFF j).map fun n => UInt32.ofNat n.toNat

def asUInt64? (j : Json) : Option UInt64 :=
  (asIntIn? 0 0xFFFFFFFFFFFFFFFF j).map fun n => UInt64.ofNat n.toNat

def asInt32? (j : Json) : Option Int32 := (asIntIn? (-0x80000000) 0x7FFFFFFF j).map Int32.ofInt

/-- All items of an array. -/
def asList? {α : Type} (read : Json → Option α) : Json → Option (List α)
  | .arr items => items.mapM read
  | _ => none

/-- Whether a value says nothing: null, or where there is no null an empty array or table. -/
def isUnit : Dialect → Json → Bool
  | .json, .null => true
  | .toml, .arr [] => true
  | .toml, .obj [] => true
  | _, _ => false

/-- One of a set of names: written as a string, or as the key of an object that says nothing
more. -/
def asName? {α : Type} (dialect : Dialect) (ofName? : String → Option α) : Json → Option α
  | .str s => ofName? s
  | .obj [(s, payload)] => if isUnit dialect payload then ofName? s else none
  | _ => none

end ChatGateway.Json
