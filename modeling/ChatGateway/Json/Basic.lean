/-!
# Document values

`Json` is the value of a JSON document, and of a configuration document once its dates have been
given a text. Objects keep their members in the order in which they are written, repetitions
included, since a reader of records has to see a repeated key.
-/

namespace ChatGateway

/-- A document value. -/
inductive Json where
  | null
  | bool (value : Bool)
  /-- A number written without fraction and exponent, within the 64-bit integers. -/
  | int (value : Int)
  | real (value : Float)
  | str (value : String)
  | arr (items : List Json)
  | obj (members : List (String × Json))
  /-- A well-formed text that stands for no value: a number beyond the doubles, a string with half
  of a surrogate pair, a nesting too deep to follow. It can be passed over but not read. -/
  | unusable
deriving Inhabited

namespace Json

/-- The deepest nesting of arrays and objects that a reader follows. -/
def maxDepth : Nat := 127

/-- A double as a value: what is not finite is null. -/
def ofFloat (x : Float) : Json := if x.isFinite then .real x else .null

/-- Every value that the members give to a key, in order. -/
def valuesOf (members : List (String × Json)) (key : String) : List Json :=
  (members.filter fun m => m.1 = key).map (·.2)

/-- The value that an object gives to a key last. -/
def get? : Json → String → Option Json
  | .obj members, key => (valuesOf members key).getLast?
  | _, _ => none

mutual

/-- Whether every part of the value can be read. -/
def usable : Json → Bool
  | .unusable => false
  | .arr items => allUsable items
  | .obj members => allMembersUsable members
  | _ => true

def allUsable : List Json → Bool
  | [] => true
  | j :: rest => j.usable && allUsable rest

def allMembersUsable : List (String × Json) → Bool
  | [] => true
  | (_, j) :: rest => j.usable && allMembersUsable rest

end

mutual

/-- The value as a free-form parameter keeps it: a number that is no decimal is null, and the last
of the values given to a key counts. None when a part cannot be read. -/
def settle : Json → Option Json
  | .unusable => none
  | .real x => some (.ofFloat x)
  | .arr items => (settleAll items).map .arr
  | .obj members => (settleMembers members).map .obj
  | j => some j

def settleAll : List Json → Option (List Json)
  | [] => some []
  | j :: rest =>
    match settle j, settleAll rest with
    | some j, some rest => some (j :: rest)
    | _, _ => none

def settleMembers : List (String × Json) → Option (List (String × Json))
  | [] => some []
  | (key, j) :: rest =>
    match settle j, settleMembers rest with
    | some j, some rest =>
      some (if rest.any fun m => m.1 = key then rest else (key, j) :: rest)
    | _, _ => none

end

end Json

end ChatGateway
