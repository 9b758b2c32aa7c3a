import ChatGateway.Text.Quoted

/-!
# Listings

How lists, options and truth values stand in descriptions.
-/

namespace ChatGateway.Text

/-- Texts between brackets, with commas between them. -/
def listing (items : List String) : String := "[" ++ ", ".intercalate items ++ "]"

/-- A list of names, each in quotes. -/
def quotedList (names : List String) : String := listing (names.map quoted)

/-- A name that may be missing. -/
def quotedOption : Option String → String
  | none => "None"
  | some name => "Some(" ++ quoted name ++ ")"

/-- A truth value. -/
def truth (b : Bool) : String := if b then "true" else "false"

/-- A field of a record. -/
def field (f : String × String) : String := f.1 ++ ": " ++ f.2

/-- A record with its parts in braces. -/
def braced (name : String) (parts : List String) : String :=
  name ++ " \x7b " ++ ", ".intercalate parts ++ " \x7d"

/-- A record with all its fields. -/
def record (name : String) (fields : List (String × String)) : String :=
  braced name (fields.map field)

/-- A record with some of its fields, which ends in two points. -/
def openRecord (name : String) (fields : List (String × String)) : String :=
  braced name (fields.map field ++ [".."])

end ChatGateway.Text
