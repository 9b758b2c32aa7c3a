/-!
# Lines

A text as the list of its lines. A line ends with a line feed, with or without a carriage return
before it; neither belongs to the line. The last line need not end.
-/

namespace ChatGateway.Text

/-- A line read backwards, without the carriage return that was part of its end. -/
def dropReturn : List Char → List Char
  | '\r' :: rest => rest
  | line => line

/-- The lines of a text whose first line has already begun, with the characters of that line
newest first. -/
def linesFrom (begun : List Char) : List Char → List (List Char)
  | [] => if begun.isEmpty then [] else [begun.reverse]
  | c :: rest =>
    if c = '\n' then (dropReturn begun).reverse :: linesFrom [] rest
    else linesFrom (c :: begun) rest

/-- The lines of a text. -/
def lines (text : List Char) : List (List Char) := linesFrom [] text

/-- The lines put back together, with a line feed between two of them. -/
def joinLines (ls : List (List Char)) : List Char := ['\n'].intercalate ls

end ChatGateway.Text
