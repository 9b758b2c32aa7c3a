import ChatGateway.Toml.Scalar
import ChatGateway.Toml.Table

/-!
# Reading TOML

A document is a sequence of statements: headers that open a table, and keys with a value for the
table that was opened last. `Toml.ofText?` is the value of the whole document, none if it is not
well-formed or defines something twice. Arrays and tables written as values may be nested up to a
fixed depth, by which the reader of values recurs, and a key has no more parts than that.
-/

namespace ChatGateway.Toml

/-- How deep values may be nested, and how many parts a key may have. -/
def maxDepth : Nat := 80

/-! ## Gaps -/

def dropBlank (cs : List Char) : List Char := cs.dropWhile isBlank

/-- The rest of a line after an optional comment: nothing, or a line break and what follows. -/
def lineEnd? (cs : List Char) : Option (List Char) :=
  let cs := dropBlank cs
  let rest := match cs with
    | '#' :: comment => comment.dropWhile isPlain
    | cs => cs
  match rest with
  | [] => some []
  | '\n' :: rest => some rest
  | '\r' :: '\n' :: rest => some rest
  | _ => none

/-- What follows any number of blanks, line breaks and comments, none if a comment holds a
character that it must not hold. -/
def dropGaps : Nat → List Char → Option (List Char)
  | 0, _ => none
  | fuel + 1, cs =>
    match dropBlank cs with
    | '\n' :: rest => dropGaps fuel rest
    | '\r' :: '\n' :: rest => dropGaps fuel rest
    | '#' :: rest =>
      match lineEnd? ('#' :: rest) with
      | some rest => dropGaps fuel rest
      | none => none
    | cs => some cs

/-! ## Keys -/

/-- The characters of a key without quotes. -/
def isBare (c : Char) : Bool := c.isAlphanum || c = '_' || c = '-'

/-- A key without dots. -/
def simpleKey (cs : List Char) : Read String :=
  let bare := cs.takeWhile isBare
  if bare = [] then lineQuotation cs else some (String.ofList bare, cs.dropWhile isBare)

/-- A key with no more than so many parts, as its parts between the dots. -/
def keyParts : Nat → List Char → Read (List String)
  | 0, _ => none
  | count + 1, cs =>
    match simpleKey (dropBlank cs) with
    | none => none
    | some (key, cs) =>
      match dropBlank cs with
      | '.' :: cs => (keyParts count cs).map fun r => (key :: r.1, r.2)
      | cs => some ([key], cs)

/-- A key, as its parts between the dots. -/
def dottedKey (cs : List Char) : Read (List String) := keyParts maxDepth cs

/-- A key and the sign that its value follows. -/
def keyAndSign (cs : List Char) : Read (List String) :=
  match dottedKey cs with
  | some (key, '=' :: cs) => some (key, dropBlank cs)
  | _ => none

/-- A key and the sign that its value follows, with gaps of any kind around the sign. -/
def looseKeyAndSign (cs : List Char) : Read (List String) :=
  match dottedKey cs with
  | none => none
  | some (key, cs) =>
    match dropGaps (cs.length + 1) cs with
    | some ('=' :: cs) => (dropGaps (cs.length + 1) cs).map (key, ·)
    | _ => none

/-! ## Values -/

/-- The characters of a word. -/
def isWordChar (c : Char) : Bool :=
  c.isAlphanum || c = '_' || c = '-' || c = '+' || c = '.' || c = ':'

/-- Whether a word has the form of a date. -/
def isDateWord (word : List Char) : Bool :=
  match date word with
  | some (_, []) => true
  | _ => false

/-- A value without quotes. A date may be followed by a blank and a time. -/
def scalar (cs : List Char) : Read Json :=
  let word := cs.takeWhile isWordChar
  let rest := cs.dropWhile isWordChar
  match isDateWord word, rest with
  | true, ' ' :: c :: rest' =>
    if c.isDigit then
      (scalar? (word ++ ' ' :: (c :: rest').takeWhile isWordChar)).map
        fun j => (j, (c :: rest').dropWhile isWordChar)
    else (scalar? word).map fun j => (j, rest)
  | _, _ => (scalar? word).map fun j => (j, rest)

/-- The items of an array up to its closing bracket. A comma may follow the last one. -/
def items (item : List Char → Read Json) : Nat → List Char → Read (List Json)
  | 0, _ => none
  | fuel + 1, cs =>
    match dropGaps (cs.length + 1) cs with
    | none => none
    | some (']' :: rest) => some ([], rest)
    | some cs =>
      match item cs with
      | none => none
      | some (j, cs) =>
        match dropGaps (cs.length + 1) cs with
        | some (',' :: rest) => (items item fuel rest).map fun r => (j :: r.1, r.2)
        | some (']' :: rest) => some ([j], rest)
        | _ => none

/-- The members of a table written as a value, up to its closing brace. A comma may follow the last
one. -/
def members (item : List Char → Read Json) : Nat → Entries → List Char → Read Entries
  | 0, _, _ => none
  | fuel + 1, es, cs =>
    match dropGaps (cs.length + 1) cs with
    | none => none
    | some ('\x7d' :: rest) => some (es, rest)
    | some cs =>
      match looseKeyAndSign cs with
      | none => none
      | some (key, cs) =>
        match item cs with
        | none => none
        | some (j, cs) =>
          match es.assign j key, dropGaps (cs.length + 1) cs with
          | some es, some (',' :: rest) => members item fuel es rest
          | some es, some ('\x7d' :: rest) => some (es, rest)
          | _, _ => none

/-- A table written as a value, after its opening brace. -/
def inlineTable (item : List Char → Read Json) (cs : List Char) : Read Json :=
  (members item (cs.length + 1) [] cs).map fun r => (.obj (entriesToJson r.1), r.2)

/-- A value that is nested no deeper than so much. -/
def value : Nat → List Char → Read Json
  | 0, cs =>
    match cs with
    | '[' :: _ => none
    | '\x7b' :: _ => none
    | '"' :: rest => (quotation ('"' :: rest)).map fun r => (.str r.1, r.2)
    | '\'' :: rest => (quotation ('\'' :: rest)).map fun r => (.str r.1, r.2)
    | cs => scalar cs
  | depth + 1, cs =>
    match cs with
    | '[' :: rest => (items (value depth) (rest.length + 1) rest).map fun r => (.arr r.1, r.2)
    | '\x7b' :: rest => inlineTable (value depth) rest
    | '"' :: rest => (quotation ('"' :: rest)).map fun r => (.str r.1, r.2)
    | '\'' :: rest => (quotation ('\'' :: rest)).map fun r => (.str r.1, r.2)
    | cs => scalar cs

/-! ## Documents -/

/-- A document of which some statements were read: all entries, and the path of the table that was
opened last. -/
structure Document where
  entries : Entries := []
  path : List String := []

/-- The document with the table at a path opened. -/
def Document.openTable (d : Document) (path : List String) : Option Document :=
  match path.getLast? with
  | none => none
  | some key =>
    (d.entries.change (Entries.openTable key) path.dropLast).map fun es => ⟨es, path⟩

/-- The document with one more table in the array at a path. -/
def Document.openElement (d : Document) (path : List String) : Option Document :=
  match path.getLast? with
  | none => none
  | some key =>
    (d.entries.change (Entries.openElement key) path.dropLast).map fun es => ⟨es, path⟩

/-- The document with a value in the table that was opened last. -/
def Document.assign (d : Document) (key : List String) (j : Json) : Option Document :=
  (d.entries.change (Entries.assign j key) d.path).map fun es => { d with entries := es }

/-- One statement that begins with these characters, without the end of its line. -/
def statement (d : Document) : List Char → Read Document
  | '[' :: '[' :: cs =>
    match dottedKey cs with
    | some (path, ']' :: ']' :: cs) => (d.openElement path).map fun d => (d, cs)
    | _ => none
  | '[' :: cs =>
    match dottedKey cs with
    | some (path, ']' :: cs) => (d.openTable path).map fun d => (d, cs)
    | _ => none
  | cs =>
    match keyAndSign cs with
    | none => none
    | some (key, cs) =>
      match value maxDepth cs with
      | none => none
      | some (j, cs) => (d.assign key j).map fun d => (d, cs)

/-- The document after all statements. -/
def statements : Nat → Document → List Char → Option Document
  | 0, _, _ => none
  | fuel + 1, d, cs =>
    match dropGaps (cs.length + 1) cs with
    | none => none
    | some [] => some d
    | some cs =>
      match statement d cs with
      | none => none
      | some (d, cs) =>
        match lineEnd? cs with
        | none => none
        | some cs => statements fuel d cs

/-- The characters of a text without a byte order mark in front. -/
def dropMark : List Char → List Char
  | '\ufeff' :: cs => cs
  | cs => cs

/-- The value of a document. -/
def ofText? (text : String) : Option Json :=
  let cs := dropMark text.toList
  (statements (cs.length + 1) {} cs).map fun d => .obj (entriesToJson d.entries)

end ChatGateway.Toml
