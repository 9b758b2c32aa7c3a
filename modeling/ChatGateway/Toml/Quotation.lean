import ChatGateway.Json.Reader

/-!
# Strings in TOML

TOML has four kinds of string: with escapes or without, on one line or on several. Each reader
takes the characters after the opening quotes, and returns the text with the characters after the
closing quotes.
-/

namespace ChatGateway.Toml

/-- What a reader makes of the characters in front of it: a value and the characters after it. -/
abbrev Read (α : Type) := Option (α × List Char)

/-- Spaces and tabs. -/
def isBlank (c : Char) : Bool := c = ' ' || c = '\t'

/-- Characters that may stand in a string or a comment as they are: not the controls, of which only
the tab is allowed. -/
def isPlain (c : Char) : Bool := c = '\t' || (0x20 ≤ c.toNat && c.toNat ≠ 0x7F)

/-- The character with a code point given by hexadecimal digits. -/
def charOfHex? (digits : List Char) : Option Char :=
  match digits.mapM Json.hexValue? with
  | none => none
  | some ds =>
    let n := ds.foldl (fun n d => 16 * n + d) 0
    if n.isValidChar then some (Char.ofNat n) else none

/-- The character that a one-letter escape stands for. -/
def escapeOf? : Char → Option Char
  | 'b' => some '\x08'
  | 't' => some '\t'
  | 'n' => some '\n'
  | 'f' => some '\x0c'
  | 'r' => some '\r'
  | 'e' => some '\x1b'
  | '"' => some '"'
  | '\\' => some '\\'
  | _ => none

/-- The text, whose characters are given newest first, and the rest. -/
def finish (chars rest : List Char) : Read String := some (String.ofList chars.reverse, rest)

/-- A string with escapes on one line. -/
def basic (chars : List Char) : List Char → Read String
  | [] => none
  | '"' :: rest => finish chars rest
  | '\\' :: 'x' :: a :: b :: rest =>
    match charOfHex? [a, b] with
    | some x => basic (x :: chars) rest
    | none => none
  | '\\' :: 'u' :: a :: b :: c :: d :: rest =>
    match charOfHex? [a, b, c, d] with
    | some x => basic (x :: chars) rest
    | none => none
  | '\\' :: 'U' :: a :: b :: c :: d :: e :: f :: g :: h :: rest =>
    match charOfHex? [a, b, c, d, e, f, g, h] with
    | some x => basic (x :: chars) rest
    | none => none
  | '\\' :: e :: rest =>
    match escapeOf? e with
    | some x => basic (x :: chars) rest
    | none => none
  | c :: rest => if isPlain c && c != '\\' then basic (c :: chars) rest else none

/-- A string without escapes on one line. -/
def verbatim (chars : List Char) : List Char → Read String
  | [] => none
  | '\'' :: rest => finish chars rest
  | c :: rest => if isPlain c then verbatim (c :: chars) rest else none

/-- Three closing quotes after the text. Up to two more of them still belong to the text. -/
def closeQuotes (quote : Char) (chars rest : List Char) : Read String :=
  match rest with
  | a :: b :: rest' =>
    if a = quote ∧ b = quote then finish (quote :: quote :: chars) rest'
    else if a = quote then finish (quote :: chars) (b :: rest')
    else finish chars rest
  | [a] => if a = quote then finish (quote :: chars) [] else finish chars rest
  | [] => finish chars rest

/-- Whether a backslash before these characters joins two lines: only blanks stand between it and
the end of the line. -/
def endsLine (cs : List Char) : Bool :=
  match cs.dropWhile isBlank with
  | '\n' :: _ => true
  | '\r' :: '\n' :: _ => true
  | _ => false

/-- A string with escapes on several lines. After a backslash at the end of a line, white space is
passed over (`joining`). -/
def basicLines (joining : Bool) (chars : List Char) : List Char → Read String
  | [] => none
  | '"' :: '"' :: '"' :: rest => closeQuotes '"' chars rest
  | '\r' :: '\n' :: rest => basicLines joining (if joining then chars else '\n' :: chars) rest
  | '\n' :: rest => basicLines joining (if joining then chars else '\n' :: chars) rest
  | '\\' :: 'x' :: a :: b :: rest =>
    match charOfHex? [a, b] with
    | some x => basicLines false (x :: chars) rest
    | none => none
  | '\\' :: 'u' :: a :: b :: c :: d :: rest =>
    match charOfHex? [a, b, c, d] with
    | some x => basicLines false (x :: chars) rest
    | none => none
  | '\\' :: 'U' :: a :: b :: c :: d :: e :: f :: g :: h :: rest =>
    match charOfHex? [a, b, c, d, e, f, g, h] with
    | some x => basicLines false (x :: chars) rest
    | none => none
  | '\\' :: e :: rest =>
    if endsLine (e :: rest) then basicLines true chars (e :: rest)
    else
      match escapeOf? e with
      | some x => basicLines false (x :: chars) rest
      | none => none
  | c :: rest =>
    if joining && isBlank c then basicLines true chars rest
    else if isPlain c && c != '\\' then basicLines false (c :: chars) rest
    else none

/-- A string without escapes on several lines. -/
def verbatimLines (chars : List Char) : List Char → Read String
  | [] => none
  | '\'' :: '\'' :: '\'' :: rest => closeQuotes '\'' chars rest
  | '\r' :: '\n' :: rest => verbatimLines ('\n' :: chars) rest
  | '\n' :: rest => verbatimLines ('\n' :: chars) rest
  | c :: rest => if isPlain c then verbatimLines (c :: chars) rest else none

/-- The characters without a line break in front. -/
def dropLineBreak : List Char → List Char
  | '\n' :: rest => rest
  | '\r' :: '\n' :: rest => rest
  | cs => cs

/-- A string of any kind, from its opening quotes on. -/
def quotation : List Char → Read String
  | '"' :: '"' :: '"' :: rest => basicLines false [] (dropLineBreak rest)
  | '\'' :: '\'' :: '\'' :: rest => verbatimLines [] (dropLineBreak rest)
  | '"' :: rest => basic [] rest
  | '\'' :: rest => verbatim [] rest
  | _ => none

/-- A string on one line, from its opening quote on. -/
def lineQuotation : List Char → Read String
  | '"' :: rest => basic [] rest
  | '\'' :: rest => verbatim [] rest
  | _ => none

end ChatGateway.Toml
