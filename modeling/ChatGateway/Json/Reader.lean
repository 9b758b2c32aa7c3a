import ChatGateway.Decimal.Basic
import ChatGateway.Json.Basic

/-!
# Reading JSON text

A text is read in two passes, each a fold over its input. `lex` cuts the characters into tokens;
what is neither white space nor punctuation nor a string is a word, and `wordToken?` says which
words are numbers or names. `Builder.feed` then consumes the tokens one at a time, keeping the
arrays and objects that are still open on a stack. `Json.ofText?` is both together.
-/

namespace ChatGateway.Json

/-! ## Tokens -/

/-- A lexical unit. -/
inductive Token where
  | openArray
  | closeArray
  | openObject
  | closeObject
  | comma
  | colon
  /-- A string, none if it holds half of a surrogate pair. -/
  | text (value : Option String)
  /-- A number or a name. -/
  | scalar (value : Json)

/-- A number as written: digits before the point, after it if there is one, and the exponent. -/
structure NumberText where
  negative : Bool
  whole : List Char
  fraction : Option (List Char)
  exponent : Option Int

/-- Digits at the front, and the rest. -/
def spanDigits (cs : List Char) : List Char × List Char :=
  (cs.takeWhile Char.isDigit, cs.dropWhile Char.isDigit)

/-- The exponent of a number from its mark on, the whole text being used. -/
def exponentOf? : List Char → Option (Option Int)
  | [] => some none
  | mark :: rest =>
    if mark = 'e' ∨ mark = 'E' then
      let (negative, ds) := match rest with
        | '-' :: ds => (true, ds)
        | '+' :: ds => (false, ds)
        | ds => (false, ds)
      if ds ≠ [] ∧ ds.all Char.isDigit then
        let n : Int := Decimal.ofDigits ds
        some (some (if negative then -n else n))
      else none
    else none

/-- The parts of a number, none if the text is not a number. A number with more than one digit
does not begin with zero. -/
def numberText? (cs : List Char) : Option NumberText :=
  let (negative, cs) := match cs with
    | '-' :: rest => (true, rest)
    | cs => (false, cs)
  let (whole, cs) := spanDigits cs
  if whole = [] ∨ (whole.head? = some '0' ∧ whole.length > 1) then none
  else
    match cs with
    | '.' :: cs =>
      let (fraction, cs) := spanDigits cs
      if fraction = [] then none
      else (exponentOf? cs).map (⟨negative, whole, some fraction, ·⟩)
    | cs => (exponentOf? cs).map (⟨negative, whole, none, ·⟩)

/-- The decimal that the text denotes. -/
def NumberText.decimal (t : NumberText) : Decimal :=
  let fraction := t.fraction.getD []
  ⟨t.negative, Decimal.ofDigits (t.whole ++ fraction),
    t.exponent.getD 0 - (fraction.length : Int)⟩

/-- A whole number is an integer if it fits a 64-bit integer, signed or not; any other number,
the negative zero among them, is a double. -/
def NumberText.value (t : NumberText) : Json :=
  let n : Int := Decimal.ofDigits t.whole
  if t.fraction.isNone ∧ t.exponent.isNone ∧ t.negative = false ∧ n < 0x10000000000000000 then
    .int n
  else if t.fraction.isNone ∧ t.exponent.isNone ∧ t.negative ∧ 0 < n ∧ n ≤ 0x8000000000000000 then
    .int (-n)
  else
    match t.decimal.toFloat? with
    | some x => .real x
    | none => .unusable

/-- The value of a word. -/
def wordToken? (word : List Char) : Option Token :=
  if word = "null".toList then some (.scalar .null)
  else if word = "true".toList then some (.scalar (.bool true))
  else if word = "false".toList then some (.scalar (.bool false))
  else (numberText? word).map fun t => .scalar t.value

/-- Where the scan stands in a string. -/
inductive Escape where
  /-- Not inside an escape. -/
  | plain
  /-- After a backslash. -/
  | started
  /-- Inside a code unit, with the digits read so far. -/
  | unit (digits : List Char)

/-- A string that is being read: what it holds so far, newest first, and the first half of a
surrogate pair that still waits for the second. -/
structure Unfinished where
  chars : List Char
  high : Option Nat
  broken : Bool
  escape : Escape

/-- Where the scan stands. -/
inductive Mode where
  | between
  /-- Inside a word, newest character first. -/
  | word (chars : List Char)
  | string (state : Unfinished)

/-- The value of a hexadecimal digit. -/
def hexValue? (c : Char) : Option Nat :=
  if c.isDigit then some (c.toNat - 48)
  else if 'a' ≤ c ∧ c ≤ 'f' then some (c.toNat - 87)
  else if 'A' ≤ c ∧ c ≤ 'F' then some (c.toNat - 55)
  else none

/-- A character is added; a first half of a pair before it stays alone. -/
def Unfinished.push (p : Unfinished) (c : Char) : Unfinished :=
  { p with
    chars := c :: p.chars, high := none, broken := p.broken || p.high.isSome, escape := .plain }

/-- A code unit is added: two halves of a pair make one character. -/
def Unfinished.pushUnit (p : Unfinished) (unit : Nat) : Unfinished :=
  if 0xDC00 ≤ unit ∧ unit < 0xE000 then
    match p.high with
    | some high =>
      let c := Char.ofNat (0x10000 + (high - 0xD800) * 0x400 + (unit - 0xDC00))
      { p with chars := c :: p.chars, high := none, escape := .plain }
    | none => { p with broken := true, escape := .plain }
  else if 0xD800 ≤ unit ∧ unit < 0xDC00 then
    { p with high := some unit, broken := p.broken || p.high.isSome, escape := .plain }
  else p.push (Char.ofNat unit)

/-- The string once it is closed. -/
def Unfinished.close (p : Unfinished) : Token :=
  .text (if p.broken || p.high.isSome then none else some (String.ofList p.chars.reverse))

/-- The character that a one-letter escape stands for. -/
def escapeOf? : Char → Option Char
  | '"' => some '"'
  | '\\' => some '\\'
  | '/' => some '/'
  | 'b' => some '\x08'
  | 'f' => some '\x0c'
  | 'n' => some '\n'
  | 'r' => some '\r'
  | 't' => some '\t'
  | _ => none

/-- One more character inside a string: the string goes on, or ends with a token. -/
def Unfinished.step (p : Unfinished) (c : Char) : Option (Unfinished ⊕ Token) :=
  match p.escape with
  | .plain =>
    if c = '"' then some (.inr p.close)
    else if c = '\\' then some (.inl { p with escape := .started })
    else if c.toNat < 0x20 then none
    else some (.inl (p.push c))
  | .started =>
    if c = 'u' then some (.inl { p with escape := .unit [] })
    else (escapeOf? c).map fun c => .inl (p.push c)
  | .unit digits =>
    match hexValue? c with
    | none => none
    | some _ =>
      let digits := c :: digits
      if digits.length < 4 then some (.inl { p with escape := .unit digits })
      else
        let unit := digits.reverse.foldl (fun n d => 16 * n + (hexValue? d).getD 0) 0
        some (.inl (p.pushUnit unit))

/-- The punctuation tokens. -/
def punctuation? : Char → Option Token
  | '[' => some .openArray
  | ']' => some .closeArray
  | '\x7b' => some .openObject
  | '\x7d' => some .closeObject
  | ',' => some .comma
  | ':' => some .colon
  | _ => none

/-- The characters that may stand between tokens. -/
def isGap (c : Char) : Bool := c = ' ' || c = '\n' || c = '\t' || c = '\r'

/-- The tokens of the text from a given position on, in front of the tokens already found. -/
def lexFrom : Mode → List Token → List Char → Option (List Token)
  | .between, tokens, [] => some tokens.reverse
  | .word chars, tokens, [] =>
    (wordToken? chars.reverse).map fun t => (t :: tokens).reverse
  | .string _, _, [] => none
  | .between, tokens, c :: rest =>
    if isGap c then lexFrom .between tokens rest
    else if c = '"' then lexFrom (.string ⟨[], none, false, .plain⟩) tokens rest
    else
      match punctuation? c with
      | some t => lexFrom .between (t :: tokens) rest
      | none => lexFrom (.word [c]) tokens rest
  | .word chars, tokens, c :: rest =>
    if isGap c || c = '"' || (punctuation? c).isSome then
      match wordToken? chars.reverse with
      | none => none
      | some t =>
        if isGap c then lexFrom .between (t :: tokens) rest
        else if c = '"' then lexFrom (.string ⟨[], none, false, .plain⟩) (t :: tokens) rest
        else
          match punctuation? c with
          | some u => lexFrom .between (u :: t :: tokens) rest
          | none => none
    else lexFrom (.word (c :: chars)) tokens rest
  | .string p, tokens, c :: rest =>
    match p.step c with
    | none => none
    | some (.inl p) => lexFrom (.string p) tokens rest
    | some (.inr t) => lexFrom .between (t :: tokens) rest

/-- The tokens of a text, none if a piece of it is no token. -/
def lex (cs : List Char) : Option (List Token) := lexFrom .between [] cs

/-! ## From tokens to a value -/

/-- An array or object that is still open, with what it holds so far, newest first. -/
inductive Frame where
  | array (items : List Json)
  | object (members : List (Option String × Json))
  /-- An object that waits for the value of a key. -/
  | member (members : List (Option String × Json)) (key : Option String)

/-- What may come next. -/
inductive Expect where
  /-- A value, or the end of an array that has just been opened. -/
  | value (mayClose : Bool)
  /-- A key, or the end of an object that has just been opened. -/
  | key (mayClose : Bool)
  | colon
  /-- A comma or the end of the innermost frame, or the end of the text. -/
  | next

/-- A value that is being built: the open frames, innermost first, what may come next, and the
value once it is complete. -/
structure Builder where
  frames : List Frame
  expect : Expect
  result : Option Json

namespace Builder

def start : Builder := ⟨[], .value false, none⟩

/-- A finished value goes to the innermost frame, or is the result. -/
def deliver (b : Builder) (j : Json) : Option Builder :=
  match b.frames with
  | [] => some { b with expect := .next, result := some j }
  | .array items :: rest => some { b with frames := .array (j :: items) :: rest, expect := .next }
  | .member members key :: rest =>
    some { b with frames := .object ((key, j) :: members) :: rest, expect := .next }
  | .object _ :: _ => none

/-- The value of an object that is closed: a key that cannot be read spoils the object. -/
def objectOf (members : List (Option String × Json)) : Json :=
  match members.reverse.mapM fun m => m.1.map (·, m.2) with
  | some members => .obj members
  | none => .unusable

/-- The innermost frame is closed. A frame that lies too deep is not followed. -/
def closeFrame (b : Builder) : Option Builder :=
  match b.frames with
  | .array items :: rest =>
    { b with frames := rest }.deliver
      (if b.frames.length ≤ maxDepth then .arr items.reverse else .unusable)
  | .object members :: rest =>
    { b with frames := rest }.deliver
      (if b.frames.length ≤ maxDepth then objectOf members else .unusable)
  | _ => none

/-- The value after one more token, none if the token cannot stand there. -/
def feed (b : Builder) (t : Token) : Option Builder :=
  match b.expect, t with
  | .value _, .openArray => some { b with frames := .array [] :: b.frames, expect := .value true }
  | .value _, .openObject => some { b with frames := .object [] :: b.frames, expect := .key true }
  | .value true, .closeArray => b.closeFrame
  | .value _, .text s => b.deliver (match s with | some s => .str s | none => .unusable)
  | .value _, .scalar j => b.deliver j
  | .key true, .closeObject => b.closeFrame
  | .key _, .text key =>
    match b.frames with
    | .object members :: rest =>
      some { b with frames := .member members key :: rest, expect := .colon }
    | _ => none
  | .colon, .colon => some { b with expect := .value false }
  | .next, .comma =>
    match b.frames with
    | .array _ :: _ => some { b with expect := .value false }
    | .object _ :: _ => some { b with expect := .key false }
    | _ => none
  | .next, .closeArray =>
    match b.frames with
    | .array _ :: _ => b.closeFrame
    | _ => none
  | .next, .closeObject =>
    match b.frames with
    | .object _ :: _ => b.closeFrame
    | _ => none
  | _, _ => none

end Builder

/-- The value that the tokens spell out. -/
def ofTokens? (tokens : List Token) : Option Json :=
  match tokens.foldlM Builder.feed Builder.start with
  | some b => b.result
  | none => none

/-- The value of a JSON text. -/
def ofText? (text : String) : Option Json := (lex text.toList).bind ofTokens?

end ChatGateway.Json
