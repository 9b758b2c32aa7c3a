import ChatGateway.Toml.Moment

/-!
# Unquoted values in TOML

Truth values, numbers, dates and times: `scalar?` says what a word without quotes stands for.
-/

namespace ChatGateway.Toml

/-- Digits without the underscores between them. An underscore stands between two digits. -/
def digitsOf? (isDigit : Char → Bool) : List Char → Option (List Char)
  | [] => none
  | [c] => if isDigit c then some [c] else none
  | c :: '_' :: rest => if isDigit c then (digitsOf? isDigit rest).map (c :: ·) else none
  | c :: rest => if isDigit c then (digitsOf? isDigit rest).map (c :: ·) else none

/-- Decimal digits that do not begin with a superfluous zero. -/
def wholeDigits? (cs : List Char) : Option (List Char) :=
  match digitsOf? Char.isDigit cs with
  | some ('0' :: _ :: _) => none
  | other => other

/-- The sign in front, and the rest. -/
def splitSign : List Char → Bool × List Char
  | '-' :: rest => (true, rest)
  | '+' :: rest => (false, rest)
  | cs => (false, cs)

/-- A whole number, which is of use if it fits a 64-bit integer, signed or not. -/
def intValue (n : Int) : Json := 
  if -0x8000000000000000 ≤ n ∧ n < 0x10000000000000000 then .int n else .unusable

/-- The number that digits to a base denote. -/
def baseNumber? (base : Nat) (cs : List Char) : Option Json :=
  let isDigit := fun c => match Json.hexValue? c with
    | some d => decide (d < base)
    | none => false
  (digitsOf? isDigit cs).map fun ds =>
    intValue (ds.foldl (fun n c => base * n + (Json.hexValue? c).getD 0) 0 : Nat)

/-- A whole number. -/
def integer? : List Char → Option Json
  | '0' :: 'x' :: rest => baseNumber? 16 rest
  | '0' :: 'o' :: rest => baseNumber? 8 rest
  | '0' :: 'b' :: rest => baseNumber? 2 rest
  | cs =>
    let (negative, cs) := splitSign cs
    (wholeDigits? cs).map fun ds =>
      let n : Int := Decimal.ofDigits ds
      intValue (if negative then -n else n)

/-- The exponent that follows a number, zero if there is none. -/
def exponent? : List Char → Option Int
  | [] => some 0
  | e :: rest =>
    if e = 'e' ∨ e = 'E' then
      let (negative, cs) := splitSign rest
      (digitsOf? Char.isDigit cs).map fun ds =>
        let n : Int := Decimal.ofDigits ds
        if negative then -n else n
    else none

/-- Whether a character belongs to the digits of a number. -/
def isDigitChar (c : Char) : Bool := c.isDigit || c = '_'

/-- A number with a fraction or an exponent. It is of no use if it is beyond the doubles. -/
def fractional? (cs : List Char) : Option Json :=
  let (negative, cs) := splitSign cs
  let whole := cs.takeWhile isDigitChar
  let rest := cs.dropWhile isDigitChar
  let (fraction, rest) : Option (List Char) × List Char := match rest with
    | '.' :: rest =>
      (digitsOf? Char.isDigit (rest.takeWhile isDigitChar), rest.dropWhile isDigitChar)
    | rest => (if rest = [] then none else some [], rest)
  match wholeDigits? whole, fraction, exponent? rest with
  | some whole, some fraction, some e =>
    match (⟨negative, Decimal.ofDigits (whole ++ fraction), e - fraction.length⟩ :
        Decimal).toFloat? with
    | some x => some (.real x)
    | none => some .unusable
  | _, _, _ => none

/-- The numbers that are no decimals. -/
def special? (cs : List Char) : Option Json :=
  let (negative, cs) := splitSign cs
  if cs = "inf".toList then some (.real (if negative then -1.0 / 0.0 else 1.0 / 0.0))
  else if cs = "nan".toList then some (.real (0.0 / 0.0))
  else none

/-- The key of the record in which a date or time is given. -/
def momentKey : String := "$__toml_private_datetime"

/-- What a word stands for. -/
def scalar? (word : List Char) : Option Json :=
  if word = "true".toList then some (.bool true)
  else if word = "false".toList then some (.bool false)
  else
    (((integer? word).or (fractional? word)).or (special? word)).or
      ((moment? word).map fun text => .obj [(momentKey, .str text)])

end ChatGateway.Toml
