import ChatGateway.Toml.Quotation

/-!
# Dates and times in TOML

A date, a time, or both, and with both the offset from universal time. `moment?` reads one that
fills the whole of a text and writes it down again in its normal form: a `T` between date and
time, the seconds even if they were left out, and no zeros at the end of a fraction of a second.
-/

namespace ChatGateway.Toml

/-- A number of exactly `n` digits. -/
def fixedNumber (n : Nat) (cs : List Char) : Option (Nat × List Char) :=
  let ds := cs.take n
  if ds.length = n ∧ ds.all Char.isDigit then some (Decimal.ofDigits ds, cs.drop n) else none

/-- A certain character. -/
def exactly (c : Char) : List Char → Option (List Char)
  | d :: rest => if d = c then some rest else none
  | [] => none

/-- A number with zeros in front, up to a width. -/
def padded (width n : Nat) : String :=
  let ds := Nat.toDigits 10 n
  String.ofList (List.replicate (width - ds.length) '0' ++ ds)

/-- How many days a month has. -/
def daysIn (year month : Nat) : Nat :=
  if month = 2 then
    if year % 4 = 0 ∧ (year % 100 ≠ 0 ∨ year % 400 = 0) then 29 else 28
  else if month ∈ [4, 6, 9, 11] then 30
  else 31

/-- A date. -/
def date (cs : List Char) : Option (String × List Char) := do
  let (year, cs) ← fixedNumber 4 cs
  let cs ← exactly '-' cs
  let (month, cs) ← fixedNumber 2 cs
  let cs ← exactly '-' cs
  let (day, cs) ← fixedNumber 2 cs
  if 1 ≤ month ∧ month ≤ 12 ∧ 1 ≤ day ∧ day ≤ daysIn year month then
    some (padded 4 year ++ "-" ++ padded 2 month ++ "-" ++ padded 2 day, cs)
  else none

/-- A fraction of a second, of which nine digits count. -/
def fraction : List Char → Option (String × List Char)
  | '.' :: cs =>
    let ds := cs.takeWhile Char.isDigit
    if ds = [] then none
    else
      let kept := ((ds.take 9).reverse.dropWhile (· == '0')).reverse
      some (if kept = [] then "" else String.ofList ('.' :: kept), cs.dropWhile Char.isDigit)
  | cs => some ("", cs)

/-- The seconds of a time with their fraction, zero if they are left out. A minute may have a leap
second. -/
def seconds : List Char → Option (String × List Char)
  | ':' :: cs => do
    let (second, cs) ← fixedNumber 2 cs
    let (part, cs) ← fraction cs
    if second ≤ 60 then some (padded 2 second ++ part, cs) else none
  | cs => some ("00", cs)

/-- A time of day. -/
def timeOfDay (cs : List Char) : Option (String × List Char) := do
  let (hour, cs) ← fixedNumber 2 cs
  let cs ← exactly ':' cs
  let (minute, cs) ← fixedNumber 2 cs
  let (second, cs) ← seconds cs
  if hour ≤ 23 ∧ minute ≤ 59 then
    some (padded 2 hour ++ ":" ++ padded 2 minute ++ ":" ++ second, cs)
  else none

/-- An offset from universal time, none of it if there is none. -/
def offset : List Char → Option (String × List Char)
  | [] => some ("", [])
  | c :: cs =>
    if c = 'Z' ∨ c = 'z' then some ("Z", cs)
    else if c = '+' ∨ c = '-' then do
      let (hour, cs) ← fixedNumber 2 cs
      let cs ← exactly ':' cs
      let (minute, cs) ← fixedNumber 2 cs
      if hour ≤ 23 ∧ minute ≤ 59 then
        let sign := if c = '-' ∧ (hour, minute) ≠ (0, 0) then "-" else "+"
        some (sign ++ padded 2 hour ++ ":" ++ padded 2 minute, cs)
      else none
    else none

/-- What follows a date: nothing, or a time and perhaps an offset. -/
def afterDate : List Char → Option (String × List Char)
  | [] => some ("", [])
  | c :: cs =>
    if c = 'T' ∨ c = 't' ∨ c = ' ' then do
      let (time, cs) ← timeOfDay cs
      let (offset, cs) ← offset cs
      some ("T" ++ time ++ offset, cs)
    else none

/-- The normal form of a date or a time or both. -/
def moment? (cs : List Char) : Option String :=
  let read : Option (String × List Char) := match date cs with
    | some (day, cs) => (afterDate cs).map fun r => (day ++ r.1, r.2)
    | none => timeOfDay cs
  match read with
  | some (text, []) => some text
  | _ => none

end ChatGateway.Toml
