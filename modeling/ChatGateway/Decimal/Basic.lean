/-!
# Decimal numbers and the doubles nearest to them

A `Decimal` is `± digits · 10 ^ exponent`. `Decimal.toFloat?` is the double nearest to it, and
none when the number lies beyond the largest finite double.
-/

namespace ChatGateway

/-- The number `± digits · 10 ^ exponent`. -/
structure Decimal where
  negative : Bool
  digits : Nat
  exponent : Int
deriving DecidableEq, Repr

namespace Decimal

/-- How many decimal digits a natural number has, none of them for zero. -/
def digitCount (n : Nat) : Nat := if n = 0 then 0 else (Nat.toDigits 10 n).length

/-- The number read from a run of digit characters. -/
def ofDigits (cs : List Char) : Nat := cs.foldl (fun n c => 10 * n + (c.toNat - 48)) 0

/-- The nearest double without its sign, an infinity when there is no finite one. Numbers far
outside the range of doubles are settled by their magnitude alone. -/
def magnitude (d : Decimal) : Float :=
  let point := digitCount d.digits + d.exponent
  if d.digits = 0 ∨ point < -400 then 0.0
  else if point > 400 then 1.0 / 0.0
  else Float.ofScientific d.digits (d.exponent < 0) d.exponent.natAbs

/-- The double nearest to the number, none when it is beyond the largest finite one. -/
def toFloat? (d : Decimal) : Option Float :=
  let x := d.magnitude
  if x.isInf then none else some (if d.negative then -x else x)

end Decimal

end ChatGateway
