import ChatGateway.Binary64
import ChatGateway.Decimal.Basic

/-!
# The shortest decimal that reads back

Every double is the nearest one to an interval of reals around it. `shortest` finds a decimal of
that interval with the fewest digits and, among those, the one nearest to the double. It tries
one digit, two digits and so on: if the grid of decimals with so many digits meets the interval
at all, then it does so at one of the two grid points next to the double.

`FloatStyle` says how the digits are laid out as text.
-/

namespace ChatGateway.Decimal

/-- The rational number `numerator / denominator`. -/
structure Ratio where
  numerator : Nat
  denominator : Nat

/-- The number `n · 2 ^ e`. -/
def Ratio.ofBinary (n : Nat) (e : Int) : Ratio :=
  if e < 0 then ⟨n, Nat.pow 2 e.natAbs⟩ else ⟨n * Nat.pow 2 e.natAbs, 1⟩

/-- The number `n · 10 ^ e`. -/
def Ratio.ofDecimal (n : Nat) (e : Int) : Ratio :=
  if e < 0 then ⟨n, Nat.pow 10 e.natAbs⟩ else ⟨n * Nat.pow 10 e.natAbs, 1⟩

def Ratio.le (a b : Ratio) : Bool := a.numerator * b.denominator ≤ b.numerator * a.denominator

def Ratio.lt (a b : Ratio) : Bool := a.numerator * b.denominator < b.numerator * a.denominator

/-- The integer part of `a / b`. -/
def Ratio.quotient (a b : Ratio) : Nat :=
  (a.numerator * b.denominator) / (a.denominator * b.numerator)

/-- The greatest `e` with `10 ^ e ≤ a`, for `a` above zero. -/
def Ratio.log10 (a : Ratio) : Int :=
  let guess : Int := digitCount a.numerator - digitCount a.denominator
  if (Ratio.ofDecimal 1 guess).le a then guess else guess - 1

/-- The reals whose nearest double is `significand · 2 ^ scale`: the bounds belong to them when
the significand is even. -/
structure Catchment where
  value : Ratio
  low : Ratio
  high : Ratio
  closed : Bool

/-- The neighbour below a power of two is nearer than the one above, unless the power is the
smallest that has its full number of digits. -/
def Catchment.of (significand : Nat) (scale : Int) : Catchment :=
  let below := if significand = 0x10000000000000 ∧ scale > -1074 then 1 else 2
  { value := .ofBinary (4 * significand) (scale - 2)
    low := .ofBinary (4 * significand - below) (scale - 2)
    high := .ofBinary (4 * significand + 2) (scale - 2)
    closed := significand % 2 = 0 }

def Catchment.holds (c : Catchment) (a : Ratio) : Bool :=
  if c.closed then c.low.le a && a.le c.high else c.low.lt a && a.lt c.high

/-- Of the two points of the grid `10 ^ e · ℕ` next to the value, one that lies in the interval,
the nearer if both do. -/
def Catchment.onGrid (c : Catchment) (e : Int) : Option Nat :=
  let n := c.value.quotient (.ofDecimal 1 e)
  let lower := c.holds (.ofDecimal n e)
  let upper := c.holds (.ofDecimal (n + 1) e)
  let middle := Ratio.ofDecimal (10 * n + 5) (e - 1)
  if lower && upper then
    some (if c.value.lt middle then n else if middle.lt c.value then n + 1 else n + n % 2)
  else if lower then some n
  else if upper then some (n + 1)
  else none

/-- The first grid that meets the interval, of those with `places`, `places + 1`, … digits. -/
def Catchment.search (c : Catchment) (top : Int) (places : Nat) : Nat → Nat × Int
  | 0 => (c.value.quotient (.ofDecimal 1 (top - places)), top - places)
  | tries + 1 =>
    match c.onGrid (top - places) with
    | some n => (n, top - places)
    | none => c.search top (places + 1) tries

/-- The number `digits · 10 ^ exponent` with no zero at the end of `digits`, which is above
zero. -/
def dropZeros (digits : Nat) (exponent : Int) : Nat → Nat × Int
  | 0 => (digits, exponent)
  | tries + 1 =>
    if digits % 10 = 0 then dropZeros (digits / 10) (exponent + 1) tries else (digits, exponent)

/-- The fewest digits that read back as the finite double with these parts. Seventeen digits
always do. -/
def shortest (p : Binary64.Parts) : Decimal :=
  if p.significand = 0 then ⟨p.negative, 0, 0⟩
  else
    let c := Catchment.of p.significand p.scale
    let found := c.search c.value.log10 0 17
    let trimmed := dropZeros found.1 found.2 18
    ⟨p.negative, trimmed.1, trimmed.2⟩

/-- How the digits of a double are laid out. -/
structure FloatStyle where
  /-- Whether a whole number still shows a fraction, `.0`. -/
  showsFraction : Bool
  /-- The numbers of digits before the point, zero or less for a small fraction, that are written
  with an exponent instead of positionally. -/
  withExponent : Int → Bool

/-- Numbers in messages are always positional, whole numbers without a point. -/
def FloatStyle.message : FloatStyle := ⟨false, fun _ => false⟩

/-- Numbers in descriptions always show a point or an exponent; they are positional from
`0.0001` to below `10 ^ 16`. -/
def FloatStyle.description : FloatStyle := ⟨true, fun point => point < -3 || 16 < point⟩

/-- The digits around a decimal point that stands after `point` of them. -/
def positional (style : FloatStyle) (ds : List Char) (point : Int) : List Char :=
  if point ≤ 0 then ['0', '.'] ++ List.replicate point.natAbs '0' ++ ds
  else if ds.length ≤ point.toNat then
    ds ++ List.replicate (point.toNat - ds.length) '0' ++
      (if style.showsFraction then ['.', '0'] else [])
  else ds.take point.toNat ++ '.' :: ds.drop point.toNat

/-- The digits with a point after the first and an exponent. -/
def scientific (ds : List Char) (point : Int) : List Char :=
  ds.take 1 ++ (if ds.length ≤ 1 then [] else '.' :: ds.drop 1) ++ 'e' ::
    (toString (point - 1)).toList

/-- The text of a decimal. -/
def layout (style : FloatStyle) (d : Decimal) : List Char :=
  let ds := Nat.toDigits 10 d.digits
  let point : Int := ds.length + d.exponent
  let body :=
    if d.digits = 0 then positional style ['0'] 1
    else if style.withExponent point then scientific ds point
    else positional style ds point
  if d.negative then '-' :: body else body

/-- The text of a double. -/
def FloatStyle.text (style : FloatStyle) (x : Float) : String :=
  match Binary64.parts x with
  | some p => String.ofList (layout style (shortest p))
  | none => if x.isNaN then "NaN" else if x < 0.0 then "-inf" else "inf"

end ChatGateway.Decimal
