/-!
# Double precision numbers taken apart

A whole number is turned into the double that is nearest to it (`ofWhole`). A finite double is
`± significand · 2 ^ scale` with natural `significand` (`parts`). On this form the two roundings to
an integer are plain arithmetic: `truncate` drops the fraction, and `roundHalfAway` goes to the
nearest integer, a half going away from zero. Both keep the sign of a zero result, and both leave
infinities and NaN alone.
-/

namespace ChatGateway.Binary64

/-- The double that is nearest to a whole number, of two that are equally near the even one. -/
def ofWhole (n : Int) : Float := .ofModel (.ofInt n)

/-- A finite double taken apart: `± significand · 2 ^ scale`. -/
structure Parts where
  negative : Bool
  significand : Nat
  scale : Int
deriving DecidableEq, Repr

/-- The parts of a finite double, and none for the infinities and NaN. -/
def parts (x : Float) : Option Parts :=
  let bits := x.toBits.toNat
  let negative := decide (bits / 0x8000000000000000 = 1)
  let exponent : Nat := bits / 0x10000000000000 % 0x800
  let fraction : Nat := bits % 0x10000000000000
  if exponent = 0x7FF then none
  else if exponent = 0 then some ⟨negative, fraction, -1074⟩
  else some ⟨negative, fraction + 0x10000000000000, (exponent : Int) - 1075⟩

/-- The double `± n`, a zero with its sign. -/
def ofSignedNat (negative : Bool) (n : Nat) : Float :=
  if negative then -Float.ofNat n else Float.ofNat n

/-- The number without its fraction. -/
def truncate (x : Float) : Float :=
  match parts x with
  | none => x
  | some p =>
    if p.scale < 0 then ofSignedNat p.negative (p.significand / Nat.pow 2 (-p.scale).toNat) else x

/-- The nearest integer, a half going away from zero. -/
def roundHalfAway (x : Float) : Float :=
  match parts x with
  | none => x
  | some p =>
    if p.scale < 0 then
      let unit := Nat.pow 2 (-p.scale).toNat
      ofSignedNat p.negative ((p.significand + unit / 2) / unit)
    else x

end ChatGateway.Binary64
