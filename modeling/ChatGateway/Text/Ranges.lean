/-!
# Classes of characters as code point ranges

`Ranges.covers` decides membership of a character in a class given by its ranges, both ends
included. `ShiftRun.image?` reads one-to-one tables of characters whose images lie at a fixed
distance over long stretches.
-/

namespace ChatGateway.Text

/-- A class of characters: the ranges of its code points, both ends included. -/
abbrev Ranges := List (Nat × Nat)

/-- Whether the class holds `c`. -/
def Ranges.covers (rs : Ranges) (c : Char) : Bool :=
  rs.any fun r => r.1 ≤ c.toNat && c.toNat ≤ r.2

/-- Every `stride`-th character from `first` to `last` has its image `shift` further on. -/
structure ShiftRun where
  first : Nat
  last : Nat
  stride : Nat
  shift : Int

/-- Whether the run has an image for a code point. -/
def ShiftRun.covers (r : ShiftRun) (n : Nat) : Bool :=
  r.first ≤ n && n ≤ r.last && (n - r.first) % r.stride = 0

/-- The image of a code point in a table of runs. -/
def ShiftRun.image? (runs : List ShiftRun) (n : Nat) : Option Nat :=
  (runs.find? fun r => r.covers n).map fun r => ((n : Int) + r.shift).toNat

end ChatGateway.Text
