/-!
# Punycode

A label of a host name that is not ASCII is written in ASCII: first its ASCII characters, then the
others in the order of their code points, each as the distance from where the one before was
inserted. Distances are numbers of variable length to base 36, whose digits have thresholds that
follow the sizes of the distances so far. `punycode` writes such a label, `unpunycode?` reads it.
-/

namespace ChatGateway.Url

/-- The digit with a value below 36. -/
def punyDigit (d : Nat) : Char := if d < 26 then Char.ofNat (97 + d) else Char.ofNat (22 + d)

/-- The threshold of the digit at a place. -/
def punyThreshold (place bias : Nat) : Nat :=
  if place ≤ bias then 1 else if bias + 26 ≤ place then 26 else place - bias

/-- The bias after the distances have been divided down. -/
def punyAdaptFrom (delta k : Nat) : Nat :=
  if delta > 455 then punyAdaptFrom (delta / 35) (k + 36) else k + 36 * delta / (delta + 38)
termination_by delta
decreasing_by omega

/-- The bias that follows a distance after so many characters. -/
def punyAdapt (delta count : Nat) (first : Bool) : Nat :=
  let delta := if first then delta / 700 else delta / 2
  punyAdaptFrom (delta + delta / count) 0

theorem punyThreshold_bounds (place bias : Nat) :
    1 ≤ punyThreshold place bias ∧ punyThreshold place bias ≤ 26 := by
  unfold punyThreshold
  split
  · omega
  · split <;> omega

/-- A distance as digits. -/
def punyDistance (bias place n : Nat) : List Char :=
  let t := punyThreshold place bias
  if n < t then [punyDigit n]
  else punyDigit (t + (n - t) % (36 - t)) :: punyDistance bias (place + 36) ((n - t) / (36 - t))
termination_by n
decreasing_by
  have ht := punyThreshold_bounds place bias
  exact Nat.lt_of_le_of_lt (Nat.div_le_self _ _) (by omega)

/-- What has been written, and where the next distance is counted from. -/
structure PunyState where
  written : List Char
  delta : Nat := 0
  bias : Nat := 72
  handled : Nat

/-- One character of the label is passed while the code point `n` is inserted. -/
def PunyState.pass (basic n : Nat) (s : PunyState) (c : Char) : PunyState :=
  if c.toNat < n then { s with delta := s.delta + 1 }
  else if c.toNat = n then
    { written := s.written ++ punyDistance s.bias 36 s.delta
      delta := 0
      bias := punyAdapt s.delta (s.handled + 1) (s.handled = basic)
      handled := s.handled + 1 }
  else s

/-- The code points are inserted in rising order, the next one not before `n`. -/
def punyInsert (label : List Char) (basic : Nat) (s : PunyState) (n : Nat) :
    List Nat → PunyState
  | [] => s
  | m :: rest =>
    let s := { s with delta := s.delta + (m - n) * (s.handled + 1) }
    let s := label.foldl (PunyState.pass basic m) s
    punyInsert label basic { s with delta := s.delta + 1 } (m + 1) rest

/-- A label in ASCII. -/
def punycode (label : List Char) : List Char :=
  let basic := label.filter fun c => c.toNat < 0x80
  let others := ((label.filter fun c => 0x80 ≤ c.toNat).map Char.toNat).eraseDups.mergeSort
  let start : PunyState :=
    { written := basic ++ (if basic = [] then [] else ['-']), handled := basic.length }
  (punyInsert label basic.length start 0x80 others).written

/-! ## Reading -/

/-- The value of a digit. -/
def punyValue? (c : Char) : Option Nat :=
  if 'a' ≤ c ∧ c ≤ 'z' then some (c.toNat - 97)
  else if c.isDigit then some (c.toNat - 22)
  else none

/-- A distance in front of digits, added to `i`, and the digits after it; the next digit counts
`weight`. -/
def readDistance? (bias place weight i : Nat) : List Char → Option (Nat × List Char)
  | [] => none
  | c :: rest =>
    match punyValue? c with
    | none => none
    | some d =>
      if d < punyThreshold place bias then some (i + d * weight, rest)
      else
        readDistance? bias (place + 36) (weight * (36 - punyThreshold place bias))
          (i + d * weight) rest

theorem readDistance?_length {bias : Nat} {digits : List Char} {place weight i : Nat}
    {r : Nat × List Char} (h : readDistance? bias place weight i digits = some r) :
    r.2.length < digits.length := by
  induction digits generalizing place weight i with
  | nil => simp [readDistance?] at h
  | cons c rest ih =>
    rw [readDistance?] at h
    split at h
    · simp at h
    · split at h
      · rw [← Option.some.inj h]
        simp
      · exact Nat.lt_succ_of_lt (ih h)

/-- The label with what the digits insert into it: the last insertion was of code point `n` before
place `i`. -/
def insertAll? (label : List Char) (n i bias : Nat) (digits : List Char) : Option (List Char) :=
  match digits with
  | [] => some label
  | c :: rest =>
    match _h : readDistance? bias 36 1 i (c :: rest) with
    | none => none
    | some (j, digits) =>
      let count := label.length + 1
      let m := n + j / count
      if m.isValidChar then
        insertAll? (label.insertIdx (j % count) (Char.ofNat m)) m (j % count + 1)
          (punyAdapt (j - i) count (i = 0)) digits
      else none
termination_by digits.length
decreasing_by
  exact readDistance?_length ‹_›

/-- The label that a text writes in ASCII. Without a hyphen no character of it is ASCII. -/
def unpunycode? (cs : List Char) : Option (List Char) :=
  let digits := (cs.reverse.takeWhile (· != '-')).reverse
  let basic := cs.take (cs.length - digits.length - 1)
  if basic = [] ∧ cs.contains '-' then none else insertAll? basic 0x80 0 72 digits

end ChatGateway.Url
