import ChatGateway.Text.CompositionData

/-!
# Composed form

The same text can be written with a letter and marks on it, or with one character for them all.
`composed` takes every character apart, puts the marks on one character in the order of their
classes, and puts together what can be put together. Syllables of the Korean script follow an
arithmetic of their own; all else is in a table.
-/

namespace ChatGateway.Text

/-! ## Korean syllables -/

/-- The number of medial vowels. -/
def vowelCount : Nat := 21

/-- The number of final consonants, with none counted as one. -/
def finalCount : Nat := 28

/-- The first syllable. -/
def syllableBase : Nat := 0xAC00

/-- The first initial consonant, the first vowel, and the place before the first final consonant. -/
def initialBase : Nat := 0x1100
def vowelBase : Nat := 0x1161
def finalBase : Nat := 0x11A7

/-- Whether a code point is a syllable. -/
def isSyllable (n : Nat) : Bool :=
  syllableBase ≤ n && n < syllableBase + 19 * vowelCount * finalCount

/-- The two characters that make up a syllable: a syllable without its final consonant and the
consonant, or the initial consonant and the vowel. -/
def syllableParts (n : Nat) : Nat × Nat :=
  let index := n - syllableBase
  if index % finalCount = 0 then
    (initialBase + index / finalCount / vowelCount, vowelBase + index / finalCount % vowelCount)
  else (n - index % finalCount, finalBase + index % finalCount)

/-- The syllable that two characters make up. -/
def syllable? (a b : Nat) : Option Nat :=
  if initialBase ≤ a ∧ a < initialBase + 19 ∧ vowelBase ≤ b ∧ b < vowelBase + vowelCount then
    some (syllableBase + ((a - initialBase) * vowelCount + (b - vowelBase)) * finalCount)
  else if isSyllable a ∧ (a - syllableBase) % finalCount = 0 ∧ finalBase < b ∧
      b < finalBase + finalCount then
    some (a + (b - finalBase))
  else none

/-! ## Taking apart -/

/-- The two characters that a code point is composed of. -/
def parts? (n : Nat) : Option (Nat × Nat) :=
  if isSyllable n then some (syllableParts n)
  else (composites.find? fun e => e.1 = n).map (·.2)

/-- The characters that a code point is composed of, taken apart at most `depth` times. -/
def apart : Nat → Nat → List Nat
  | 0, n => [n]
  | depth + 1, n =>
    match parts? n with
    | none => [n]
    | some (a, b) => apart depth a ++ [b]

/-- How often a character can be taken apart at most. -/
def deepest : Nat := 4

/-! ## Marks in order -/

/-- The class of a mark, zero for what is no mark. -/
def markClass (n : Nat) : Nat :=
  match markClasses.find? fun e => e.1 ≤ n && n ≤ e.2.1 with
  | some e => e.2.2
  | none => 0

/-- A character after others, newest first: it goes before the marks of a higher class. -/
def insertMark (n : Nat) : List Nat → List Nat
  | [] => [n]
  | m :: rest =>
    if 0 < markClass n ∧ markClass n < markClass m then m :: insertMark n rest else n :: m :: rest

/-- The characters with the marks on each in the order of their classes. -/
def inOrder (ns : List Nat) : List Nat := (ns.foldl (fun done n => insertMark n done) []).reverse

/-! ## Putting together -/

/-- The code point that two others are put together to. -/
def together? (a b : Nat) : Option Nat :=
  match syllable? a b with
  | some n => some n
  | none => (composites.find? fun e => e.2 = (a, b)).map (·.1)

/-- A text in the course of being put together. -/
structure Assembly where
  /-- What is settled, newest first. -/
  done : List Nat := []
  /-- The last character that is no mark. -/
  base : Option Nat := none
  /-- The marks after it that could not be joined with it, newest first. -/
  marks : List Nat := []

/-- Whether a character reaches the base over the marks between them. -/
def Assembly.isReached (s : Assembly) (n : Nat) : Bool :=
  match s.marks with
  | [] => true
  | m :: _ => markClass m < markClass n

/-- What has been put together so far, newest first. -/
def Assembly.all (s : Assembly) : List Nat := s.marks ++ s.base.toList ++ s.done

/-- The text with one more character. -/
def Assembly.add (s : Assembly) (n : Nat) : Assembly :=
  let joined := if s.isReached n then s.base.bind fun b => together? b n else none
  match joined with
  | some b => { s with base := some b }
  | none =>
    if markClass n = 0 then { done := s.all, base := some n, marks := [] }
    else { s with marks := n :: s.marks }

/-- The text in composed form. -/
def composed (cs : List Char) : List Char :=
  let ns := inOrder (cs.flatMap fun c => apart deepest c.toNat)
  ((ns.foldl Assembly.add {}).all.reverse).map Char.ofNat

end ChatGateway.Text
