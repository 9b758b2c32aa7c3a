import ChatGateway.Text.CaseData

/-!
# Lower-casing

`lowercase` writes every character in its lower-case form. The form depends on the neighbours for
one character only: a capital sigma becomes the final sigma when, characters without case of
their own passed over, a cased character stands before it and none stands after it. One
character, the dotted capital I, becomes two.
-/

namespace ChatGateway.Text

/-- The lower-case form of a character on its own. -/
def lowerChar (c : Char) : List Char :=
  let n := c.toNat
  if n < 0x80 then [c.toLower]
  else if n = 0x130 then ['i', '\u0307']
  else
    match ShiftRun.image? caseRuns n with
    | some m => [Char.ofNat m]
    | none => [c]

/-- Whether the first character that is not passed over has case. -/
def meetsCased (cs : List Char) : Bool :=
  match cs.find? fun c => !caseIgnorableRanges.covers c with
  | some c => casedRanges.covers c
  | none => false

/-- The lower-case form of `c` between the characters before it, nearest first, and after it. -/
def lowerBetween (before : List Char) (c : Char) (after : List Char) : List Char :=
  if c = 'Σ' then
    if meetsCased before && !meetsCased after then ['ς'] else ['σ']
  else lowerChar c

/-- The lower-case form of a text of which `before` has already been read, nearest first. -/
def lowerFrom (before : List Char) : List Char → List Char
  | [] => []
  | c :: rest => lowerBetween before c rest ++ lowerFrom (c :: before) rest

/-- The text in lower case. -/
def lowercase (s : String) : List Char := lowerFrom [] s.toList

end ChatGateway.Text
