import ChatGateway.Text.Composition
import ChatGateway.Url.FoldData
import ChatGateway.Url.Percent

/-!
# Folding names

Host names that differ in the form of their letters only are the same name. `folded?` gives every
character the form that stands for all, leaves out what does not count, and puts letters and marks
together. It fails on a name with a character that may not stand in any.
-/

namespace ChatGateway.Url

/-- The texts between the occurrences of a character. -/
def splitAt (mark : Char) : List Char → List (List Char)
  | [] => [[]]
  | c :: rest =>
    match splitAt mark rest with
    | [] => [[c]]
    | part :: parts => if c = mark then [] :: part :: parts else (c :: part) :: parts

/-- The number that digits to a base denote, none if one is no such digit. -/
def numberIn? (base : Nat) (cs : List Char) : Option Nat :=
  cs.foldlM (fun n c => match hexDigit? c with
    | some d => if d < base then some (base * n + d) else none
    | none => none) 0

/-- The characters whose code points a text lists with plus signs between them. -/
def listedChars (cs : List Char) : List Char :=
  (splitAt '+' cs).filterMap fun code => (numberIn? 16 code).map Char.ofNat

/-- What a code point stands for by the table of texts. -/
def foldText? (n : Nat) : Option (List Char) :=
  match (foldTexts.takeWhile fun e => e.1 ≤ n).getLast? with
  | none => none
  | some (first, text) => ((splitAt ' ' text.toList)[n - first]?).map listedChars

/-- What a character stands for, none if it may not stand in a name. -/
def foldChar? (c : Char) : Option (List Char) :=
  let n := c.toNat
  if ignoredRanges.covers c then some []
  else
    match Text.ShiftRun.image? foldShifts n with
    | some m => some [Char.ofNat m]
    | none =>
      match foldText? n with
      | some cs => some cs
      | none => if refusedRanges.covers c then none else some [c]

/-- The name that a text stands for. -/
def folded? (cs : List Char) : Option (List Char) :=
  (cs.mapM foldChar?).map fun parts => Text.composed parts.flatten

end ChatGateway.Url
