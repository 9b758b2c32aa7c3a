import ChatGateway.Url.ClassData
import ChatGateway.Url.Folding
import ChatGateway.Url.Punycode

/-!
# Labels of names

A name consists of labels with points between them. A label that begins with `xn--` writes
another one in ASCII. What a label says has to be well formed: it does not begin with a mark, a
joiner stands only where letters join or a script calls for it, and if any label of the name
is written from right to left then every label keeps to one direction.
-/

namespace ChatGateway.Url

open Text (markClass)

/-! ## Marks and joiners -/

/-- Whether a character is a mark without a width of its own. -/
def isNonspacing (c : Char) : Bool := nonspacingRanges.covers c

/-- Whether a character is a mark. -/
def isMark (c : Char) : Bool := isNonspacing c || spacingRanges.covers c

/-- Whether joining passes over a character. -/
def isTransparent (c : Char) : Bool := isNonspacing c || transparentRanges.covers c

/-- Whether a character joins with the one after it. -/
def joinsOn (c : Char) : Bool := dualJoiningRanges.covers c || leftJoiningRanges.covers c

/-- Whether a character joins with the one before it. -/
def joinsBack (c : Char) : Bool := dualJoiningRanges.covers c || rightJoiningRanges.covers c

/-- Whether the first character that joining does not pass over is of a kind. -/
def meets (kind : Char → Bool) (cs : List Char) : Bool :=
  match cs.find? fun c => kind c || !isTransparent c with
  | some c => kind c
  | none => false

/-- The mark class of the sign that takes the vowel from a letter. -/
def vowelKiller : Nat := 9

/-- Whether a character may stand between those before it, nearest first, and those after it. -/
def joinerFits (before : List Char) (c : Char) (after : List Char) : Bool :=
  if c = '\u200c' ∨ c = '\u200d' then
    match before with
    | [] => false
    | b :: _ =>
      markClass b.toNat = vowelKiller ||
        (c = '\u200c' && meets joinsOn before && meets joinsBack after)
  else true

/-- Whether all joiners of a label fit, of which `before` has been read, nearest first. -/
def joinersFit (before : List Char) : List Char → Bool
  | [] => true
  | c :: rest => joinerFits before c rest && joinersFit (c :: before) rest

/-! ## Directions -/

/-- The part that a character has in the direction of writing. -/
inductive Direction where
  | left
  | right
  | arabicDigit
  | europeanDigit
  /-- What may stand in either direction. -/
  | neutral
  | mark
deriving DecidableEq, Repr

/-- The direction of a character. -/
def directionOf (c : Char) : Direction :=
  if isNonspacing c then .mark
  else if europeanDigitRanges.covers c then .europeanDigit
  else if arabicDigitRanges.covers c then .arabicDigit
  else if rightToLeftRanges.covers c || arabicLetterRanges.covers c then .right
  else if signRanges.covers c || separatorRanges.covers c || terminatorRanges.covers c ||
      boundaryRanges.covers c || neutralRanges.covers c then .neutral
  else .left

/-- Whether a label calls for the rules of direction. -/
def isDirected (label : List Char) : Bool :=
  label.any fun c => directionOf c ∈ [.right, .arabicDigit]

/-- Whether the last direction, marks left out, is one of the given ones. -/
def endsIn (allowed : List Direction) (ds : List Direction) : Bool :=
  match ds.reverse.find? (· ≠ .mark) with
  | some d => d ∈ allowed
  | none => false

/-- Whether a label keeps to one direction. -/
def keepsDirection (label : List Char) : Bool :=
  let ds := label.map directionOf
  match ds with
  | [] => true
  | .left :: _ =>
    ds.all (· ∈ [.left, .europeanDigit, .neutral, .mark]) && endsIn [.left, .europeanDigit] ds
  | .right :: _ =>
    ds.all (· ≠ .left) && endsIn [.right, .europeanDigit, .arabicDigit] ds &&
      !(ds.contains .europeanDigit && ds.contains .arabicDigit)
  | _ => false

/-! ## Labels -/

/-- The characters that no host holds. -/
def forbiddenInHost : List Char :=
  ['\x00', '\t', '\n', '\r', ' ', '#', '/', ':', '<', '>', '?', '@', '[', '\\', ']', '^', '|']

/-- Whether a character must not stand in a name under a common scheme. -/
def isForbiddenInName (c : Char) : Bool :=
  c ∈ forbiddenInHost || c.toNat < 0x20 || c = '%' || c.toNat = 0x7F

/-- Whether every character is ASCII. -/
def isAscii (cs : List Char) : Bool := cs.all fun c => c.toNat < 0x80

/-- What stands after the prefix of a label that is written in ASCII. -/
def afterPrefix? : List Char → Option (List Char)
  | 'x' :: 'n' :: '-' :: '-' :: rest => some rest
  | _ => none

/-- The longest label that is written in ASCII, and the longest text that is read as one. -/
def longestLabel : Nat := 1000
def longestCode : Nat := 2000

/-- What a label in ASCII says. It is already folded, and is not all ASCII. -/
def decoded? (code : List Char) : Option (List Char) :=
  if !isAscii code || code = [] || code.getLast? = some '-' || longestCode < code.length then none
  else
    match unpunycode? code with
    | none => none
    | some label =>
      if folded? label = some label ∧ '.' ∉ label ∧ label.all fun c => !isForbiddenInName c then
        some label
      else none

/-- What a label of a folded name says. -/
def labelSays? (label : List Char) : Option (List Char) :=
  match afterPrefix? label with
  | some code => decoded? code
  | none => some label

/-- Whether a label is well formed in itself. -/
def isWellFormed (label : List Char) : Bool :=
  !(label.head?.any isMark) && joinersFit [] label &&
    (isAscii label || label.length ≤ longestLabel)

/-- A label in ASCII. -/
def asciiLabel (label : List Char) : List Char :=
  if isAscii label then label else "xn--".toList ++ punycode label

/-- A name in lower-case ASCII. -/
def asciiName? (cs : List Char) : Option (List Char) :=
  match (folded? cs).bind fun name => (splitAt '.' name).mapM labelSays? with
  | none => none
  | some labels =>
    if labels.all isWellFormed ∧ (labels.any isDirected → labels.all keepsDirection) ∧
        labels.all (fun label => label.all fun c => !isForbiddenInName c) then
      some (['.'].intercalate (labels.map asciiLabel))
    else none

end ChatGateway.Url
