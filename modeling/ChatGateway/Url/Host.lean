import ChatGateway.Url.Label

/-!
# Hosts

The host of an address is a name, an address of four bytes, or an address of eight pieces of 16
bits. Names under the common schemes are put into lower-case ASCII; a name whose last label is a
number has to be an address of four bytes. Names under other schemes are kept as they are.
-/

namespace ChatGateway.Url

/-- Where an address points to. -/
inductive Host where
  | name (chars : List Char)
  | four (value : Nat)
  | eight (pieces : List Nat)
deriving DecidableEq, Repr

/-! ## Addresses of four bytes -/

/-- A number of an address: hexadecimal after `0x`, octal after a zero, decimal otherwise. -/
def hostNumber? : List Char → Option Nat
  | '0' :: 'x' :: rest => numberIn? 16 rest
  | '0' :: 'X' :: rest => numberIn? 16 rest
  | '0' :: c :: rest => numberIn? 8 (c :: rest)
  | [] => none
  | cs => numberIn? 10 cs

/-- The labels of a name, without the empty one after a point at its end. -/
def labels (name : List Char) : List (List Char) :=
  match (splitAt '.' name).reverse with
  | [] :: last :: rest => (last :: rest).reverse
  | all => all.reverse

/-- Whether the last label of a name is a number. -/
def endsInNumber (name : List Char) : Bool :=
  match (labels name).getLast? with
  | none => false
  | some [] => false
  | some last => last.all Char.isDigit || ((hostNumber? last).isSome && last.take 1 = ['0'])

/-- An address of up to four numbers, the last of which fills up the bytes that are left. -/
def four? (name : List Char) : Option Host :=
  match (labels name).mapM hostNumber? with
  | none => none
  | some numbers =>
    let count := numbers.length
    let last := numbers.getLast?.getD 0
    if count = 0 ∨ 4 < count ∨ numbers.dropLast.any (255 < ·) ∨ Nat.pow 256 (5 - count) ≤ last then
      none
    else
      let places := numbers.dropLast.zipIdx.map fun n => n.1 * Nat.pow 256 (3 - n.2)
      some (.four (last + places.foldr (· + ·) 0))

/-- An address of four bytes as text. -/
def fourText (value : Nat) : List Char :=
  ['.'].intercalate
    ([24, 16, 8, 0].map fun shift => Nat.toDigits 10 (value / Nat.pow 2 shift % 256))

/-! ## Addresses of eight pieces -/

/-- A piece of 16 bits. -/
def piece? (cs : List Char) : Option Nat :=
  if cs = [] ∨ 4 < cs.length then none else numberIn? 16 cs

/-- A byte in decimal, without zeros in front. -/
def byte? (cs : List Char) : Option Nat :=
  if cs = [] ∨ (cs.length > 1 ∧ cs.head? = some '0') ∨ 3 < cs.length then none
  else (numberIn? 10 cs).filter (· ≤ 255)

/-- Two pieces written as four bytes. -/
def bytePair? (cs : List Char) : Option (List Nat) :=
  match (splitAt '.' cs).mapM byte? with
  | some [a, b, c, d] => some [256 * a + b, 256 * c + d]
  | _ => none

/-- The pieces in a run of them, of which the last two may be written as four bytes. -/
def pieces? (mayHaveBytes : Bool) (cs : List Char) : Option (List Nat) :=
  if cs = [] then some []
  else
    let parts := splitAt ':' cs
    match parts.getLast? with
    | none => none
    | some last =>
      if mayHaveBytes ∧ last.contains '.' then
        match parts.dropLast.mapM piece?, bytePair? last with
        | some front, some pair => some (front ++ pair)
        | _, _ => none
      else parts.mapM piece?

/-- The characters before and after the first double colon. -/
def splitDouble (front : List Char) : List Char → Option (List Char × List Char)
  | ':' :: ':' :: rest => some (front.reverse, rest)
  | c :: rest => splitDouble (c :: front) rest
  | [] => none

/-- An address of eight pieces; a double colon stands for as many zeros as are missing. -/
def eight? (cs : List Char) : Option Host :=
  match splitDouble [] cs with
  | none =>
    match pieces? true cs with
    | some ps => if ps.length = 8 then some (.eight ps) else none
    | none => none
  | some (front, back) =>
    match pieces? false front, pieces? true back with
    | some xs, some ys =>
      if xs.length + ys.length ≤ 7 then
        some (.eight (xs ++ List.replicate (8 - xs.length - ys.length) 0 ++ ys))
      else none
    | _, _ => none

/-- The length of the run of zeros at the front. -/
def zeroRun (ps : List Nat) : Nat := (ps.takeWhile (· = 0)).length

/-- Where the longest run of at least two zeros begins, and its length; the first of equals. -/
def longestZeros (ps : List Nat) : Option (Nat × Nat) :=
  ((List.range 8).map fun i => (i, zeroRun (ps.drop i))).foldl
    (fun best run => match best with
      | none => if 2 ≤ run.2 then some run else none
      | some b => if b.2 < run.2 then some run else some b) none

/-- Pieces as text. -/
def piecesText (ps : List Nat) : List Char := [':'].intercalate (ps.map (Nat.toDigits 16))

/-- An address of eight pieces as text, its longest run of zeros left out. -/
def eightText (ps : List Nat) : List Char :=
  match longestZeros ps with
  | none => piecesText ps
  | some (start, length) =>
    piecesText (ps.take start) ++ [':', ':'] ++ piecesText (ps.drop (start + length))

/-! ## Names -/

/-- The text that bytes encode, none if they encode none. -/
def ofBytes? (bytes : List Nat) : Option (List Char) :=
  (String.fromUTF8? (bytes.map UInt8.ofNat).toByteArray).map String.toList

/-- What stands between brackets. -/
def bracketed? : List Char → Option (List Char)
  | '[' :: rest => if rest.getLast? = some ']' then some rest.dropLast else none
  | _ => none

/-- A host under a common scheme. -/
def Host.ofSpecial? (cs : List Char) : Option Host :=
  if cs.head? = some '[' then (bracketed? cs).bind eight?
  else
    match (ofBytes? (percentDecode cs)).bind asciiName? with
    | none => none
    | some domain =>
      if domain = [] then none
      else if endsInNumber domain then four? domain
      else some (.name domain)

/-- A host under any other scheme, which may be empty. -/
def Host.ofOther? (cs : List Char) : Option Host :=
  if cs.head? = some '[' then (bracketed? cs).bind eight?
  else if cs.any (· ∈ forbiddenInHost) then none
  else some (.name (percentEncode [] cs))

/-- A host as text. -/
def Host.text : Host → List Char
  | .name cs => cs
  | .four value => fourText value
  | .eight ps => ['['] ++ eightText ps ++ [']']

end ChatGateway.Url
