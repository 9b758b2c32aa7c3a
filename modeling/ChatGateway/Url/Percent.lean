/-!
# Percent encoding

A character that must not stand in a part of an address is written as its bytes, each as a percent
sign and two hexadecimal digits. Which characters these are depends on the part.
-/

namespace ChatGateway.Url

/-- The bytes of a character. -/
def bytesOf (c : Char) : List Nat := (String.singleton c).toUTF8.toList.map UInt8.toNat

/-- A digit in upper-case hexadecimal. -/
def upperHex (n : Nat) : Char := if n < 10 then Char.ofNat (48 + n) else Char.ofNat (55 + n)

/-- A byte in percent form. -/
def percentByte (n : Nat) : List Char := ['%', upperHex (n / 16), upperHex (n % 16)]

/-- The characters with those that are controls, not ASCII or listed in percent form. -/
def percentEncode (listed : List Char) (cs : List Char) : List Char :=
  cs.flatMap fun c =>
    if c.toNat < 0x20 ∨ 0x7F ≤ c.toNat ∨ c ∈ listed then (bytesOf c).flatMap percentByte else [c]

def fragmentListed : List Char := [' ', '"', '<', '>', '\x60']

def pathListed : List Char := fragmentListed ++ ['#', '?', '\x7b', '\x7d']

def userListed : List Char := pathListed ++ ['/', ':', ';', '=', '@', '[', '\\', ']', '^', '|']

def queryListed : List Char := [' ', '"', '#', '<', '>']

def specialQueryListed : List Char := queryListed ++ ['\'']

/-- The value of a hexadecimal digit. -/
def hexDigit? (c : Char) : Option Nat :=
  if c.isDigit then some (c.toNat - 48)
  else if 'a' ≤ c ∧ c ≤ 'f' then some (c.toNat - 87)
  else if 'A' ≤ c ∧ c ≤ 'F' then some (c.toNat - 55)
  else none

/-- The bytes that a text in percent form stands for. -/
def percentDecode : List Char → List Nat
  | '%' :: a :: b :: rest =>
    match hexDigit? a, hexDigit? b with
    | some x, some y => (16 * x + y) :: percentDecode rest
    | _, _ => 37 :: percentDecode (a :: b :: rest)
  | c :: rest => bytesOf c ++ percentDecode rest
  | [] => []

end ChatGateway.Url
