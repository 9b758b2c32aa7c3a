import ChatGateway.Url.Host
import ChatGateway.Url.Path

/-!
# Addresses of services

An absolute address: a scheme, perhaps a user, a host with perhaps a number after a colon, a path,
perhaps a query and a fragment. `Url.ofText?` reads one, and `Url.text` writes it in its normal
form: the scheme and the host in lower case, the number left out where it is the usual one, the
path without steps to the same or to the parent place.
-/

namespace ChatGateway

open Url

/-- Who asks, whom, and under which number. -/
structure Authority where
  user : List Char := []
  password : List Char := []
  host : Host
  portNumber : Option Nat := none
deriving DecidableEq, Repr

/-- An absolute address. -/
structure Url where
  scheme : List Char
  authority : Option Authority := none
  path : List Char
  query : Option (List Char) := none
  fragment : Option (List Char) := none
deriving DecidableEq, Repr

namespace Url

/-- The common schemes and their usual numbers. -/
def commonSchemes : List (String × Option Nat) :=
  [("http", some 80), ("https", some 443), ("ws", some 80), ("wss", some 443), ("ftp", some 21),
    ("file", none)]

def isCommon (scheme : List Char) : Bool := commonSchemes.any fun s => s.1.toList = scheme

def usualPortNumber? (scheme : List Char) : Option Nat :=
  (commonSchemes.find? fun s => s.1.toList = scheme).bind (·.2)

/-- The scheme in front of the first colon, in lower case, and what follows. -/
def splitScheme? (cs : List Char) : Option (List Char × List Char) :=
  let isSchemeChar := fun (c : Char) => c.isAlphanum || c = '+' || c = '-' || c = '.'
  let scheme := cs.takeWhile isSchemeChar
  match scheme, cs.dropWhile isSchemeChar with
  | first :: _, ':' :: rest => if first.isAlpha then some (scheme.map Char.toLower, rest) else none
  | _, _ => none

/-! ## Authorities -/

/-- The characters before and after the last `@` that stands before any slash. -/
def splitUser? (common : Bool) (cs : List Char) : Option (List Char × List Char) :=
  let front := cs.takeWhile fun c => !isSlash common c
  if front.contains '@' then
    let host := (front.reverse.takeWhile (· != '@')).reverse
    let user := front.length - host.length - 1
    some (cs.take user, cs.drop (user + 1))
  else none

/-- The host at the front, which a slash ends and outside brackets a colon too, and what comes
after it. -/
def splitHost (common inside : Bool) : List Char → List Char × List Char
  | [] => ([], [])
  | c :: rest =>
    if isSlash common c ∨ (c = ':' ∧ inside = false) then ([], c :: rest)
    else
      let next :=
        splitHost common (if c = '[' then true else if c = ']' then false else inside) rest
      (c :: next.1, next.2)

/-- The number after a colon, none of it if it is empty or the usual one, and what comes after
it. Any slash ends it. -/
def splitPortNumber? (scheme : List Char) : List Char → Option (Option Nat × List Char)
  | ':' :: rest =>
    let digits := rest.takeWhile Char.isDigit
    let after := rest.dropWhile Char.isDigit
    let number := (numberIn? 10 digits).getD 0
    if 65535 < number ∨ after.head?.any fun c => !isSlash true c then none
    else if digits = [] ∨ usualPortNumber? scheme = some number then some (none, after)
    else some (some number, after)
  | cs => some (none, cs)

/-- A host, by the rules of its scheme. -/
def hostOf? (common : Bool) (cs : List Char) : Option Host :=
  if common then Host.ofSpecial? cs else Host.ofOther? cs

/-- An authority, and what comes after it. A host may be missing only if no user and no colon is
there, and not under a common scheme; `more` tells whether anything follows the text. -/
def splitAuthority? (scheme : List Char) (more : Bool) (cs : List Char) :
    Option (Authority × List Char) :=
  let common := isCommon scheme
  let credentials := splitUser? common cs
  let user := (credentials.map (·.1)).getD []
  let rest := (credentials.map (·.2)).getD cs
  let userName := user.takeWhile (· != ':')
  let password := (user.dropWhile (· != ':')).drop 1
  let (host, after) := splitHost common false rest
  let isNobody := userName = [] ∧ password = []
  let endsAtOnce := after ≠ [] ∨ more
  if host = [] ∧ (common ∨ after.head? = some ':' ∨ ¬isNobody ∨
      (credentials.isSome ∧ user = [] ∧ endsAtOnce)) then none
  else
    match hostOf? common host, splitPortNumber? scheme after with
    | some host, some (number, after) =>
      some
        ({ user := percentEncode userListed userName
           password := percentEncode userListed password
           host := host
           portNumber := number }, after)
    | _, _ => none

/-! ## Whole addresses -/

/-- What stands before a mark, and what after it if it occurs. -/
def splitMark (mark : Char) (cs : List Char) : List Char × Option (List Char) :=
  let front := cs.takeWhile (· != mark)
  (front, if front.length < cs.length then some (cs.drop (front.length + 1)) else none)

/-- The path after an authority. -/
def pathAfter (common : Bool) (cs : List Char) : List Char :=
  match cs with
  | [] => if common then ['/'] else []
  | c :: rest =>
    if common && isSlash true c then readPath true ['/'] rest
    else if c = '/' then readPath false [] cs
    else readPath common ['/'] cs

/-- A place in a file system whose host is empty. -/
def localPlace (start cs : List Char) : Authority × List Char :=
  ({ host := .name [] }, (readFilePath start cs).text)

/-- The place in a file system, after the scheme. A drive has no host. -/
def filePlace? (cs : List Char) : Option (Authority × List Char) :=
  match cs with
  | a :: b :: rest =>
    if isSlash true a && isSlash true b then
      let host := rest.takeWhile fun c => !isSlash true c
      let after := rest.dropWhile fun c => !isSlash true c
      if isDrive host then some (localPlace ['/'] rest)
      else if host = [] then some (localPlace ['/'] after)
      else
        (Host.ofSpecial? host).map fun h =>
          if h = .name "localhost".toList then localPlace ['/'] after
          else
            let path := readFilePath ['/'] (after.drop 1)
            ({ host := if path.onDrive then .name [] else h }, path.text)
    else if isSlash true a then some (localPlace [] cs)
    else some (localPlace ['/'] cs)
  | [a] => if isSlash true a then some (localPlace [] cs) else some (localPlace ['/'] cs)
  | [] => some (localPlace ['/'] [])

/-- The place that an address points to, after the scheme and without query and fragment; `more`
tells whether there is one of these. -/
def place? (scheme : List Char) (more : Bool) (cs : List Char) :
    Option (Option Authority × List Char) :=
  let common := isCommon scheme
  let withAuthority := fun (cs : List Char) =>
    (splitAuthority? scheme more cs).map fun a => (some a.1, pathAfter common a.2)
  if scheme = "file".toList then (filePlace? cs).map fun p => (some p.1, p.2)
  else if common then withAuthority (cs.dropWhile (isSlash true))
  else
    match cs with
    | '/' :: '/' :: rest => withAuthority rest
    | '/' :: rest => some (none, readPath false ['/'] rest)
    | cs => some (none, percentEncode [] cs)

/-- The text without white space and controls around it, and without tabs and line breaks. -/
def tidy (cs : List Char) : List Char :=
  let isEdge := fun (c : Char) => decide (c.toNat ≤ 0x20)
  ((cs.dropWhile isEdge).reverse.dropWhile isEdge).reverse.filter fun c =>
    c != '\t' && c != '\n' && c != '\r'

/-- The address that a text spells out. -/
def ofText? (text : String) : Option Url :=
  match splitScheme? (tidy text.toList) with
  | none => none
  | some (scheme, rest) =>
    let (rest, fragment) := splitMark '#' rest
    let (rest, query) := splitMark '?' rest
    (place? scheme (query.isSome || fragment.isSome) rest).map fun place =>
      { scheme := scheme
        authority := place.1
        path := place.2
        query := query.map
          (percentEncode (if isCommon scheme then specialQueryListed else queryListed))
        fragment := fragment.map (percentEncode fragmentListed) }

/-- An authority as text. -/
def authorityText (a : Authority) : List Char :=
  let credentials := a.user ++ if a.password = [] then [] else ':' :: a.password
  (if credentials = [] then [] else credentials ++ ['@']) ++ a.host.text ++
    match a.portNumber with
    | none => []
    | some n => ':' :: Nat.toDigits 10 n

/-- A path as text. Without an authority it must not begin with two slashes. -/
def pathText (hasAuthority : Bool) (path : List Char) : List Char :=
  if !hasAuthority && ['/', '/'].isPrefixOf path then ['/', '.'] ++ path else path

/-- The address as text. -/
def text (u : Url) : String :=
  String.ofList (u.scheme ++ [':'] ++
    (match u.authority with
      | none => []
      | some a => ['/', '/'] ++ authorityText a) ++
    pathText u.authority.isSome u.path ++
    (match u.query with
      | none => []
      | some cs => '?' :: cs) ++
    (match u.fragment with
      | none => []
      | some cs => '#' :: cs))

end Url

end ChatGateway
