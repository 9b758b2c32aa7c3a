import ChatGateway.Url.Folding

/-!
# Paths

A path is read segment by segment, and the text of it grows: `PathSoFar.add`. A segment of one
point stays at the same place, one of two points goes back to the parent place. Letters of drives,
as in `C:`, are never left again.
-/

namespace ChatGateway.Url

/-- Whether a character stands between segments. -/
def isSlash (common : Bool) (c : Char) : Bool := c = '/' || (common && c = '\\')

/-- Whether a segment stays where it is. -/
def isHere (segment : List Char) : Bool :=
  segment.map Char.toLower ∈ [".".toList, "%2e".toList]

/-- Whether a segment goes to the parent place. -/
def isParent (segment : List Char) : Bool :=
  segment.map Char.toLower ∈
    ["..".toList, ".%2e".toList, "%2e.".toList, "%2e%2e".toList]

/-- Whether a text is the letter of a drive with a colon or a bar. -/
def isDrive : List Char → Bool
  | [letter, mark] => letter.isAlpha && (mark = ':' || mark = '|')
  | _ => false

/-- Whether a text begins like a place on a drive. -/
def beginsOnDrive : List Char → Bool
  | letter :: mark :: rest => isDrive [letter, mark] && (rest = [] || rest.head? = some '\\')
  | _ => false

/-- Whether a text is the letter of a drive with a colon. -/
def isPlainDrive (segment : List Char) : Bool :=
  isDrive segment && segment.getLast? = some ':'

/-- A path in the course of being read. -/
structure PathSoFar where
  /-- The text so far. -/
  text : List Char
  /-- Whether a drive stands where a host would make no sense. -/
  onDrive : Bool := false
deriving DecidableEq, Repr

/-- The text after the last slash. -/
def lastSegment (text : List Char) : List Char := (text.reverse.takeWhile (· != '/')).reverse

/-- The text up to the last slash, the slash included. -/
def upToSlash (text : List Char) : List Char :=
  text.take (text.length - (lastSegment text).length)

/-- Whether the slash at the end of a text can be taken away: there is one before it, and no drive
between them. -/
def canDropSlash (text : List Char) : Bool :=
  text.getLast? = some '/' && text.dropLast.contains '/' &&
    !beginsOnDrive (lastSegment text.dropLast)

/-- The parent of the place where a text ends; in a file system a drive has none. -/
def parentOf (inFiles : Bool) (text : List Char) : List Char :=
  let text := if canDropSlash text then text.dropLast else text
  if inFiles && isPlainDrive (lastSegment text) then text else upToSlash text

/-- The text with a slash at its end. -/
def endSlash (text : List Char) : List Char :=
  if text.getLast? = some '/' then text else text ++ ['/']

/-- The path with one more segment. -/
def PathSoFar.add (inFiles : Bool) (p : PathSoFar) (segment : List Char) (isLast : Bool) :
    PathSoFar :=
  if isParent segment then
    let parent := parentOf inFiles p.text
    { p with text := if isLast then parent else endSlash parent }
  else if isHere segment then { p with text := endSlash p.text }
  else
    let slash := if isLast then [] else ['/']
    if inFiles && p.text.length = 1 && isDrive segment then
      ⟨p.text ++ segment.take 1 ++ [':'] ++ slash, true⟩
    else { p with text := p.text ++ percentEncode pathListed segment ++ slash }

/-- The path with all segments of a list. -/
def PathSoFar.addAll (inFiles : Bool) (p : PathSoFar) : List (List Char) → PathSoFar
  | [] => p
  | [segment] => p.add inFiles segment true
  | segment :: rest => (p.add inFiles segment false).addAll inFiles rest

/-- The texts between slashes. -/
def splitSlashes (common : Bool) (cs : List Char) : List (List Char) :=
  splitAt '/' (cs.map fun c => if isSlash common c then '/' else c)

/-- The path that a text spells out after the beginning of one. -/
def readPath (common : Bool) (start : List Char) (cs : List Char) : List Char :=
  ((⟨start, false⟩ : PathSoFar).addAll false (splitSlashes common cs)).text

/-- The path in a file system that a text spells out after the beginning of one. It begins with
one slash only. -/
def readFilePath (start : List Char) (cs : List Char) : PathSoFar :=
  let p := (⟨start, false⟩ : PathSoFar).addAll true (splitSlashes true cs)
  { p with text := '/' :: p.text.dropWhile (· = '/') }

end ChatGateway.Url
