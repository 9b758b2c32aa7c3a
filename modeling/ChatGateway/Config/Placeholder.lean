import ChatGateway.Text.Blank
import ChatGateway.Text.Lines

/-!
# Placeholders in configuration text

A configuration text may hold placeholders for environment variables: two opening braces, a key,
an optional default in quotes, two closing braces. `pieces` cuts a line into its placeholders and
the characters between them, leftmost first, and `expandLine` puts the value of each placeholder
in its place. What is put in is not looked at again. `expand` does so for every line of a text
that is not a comment.
-/

namespace ChatGateway.Config

open Text

/-- The values of the environment variables that are set. -/
abbrev Environment := String → Option String

/-- A placeholder: the key between the braces, and the default if there is one. -/
structure Placeholder where
  key : List Char
  fallback : Option (List Char)
deriving DecidableEq, Repr

/-- The characters of a key: ASCII letters, digits, the underscore and the point. -/
def isKeyChar (c : Char) : Bool := c.isAlphanum || c = '_' || c = '.'

/-- A bar, the word `default` and a text in quotes and parentheses at the front of the characters:
the text between the quotes, and what follows. -/
def fallback? : List Char → Option (List Char × List Char)
  | '|' :: rest =>
    match rest.dropWhile isBlank with
    | 'd' :: 'e' :: 'f' :: 'a' :: 'u' :: 'l' :: 't' :: '(' :: '"' :: rest =>
      match rest.dropWhile (· != '"') with
      | '"' :: ')' :: after => some (rest.takeWhile (· != '"'), after)
      | _ => none
    | _ => none
  | _ => none

/-- What follows two closing braces, white space before them passed over. -/
def closing? (cs : List Char) : Option (List Char) :=
  match cs.dropWhile isBlank with
  | '\x7d' :: '\x7d' :: after => some after
  | _ => none

/-- What a placeholder holds after its two opening braces, and what follows it. -/
def placeholderBody? (cs : List Char) : Option (Placeholder × List Char) :=
  let inner := cs.dropWhile isBlank
  let key := inner.takeWhile isKeyChar
  let rest := (inner.dropWhile isKeyChar).dropWhile isBlank
  if key.isEmpty then none
  else
    match fallback? rest with
    | some (text, rest) => (closing? rest).map fun after => (⟨key, some text⟩, after)
    | none => (closing? rest).map fun after => (⟨key, none⟩, after)

/-- The placeholder at the front of the characters, and what follows it. -/
def placeholder? : List Char → Option (Placeholder × List Char)
  | '\x7b' :: '\x7b' :: rest => placeholderBody? rest
  | _ => none

theorem length_fallback? {cs text after : List Char} (h : fallback? cs = some (text, after)) :
    after.length ≤ cs.length := by
  unfold fallback? at h
  split at h
  · rename_i rest
    split at h
    · rename_i inner hi
      split at h
      · rename_i out ho
        obtain ⟨-, rfl⟩ := Prod.mk.inj (Option.some.inj h)
        have h₁ := (List.dropWhile_suffix (fun c => c != '"') (l := inner)).length_le
        have h₂ := (List.dropWhile_suffix isBlank (l := rest)).length_le
        rw [ho] at h₁
        rw [hi] at h₂
        simp only [List.length_cons] at h₁ h₂ ⊢
        omega
      · cases h
    · cases h
  · cases h

theorem length_closing? {cs after : List Char} (h : closing? cs = some after) :
    after.length ≤ cs.length := by
  unfold closing? at h
  split at h
  · rename_i out ho
    obtain rfl := Option.some.inj h
    have h₁ := (List.dropWhile_suffix isBlank (l := cs)).length_le
    rw [ho] at h₁
    simp only [List.length_cons] at h₁
    omega
  · cases h

/-- A placeholder leaves fewer characters than it found. -/
theorem length_placeholder? {cs after : List Char} {p : Placeholder}
    (h : placeholder? cs = some (p, after)) : after.length < cs.length := by
  unfold placeholder? at h
  split at h
  · rename_i body
    unfold placeholderBody? at h
    have h₁ := (List.dropWhile_suffix isBlank (l := body)).length_le
    have h₂ := (List.dropWhile_suffix isKeyChar (l := body.dropWhile isBlank)).length_le
    have h₃ := (List.dropWhile_suffix isBlank
      (l := (body.dropWhile isBlank).dropWhile isKeyChar)).length_le
    simp only at h
    split at h
    · cases h
    · split at h
      · rename_i text rest hf
        obtain ⟨out, ho, he⟩ := Option.map_eq_some_iff.1 h
        obtain ⟨-, rfl⟩ := Prod.mk.inj he
        have h₄ := length_fallback? hf
        have h₅ := length_closing? ho
        simp only [List.length_cons]
        omega
      · obtain ⟨out, ho, he⟩ := Option.map_eq_some_iff.1 h
        obtain ⟨-, rfl⟩ := Prod.mk.inj he
        have h₅ := length_closing? ho
        simp only [List.length_cons]
        omega
  · cases h

/-- A part of a line. -/
inductive Piece where
  | char (c : Char)
  | placeholder (p : Placeholder)
deriving DecidableEq, Repr

/-- The line cut into placeholders, leftmost first, and the characters outside them. -/
def pieces : List Char → List Piece
  | [] => []
  | c :: rest =>
    match _h : placeholder? (c :: rest) with
    | some (p, after) => .placeholder p :: pieces after
    | none => .char c :: pieces rest
termination_by cs => cs.length
decreasing_by
  · exact length_placeholder? _h
  · exact Nat.lt_succ_self _

/-- Why a text could not be expanded. -/
inductive ExpansionError where
  /-- A key that does not name an environment variable. -/
  | outOfScope (key : String)
  /-- A variable that is not set and has no default. -/
  | unset (name : String)
deriving DecidableEq, Repr

/-- The text of the error. -/
def ExpansionError.message : ExpansionError → String
  | .outOfScope key => "only variables scoped with 'env.' are supported: `" ++ key ++ "`"
  | .unset name => "environment variable not found: `" ++ name ++ "`"

/-- The variable that a key names: what follows `env.`, if that has no point. -/
def variableOf? : List Char → Option (List Char)
  | 'e' :: 'n' :: 'v' :: '.' :: name => if '.' ∈ name then none else some name
  | _ => none

/-- The text that a placeholder stands for. -/
def Placeholder.resolve (env : Environment) (p : Placeholder) : Except ExpansionError (List Char) :=
  match variableOf? p.key with
  | none => .error (.outOfScope (String.ofList p.key))
  | some name =>
    match env (String.ofList name), p.fallback with
    | some value, _ => .ok value.toList
    | none, some text => .ok text
    | none, none => .error (.unset (String.ofList name))

/-- The text that a piece stands for. -/
def Piece.resolve (env : Environment) : Piece → Except ExpansionError (List Char)
  | .char c => .ok [c]
  | .placeholder p => p.resolve env

/-- The text that the pieces stand for, or the error of the first piece that has none. -/
def resolvePieces (env : Environment) : List Piece → Except ExpansionError (List Char)
  | [] => .ok []
  | p :: rest =>
    match p.resolve env with
    | .error e => .error e
    | .ok text =>
      match resolvePieces env rest with
      | .error e => .error e
      | .ok after => .ok (text ++ after)

/-- The line with every placeholder replaced by what it stands for. -/
def expandLine (env : Environment) (line : List Char) : Except ExpansionError (List Char) :=
  resolvePieces env (pieces line)

/-- Whether a line is a comment: its first character that is not white space is a hash. -/
def isComment (line : List Char) : Bool := (line.dropWhile isBlank).head? = some '#'

/-- The lines with the placeholders replaced, comments left as they are. -/
def expandLines (env : Environment) : List (List Char) → Except ExpansionError (List (List Char))
  | [] => .ok []
  | line :: rest =>
    match if isComment line then .ok line else expandLine env line with
    | .error e => .error e
    | .ok line =>
      match expandLines env rest with
      | .error e => .error e
      | .ok rest => .ok (line :: rest)

/-- The text with the placeholders replaced. Every line ends with a line feed, the last one only
if it did so before. -/
def expand (env : Environment) (text : String) : Except ExpansionError String :=
  (expandLines env (lines text.toList)).map fun ls =>
    String.ofList (joinLines ls ++ if text.toList.getLast? = some '\n' then ['\n'] else [])

end ChatGateway.Config
