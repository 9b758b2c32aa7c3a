import ChatGateway.Gateway.Backends
import ChatGateway.Gateway.Services
import ChatGateway.Text.Blank

/-!
# A caller's own providers

A caller may have stored keys of their own. For each name of a list in turn the key is looked up
and, if it is more than white space, a provider is built from it. The providers that turn out
healthy are the caller's own.
-/

namespace ChatGateway

/-- Who looks up keys and builds providers from them. -/
structure KeyRing where
  /-- The names to look up, in order. -/
  probes : List String
  keys : CallerId → String → Answer (Option String)
  factory : String → String → Option Profile

namespace KeyRing

/-- The key in an answer, unless it is blank. -/
def usableKey : Answer (Option String) → Option String
  | .value (some key) => if Text.isBlankText key then none else some key
  | _ => none

/-- A key is usable as it is stored, if not all of it is white space. -/
theorem usableKey_eq_some_iff {a : Answer (Option String)} {key : String} :
    usableKey a = some key ↔
      a = .value (some key) ∧ ∃ c ∈ key.toList, Text.isBlank c = false := by
  have hblank : Text.isBlankText key = false ↔ ∃ c ∈ key.toList, Text.isBlank c = false :=
    List.all_eq_false.trans (by simp)
  rw [← hblank]
  rcases a with (_ | stored) | _
  · simp [usableKey]
  · have hstored : usableKey (.value (some stored)) = some key ↔
        stored = key ∧ Text.isBlankText stored = false := by simp [usableKey, and_comm]
    rw [hstored]
    constructor
    · rintro ⟨rfl, h⟩
      exact ⟨rfl, h⟩
    · rintro ⟨⟨⟩, h⟩
      exact ⟨rfl, h⟩
  · simp [usableKey]

/-- The key of a caller for a name. -/
def credential (k : KeyRing) (caller : CallerId) (name : String) : Course (Option String) :=
  .consult (.key caller name) (usableKey (k.keys caller name))

/-- Whether the caller has a key for a name. -/
def hasKey (k : KeyRing) (caller : CallerId) (name : String) : Course Bool := do
  return (← k.credential caller name).isSome

/-- The providers built for the names, numbered from `serial` on. -/
def buildAll (k : KeyRing) (caller : CallerId) (serial : Nat) : List String → Course (List Provider)
  | [] => .done []
  | name :: rest => do
    match ← k.credential caller name with
    | none => k.buildAll caller serial rest
    | some key =>
      Course.record (.called (.build name key))
      match k.factory name key with
      | none => k.buildAll caller serial rest
      | some profile =>
        return ⟨profile, .built name key serial⟩ :: (← k.buildAll caller (serial + 1) rest)

/-- The caller's own providers that are healthy, in order. -/
def resolve (k : KeyRing) (b : Backends) (caller : CallerId) : Course (List Provider) := do
  b.healthy (← k.buildAll caller 0 k.probes)

/-- The text that describes the key ring. -/
def describe (k : KeyRing) : String :=
  Text.record "ByokResolver" [("providers", Text.quotedList k.probes)]

end KeyRing

end ChatGateway
