import ChatGateway.Routing.Strategy

/-!
# Desks

A desk keeps the signals and one rotation for all the strategies that are made at it, whether a
strategy is used again and again or made anew for every request. A balanced strategy may also
have a rotation of its own.
-/

namespace ChatGateway

/-- A strategy that is kept for use. -/
structure Selector where
  strategy : Strategy
  /-- The rotation of its own, if it does not share that of the desk. -/
  ownRotation : Option Rotation := none

/-- Strategies over shared signals and a shared rotation. -/
structure Desk where
  signals : Signals
  rotation : Rotation := {}
  selectors : List Selector := []

/-- What a selection comes to. -/
abbrev Selection := Except Fault (Except SelectionError Provider)

namespace Desk

/-- A pick by a strategy with the rotation of the desk. -/
def select (d : Desk) (strategy : Strategy) (request : ChatRequest) (candidates : List Provider) :
    Selection × Desk :=
  (strategy.select d.signals d.rotation request candidates,
    { d with rotation := strategy.advance candidates d.rotation })

/-- A pick by a selector, which is returned as it is afterwards. -/
def consult (d : Desk) (s : Selector) (request : ChatRequest) (candidates : List Provider) :
    Selection × Selector × Desk :=
  match s.ownRotation with
  | none => ((d.select s.strategy request candidates).1, s,
      (d.select s.strategy request candidates).2)
  | some rotation => (s.strategy.select d.signals rotation request candidates,
      { s with ownRotation := some (s.strategy.advance candidates rotation) }, d)

/-- The desk with one more selector. -/
def keep (d : Desk) (s : Selector) : Desk := { d with selectors := d.selectors ++ [s] }

/-- A pick by the selector with a number, none if there is no such selector. -/
def use? (d : Desk) (i : Nat) (request : ChatRequest) (candidates : List Provider) :
    Option (Selection × Desk) :=
  match d.selectors[i]? with
  | none => none
  | some s =>
    let (selection, s, d) := d.consult s request candidates
    some (selection, { d with selectors := d.selectors.set i s })

/-- The rules of a selector by rules, with their priorities, in the order in which they are looked
at. -/
def ruleOrder? (d : Desk) (i : Nat) : Option (List (String × Int32)) :=
  match d.selectors[i]? with
  | some ⟨.custom rules, _⟩ => some (rules.map fun r => (r.provider, r.priority))
  | _ => none

end Desk

end ChatGateway
