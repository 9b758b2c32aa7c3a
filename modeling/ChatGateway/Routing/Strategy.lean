import ChatGateway.Routing.ModelMatch
import ChatGateway.Routing.Rotation
import ChatGateway.Routing.Rule
import ChatGateway.Routing.StrategyKind

/-!
# Strategies

A strategy picks one of the candidates for a request (`Strategy.select`). It fails only when there
is no candidate. The balanced strategy alone uses up a turn of the rotation
(`Strategy.advance`), and it does so with every pick.
-/

namespace ChatGateway

namespace RuleOrder

/-- Rules in the order in which they are looked at: higher priorities first, and rules of one
priority as they were given. -/
def sorted (rules : List RoutingRule) : List RoutingRule :=
  rules.mergeSort fun a b => b.priority.toInt ≤ a.priority.toInt

/-- Stored rules in a form that can be decided, in the order in which they are looked at. -/
def compiled (rules : List StoredRule) : List RoutingRule := sorted (rules.map StoredRule.compile)

/-- The candidate named by the first rule that matches and names one. -/
def named? (s : Signals) (request : ChatRequest) (candidates : List Provider) :
    List RoutingRule → Except Fault (Option Provider)
  | [] => .ok none
  | r :: rest =>
    match r.holdsFor s request with
    | .error fault => .error fault
    | .ok false => named? s request candidates rest
    | .ok true =>
      match candidates.find? fun p => p.name = r.provider with
      | some p => .ok (some p)
      | none => named? s request candidates rest

/-- The pick among `first` and the rest: by the rules, else by the model. -/
def select (s : Signals) (rules : List RoutingRule) (request : ChatRequest) (first : Provider)
    (rest : List Provider) : Except Fault Provider :=
  (named? s request (first :: rest) rules).map (·.getD (ModelMatch.select request first rest))

end RuleOrder

/-- A way to pick a provider, with all that it needs besides the signals. -/
inductive Strategy where
  | byModel
  | byCost
  | byLatency
  | balanced
  /-- By rules, in the order in which they are looked at. -/
  | custom (rules : List RoutingRule)

/-- The strategy has nobody to pick. -/
inductive SelectionError where
  | noProviders
deriving DecidableEq, Repr

/-- The text of the error. -/
def SelectionError.message : SelectionError → String
  | .noProviders => "no providers available"

namespace Strategy

/-- The strategy of a kind; by rules without any rule is by model. -/
def ofKind : StrategyKind → Strategy
  | .model => .byModel
  | .cost => .byCost
  | .latency => .byLatency
  | .balanced => .balanced
  | .custom => .custom []

/-- The strategy by compiled rules in any order. -/
def ofRules (rules : List RoutingRule) : Strategy := .custom (RuleOrder.sorted rules)

/-- The strategy by stored rules. -/
def ofStored (rules : List StoredRule) : Strategy := .custom (RuleOrder.compiled rules)

def kind : Strategy → StrategyKind
  | .byModel => .model
  | .byCost => .cost
  | .byLatency => .latency
  | .balanced => .balanced
  | .custom _ => .custom

/-- The pick among `first` and the rest. -/
def pick (s : Signals) (rotation : Rotation) (request : ChatRequest) (first : Provider)
    (rest : List Provider) : Strategy → Except Fault Provider
  | .byModel => .ok (ModelMatch.select request first rest)
  | .byCost => .ok (Cheapest.select s.prices request first rest)
  | .byLatency => Fastest.select s.latency request first rest
  | .balanced => .ok (rotation.select request first rest)
  | .custom rules => RuleOrder.select s rules request first rest

/-- The pick among the candidates. -/
def select (s : Signals) (rotation : Rotation) (strategy : Strategy) (request : ChatRequest) :
    List Provider → Except Fault (Except SelectionError Provider)
  | [] => .ok (.error .noProviders)
  | first :: rest => (strategy.pick s rotation request first rest).map .ok

/-- Whether a selection among the candidates uses up a turn. -/
def takesTurn : Strategy → List Provider → Bool
  | .balanced, _ :: _ => true
  | _, _ => false

/-- The rotation after a selection among the candidates. -/
def advance (strategy : Strategy) (candidates : List Provider) (rotation : Rotation) : Rotation :=
  if strategy.takesTurn candidates then rotation.advance else rotation

end Strategy

end ChatGateway
