import ChatGateway.Gateway.Job

/-!
# Which strategy is in effect

A policy that is locked imposes the default strategy. Otherwise a caller may prefer a kind of
strategy, and a caller for whom the strategy by rules is in effect may have rules of their own.
A service that is missing or fails has nothing to say.
-/

namespace ChatGateway

namespace Services

/-- Whether the policy bars callers from a strategy of their own. -/
def askLock (s : Services) (caller : Option CallerId) : Course Bool :=
  match s.policy with
  | none => .done false
  | some policy =>
    .consult .isLocked (match policy.isLocked caller with
      | .value locked => locked
      | .failed => false)

/-- The kind of strategy that a name in an answer stands for. -/
def preferredKind? : Answer (Option String) → Option StrategyKind
  | .value (some name) => StrategyKind.ofName? name
  | _ => none

/-- The kind of strategy that the caller prefers. -/
def askPreference (s : Services) : Option CallerId → Course (Option StrategyKind)
  | none => .done none
  | some caller =>
    match s.preferences with
    | none => .done none
    | some preferences => .consult (.preference caller) (preferredKind? (preferences caller))

/-- The kind of strategy in effect for a caller. -/
def strategyKind (s : Services) (standard : StrategyKind) (caller : Option CallerId) :
    Course StrategyKind := do
  if ← s.askLock caller then return standard
  return (← s.askPreference caller).getD standard

/-- The rules in an answer, unless there are none. -/
def someRules? : Answer (List StoredRule) → Option (List StoredRule)
  | .value (r :: rest) => some (r :: rest)
  | _ => none

/-- The rules of the caller. -/
def askRules (s : Services) : Option CallerId → Course (Option (List StoredRule))
  | none => .done none
  | some caller =>
    match s.rules with
    | none => .done none
    | some rules => .consult (.rules caller) (someRules? (rules caller))

/-- The kind that the policy wants as the default from now on. -/
def askDefault (s : Services) (caller : Option CallerId) : Course (Option StrategyKind) :=
  match s.policy with
  | none => .done none
  | some policy =>
    .consult .defaultStrategy (match policy.defaultStrategy caller with
      | .value name => StrategyKind.ofName? name
      | .failed => none)

end Services

/-- The strategy by rules: those of the caller, else those of the gateway, else none. -/
def Strategy.byRules (own : Option (List StoredRule)) (standard : Option (List RoutingRule)) :
    Strategy :=
  match own with
  | some rules => .ofStored rules
  | none => .custom (standard.getD [])

/-- The strategy in effect for the caller. -/
def Job.strategy (j : Job) : Course Strategy := do
  match ← j.services.strategyKind j.reads.kind j.caller with
  | .custom => return .byRules (← j.services.askRules j.caller) j.reads.rules
  | kind => return .ofKind kind

end ChatGateway
