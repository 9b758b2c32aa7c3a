/-!
# Kinds of strategy

The five ways to pick a provider, with the names under which they are stored and the labels under
which they are described. A name stands for at most one kind (`ofName?_eq_some_iff`).
-/

namespace ChatGateway

/-- A way to pick a provider. -/
inductive StrategyKind where
  /-- By the names of the models. -/
  | model
  /-- By the expected cost. -/
  | cost
  /-- By the mean latency. -/
  | latency
  /-- In turn. -/
  | balanced
  /-- By rules. -/
  | custom
deriving DecidableEq, Repr, Inhabited

namespace StrategyKind

/-- The name of a kind. -/
def name : StrategyKind → String
  | .model => "model"
  | .cost => "cost"
  | .latency => "latency"
  | .balanced => "balanced"
  | .custom => "custom"

/-- The label of a kind in descriptions. -/
def label : StrategyKind → String
  | .model => "ModelBased"
  | .cost => "CostBased"
  | .latency => "LatencyBased"
  | .balanced => "LoadBalanced"
  | .custom => "Custom"

def all : List StrategyKind := [.model, .cost, .latency, .balanced, .custom]

/-- The kind with a name, letter for letter. -/
def ofName? (s : String) : Option StrategyKind := all.find? fun k => k.name = s

/-- What is said of a name that stands for no kind. -/
def unknownNameMessage : String := "Matching variant not found"

/-- The kind that is in effect when none is asked for. -/
def standard : StrategyKind := .model

theorem ofName?_name (k : StrategyKind) : ofName? k.name = some k := by
  cases k <;> decide

theorem ofName?_eq_some_iff {s : String} {k : StrategyKind} : ofName? s = some k ↔ k.name = s := by
  constructor
  · intro h
    simpa using List.find?_some h
  · rintro rfl
    exact ofName?_name k

end StrategyKind

end ChatGateway
