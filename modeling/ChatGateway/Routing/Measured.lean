import ChatGateway.Provider
import ChatGateway.Routing.Signals

/-!
# The cheapest and the fastest

Both strategies look at the candidates that list the wanted model letter for letter, and keep the
first of them unless a later one is strictly better. When none lists it they take the first of all
candidates.
-/

namespace ChatGateway

/-- The candidates that list a model. -/
def serving (model : String) (candidates : List Provider) : List Provider :=
  candidates.filter fun p => p.serves model

namespace Cheapest

/-- The cheaper of the best so far and one more, the best so far if neither is. -/
def cheaper (best : Float × Provider) (next : Float × Provider) : Float × Provider :=
  if next.1 < best.1 then next else best

/-- The first of the cheapest, none of an empty list. -/
def cheapest? : List (Float × Provider) → Option Provider
  | [] => none
  | p :: rest => some (rest.foldl cheaper p).2

/-- The pick among `first` and the rest. -/
def select (prices : PriceTable) (request : ChatRequest) (first : Provider)
    (rest : List Provider) : Provider :=
  (cheapest? ((serving request.model (first :: rest)).map fun p =>
    (prices.estimate p.name request, p))).getD first

end Cheapest

namespace Fastest

/-- No mean latency that comes near to this bound is ever preferred. -/
def ceiling : Duration := .ofSecs 999999 (by decide)

/-- The fastest of the candidates whose mean is below `lowest`, the first of equals. -/
def fastest? (latency : LatencyHistory) (lowest : Duration) (found : Option Provider) :
    List Provider → Except Fault (Option Provider)
  | [] => .ok found
  | p :: rest =>
    match latency.average p.name with
    | .error fault => .error fault
    | .ok average =>
      if average < lowest then fastest? latency average (some p) rest
      else fastest? latency lowest found rest

/-- The pick among `first` and the rest. -/
def select (latency : LatencyHistory) (request : ChatRequest) (first : Provider)
    (rest : List Provider) : Except Fault Provider :=
  (fastest? latency ceiling none (serving request.model (first :: rest))).map (·.getD first)

end Fastest

end ChatGateway
