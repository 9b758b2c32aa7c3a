import ChatGateway.Routing.Measured

/-!
# Rotation

The balanced strategy takes turns: a counter is raised by one with every pick, and its value
before says which provider of the pool it is. The pool is made of the candidates that list the
wanted model, or of all candidates when none lists it.
-/

namespace ChatGateway

/-- The counter of turns. It starts again at zero after the last 64-bit number. -/
structure Rotation where
  turn : UInt64 := 0
deriving DecidableEq, Repr

namespace Rotation

/-- The counter after one more turn. -/
def advance (r : Rotation) : Rotation := ⟨r.turn + 1⟩

/-- The candidates that take turns. -/
def pool (model : String) (candidates : List Provider) : List Provider :=
  match serving model candidates with
  | [] => candidates
  | p :: rest => p :: rest

/-- The pick of a turn, none if there is no candidate. -/
def pick? (r : Rotation) (model : String) (candidates : List Provider) : Option Provider :=
  let pool := pool model candidates
  pool[r.turn.toNat % pool.length]?

/-- The pick among `first` and the rest. -/
def select (r : Rotation) (request : ChatRequest) (first : Provider) (rest : List Provider) :
    Provider :=
  (r.pick? request.model (first :: rest)).getD first

end Rotation

end ChatGateway
