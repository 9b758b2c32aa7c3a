import ChatGateway.Provider

/-!
# Request contexts

A context says for whom a request is made and holds a cancellation token. Contexts may share a
token. A token may be derived from another one: it is cancelled with it, and starts out cancelled
if the other one is. `Contexts` is a growing list of contexts with all their tokens.
-/

namespace ChatGateway

/-- A cancellation token. -/
structure CancelToken where
  /-- The number of the token, and those of the tokens that it is derived from. -/
  lineage : List Nat
  cancelled : Bool := false
deriving DecidableEq, Repr

/-- The token after the one with a number has been cancelled. -/
def CancelToken.cancelWith (number : Nat) (t : CancelToken) : CancelToken :=
  if number ∈ t.lineage then { t with cancelled := true } else t

/-- For whom a request is made, and the number of its token. -/
structure RequestContext where
  caller : Option CallerId := none
  token : Nat
deriving DecidableEq, Repr

/-- Contexts with their tokens. -/
structure Contexts where
  tokens : List CancelToken := []
  contexts : List RequestContext := []
deriving DecidableEq, Repr

/-- What can be done with contexts; contexts are meant by their numbers. -/
inductive ContextStep where
  /-- A context without a caller and with a token of its own. -/
  | new
  /-- A context for a caller, with a token of its own. -/
  | forCaller (caller : CallerId)
  /-- A context like another one, with the same token. -/
  | clone (source : Nat)
  /-- A context without a caller, with a token derived from that of another one. -/
  | child (source : Nat)
  /-- A context like one, with the token of another one. -/
  | adopt (source tokenFrom : Nat)
  /-- A context like one, with a token derived from that of another one. -/
  | adoptChild (source tokenFrom : Nat)
  /-- The token of a context is cancelled. -/
  | cancel (source : Nat)
deriving DecidableEq, Repr

namespace Contexts

/-- Whether the token with a number is cancelled. -/
def tokenCancelled (cs : Contexts) (token : Nat) : Bool :=
  match cs.tokens[token]? with
  | some t => t.cancelled
  | none => false

/-- Whether a context is cancelled. -/
def isCancelled (cs : Contexts) (c : RequestContext) : Bool := cs.tokenCancelled c.token

/-- One more context, with one more token. -/
def add (cs : Contexts) (caller : Option CallerId) (t : CancelToken) : Contexts where
  tokens := cs.tokens ++ [t]
  contexts := cs.contexts ++ [⟨caller, cs.tokens.length⟩]

/-- One more context with a token of its own. -/
def addFresh (cs : Contexts) (caller : Option CallerId) : Contexts :=
  cs.add caller ⟨[cs.tokens.length], false⟩

/-- One more context, with a token derived from another one. -/
def addChild (cs : Contexts) (caller : Option CallerId) (parent : CancelToken) : Contexts :=
  cs.add caller ⟨cs.tokens.length :: parent.lineage, parent.cancelled⟩

/-- One more context, with a token that is there. -/
def share (cs : Contexts) (c : RequestContext) : Contexts :=
  { cs with contexts := cs.contexts ++ [c] }

/-- The contexts after a token has been cancelled. -/
def cancelToken (cs : Contexts) (token : Nat) : Contexts :=
  { cs with tokens := cs.tokens.map (CancelToken.cancelWith token) }

/-- A step. A step about a context that does not exist changes nothing. -/
def step (cs : Contexts) : ContextStep → Contexts
  | .new => cs.addFresh none
  | .forCaller caller => cs.addFresh (some caller)
  | .clone source =>
    match cs.contexts[source]? with
    | some c => cs.share c
    | none => cs
  | .child source =>
    match (cs.contexts[source]?).bind fun c => cs.tokens[c.token]? with
    | some parent => cs.addChild none parent
    | none => cs
  | .adopt source tokenFrom =>
    match cs.contexts[source]?, cs.contexts[tokenFrom]? with
    | some c, some other => cs.share { c with token := other.token }
    | _, _ => cs
  | .adoptChild source tokenFrom =>
    match cs.contexts[source]?, (cs.contexts[tokenFrom]?).bind fun c => cs.tokens[c.token]? with
    | some c, some parent => cs.addChild c.caller parent
    | _, _ => cs
  | .cancel source =>
    match cs.contexts[source]? with
    | some c => cs.cancelToken c.token
    | none => cs

/-- The contexts after a list of steps. -/
def run (steps : List ContextStep) : Contexts := steps.foldl step {}

/-- Whether each context is cancelled, and for whom it is. -/
def overview (cs : Contexts) : List (Bool × Option CallerId) :=
  cs.contexts.map fun c => (cs.isCancelled c, c.caller)

end Contexts

end ChatGateway
