import ChatGateway.Gateway.Resolution

/-!
# The plan of a request

The strategy picks among all registered providers. Those that may be tried are the caller's own
if there are any, and otherwise the registered ones that are healthy. From both comes the plan,
the list of providers in the order in which they are tried (`attemptOrder`).
-/

namespace ChatGateway

/-- The providers that may be tried. -/
structure Available where
  providers : List Provider
  /-- Whether they are the caller's own. -/
  callerOwned : Bool
deriving DecidableEq, Repr

/-- The list with the first provider of a name moved to the front, none if there is none. -/
def promote? (name : String) (ps : List Provider) : Option (List Provider) :=
  (ps.find? fun p => p.name = name).map fun p => p :: ps.eraseP fun q => q.name = name

/-- The order of attempts for a pick. An available provider of its name stands in for it. If there
is none, the pick itself is tried alone when selection is strict, and before the others when they
are not the caller's own; a caller's own providers are never mixed with others. -/
def attemptOrder (strict : Bool) (selected : Provider) (available : Available) : List Provider :=
  match promote? selected.name available.providers with
  | some order => order
  | none =>
    if available.callerOwned && !strict then available.providers
    else if strict then [selected]
    else selected :: available.providers

namespace Job

/-- The pick of the strategy among the registered providers. -/
def pick (j : Job) : Course (Except SelectionError Provider) := do
  let strategy ← j.strategy
  let selection ← Course.ofExcept
    (strategy.select j.reads.signals j.reads.rotation j.request j.reads.selecting)
  if strategy.takesTurn j.reads.selecting then Course.record .turned
  return selection

/-- The caller's own providers that are healthy. -/
def ownProviders (j : Job) : Course (List Provider) :=
  match j.caller, j.services.keyRing? j.settings.probes with
  | some caller, some keyRing => keyRing.resolve j.backends caller
  | _, _ => .done []

/-- The providers that may be tried for the caller. -/
def available (j : Job) : Course Available := do
  match ← j.ownProviders with
  | [] => return ⟨← j.backends.healthy j.reads.probing, false⟩
  | own => return ⟨own, true⟩

/-- The plan of the request. -/
def plan (j : Job) : Course (Except GatewayError (List Provider)) :=
  if j.reads.selecting.isEmpty then .done (.error .noProvidersRegistered)
  else do
    match ← j.pick with
    | .error cause => return .error (.selection cause)
    | .ok selected =>
      let available ← j.available
      return .ok (attemptOrder j.settings.strictSelection selected available)

end Job

end ChatGateway
