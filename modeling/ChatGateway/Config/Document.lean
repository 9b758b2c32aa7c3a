import ChatGateway.Config.Placeholder
import ChatGateway.Config.Routing
import ChatGateway.Config.Telemetry
import ChatGateway.Decimal.Shortest
import ChatGateway.Text.Blank
import ChatGateway.Toml.Reader

/-!
# The configuration of the service

The configuration is a document with a section on routing and perhaps one on telemetry. It is read
from a text whose placeholders have been replaced, and then checked for values that make no sense
(`Config.validate`). Of several such values the one that is checked first is reported.
-/

namespace ChatGateway

open Json

/-- The configuration of the service. -/
structure Config where
  routing : RoutingConfig := {}
  telemetry : Option TelemetryConfig := none

namespace Config

/-- The first value of a configuration that makes no sense. -/
inductive Violation where
  | noLatencySamples
  | noStreamBuffer
  | emptyProbe
  /-- A price that is not finite or is below zero. -/
  | badPrice (provider model field : String) (value : Float)
  /-- The rule with this number does not name a provider. -/
  | namelessRule (index : Nat)
deriving DecidableEq

/-- The text about the value. -/
def Violation.message : Violation → String
  | .noLatencySamples => "routing.latency_samples must be greater than 0"
  | .noStreamBuffer => "routing.stream_buffer must be greater than 0"
  | .emptyProbe => "routing.byok.providers must not contain empty names"
  | .badPrice provider model field value =>
    "pricing for '" ++ provider ++ "/" ++ model ++ "' has invalid " ++ field ++ ": " ++
      Decimal.FloatStyle.message.text value
  | .namelessRule index => "routing rule #" ++ toString index ++ " must name a provider"

/-- Whether a price makes sense. -/
def isPrice (x : Float) : Bool := x.isFinite && !(x < 0.0)

/-- What is wrong with the prices of an entry. -/
def entryViolation? (e : PriceEntry) : Option Violation :=
  if !isPrice e.price.input then some (.badPrice e.provider e.model "input_per_mtok" e.price.input)
  else if !isPrice e.price.output then
    some (.badPrice e.provider e.model "output_per_mtok" e.price.output)
  else none

/-- What is wrong with the limits and the names to look up. -/
def limitViolation? (c : RoutingConfig) : Option Violation :=
  if c.latencySamples = 0 then some .noLatencySamples
  else if c.streamBuffer = 0 then some .noStreamBuffer
  else if c.probes.any (· = "") then some .emptyProbe
  else none

/-- The first rule that does not name a provider. -/
def ruleViolation? (rules : List StoredRule) : Option Violation :=
  (rules.findIdx? fun r => Text.isBlankText r.provider).map .namelessRule

/-- What is wrong with the routing section. -/
def violation? (c : RoutingConfig) : Option Violation :=
  ((limitViolation? c).or (c.pricing.findSome? entryViolation?)).or (ruleViolation? c.rules)

/-- The configuration if all of its values make sense. -/
def validate (c : Config) : Except Violation Config :=
  match violation? c.routing with
  | some v => .error v
  | none => .ok c

def fieldNames : List String := ["routing", "telemetry"]

def ofJson? (dialect : Dialect) (j : Json) : Option Config :=
  match Fields.ofJson? dialect fieldNames .refused j with
  | none => none
  | some f =>
    match f.orElse "routing" {} (RoutingConfig.ofJson? dialect),
      f.optional "telemetry" (TelemetryConfig.ofJson? dialect) with
    | some routing, some telemetry => some ⟨routing, telemetry⟩
    | _, _ => none

/-- Why a file cannot be read. -/
inductive ReadFailure where
  | missing
  | notText
deriving DecidableEq, Repr

def ReadFailure.message : ReadFailure → String
  | .missing => "No such file or directory (os error 2)"
  | .notText => "stream did not contain valid UTF-8"

/-- Why there is no configuration. -/
inductive LoadError where
  | unreadable (path : String) (cause : ReadFailure)
  | expansion (cause : ExpansionError)
  /-- The text is not well-formed, or does not have the form of a configuration. -/
  | malformed
  | invalid (cause : Violation)
deriving DecidableEq

/-- The text of the error, none where it is that of the reader of documents. -/
def LoadError.message? : LoadError → Option String
  | .unreadable path cause =>
    some ("failed to read config file " ++ path ++ ": " ++ cause.message)
  | .expansion cause => some ("config variable expansion failed: " ++ cause.message)
  | .malformed => none
  | .invalid cause => some cause.message

/-- The configuration that a text spells out. -/
def ofText (env : Environment) (text : String) : Except LoadError Config :=
  match expand env text with
  | .error cause => .error (.expansion cause)
  | .ok text =>
    match (Toml.ofText? text).bind (ofJson? .toml) with
    | none => .error .malformed
    | some c => (c.validate).mapError .invalid

/-- The configuration in a file, of which the bytes are given if it exists. -/
def load (env : Environment) (path : String) (file : Option ByteArray) : Except LoadError Config :=
  match file with
  | none => .error (.unreadable path .missing)
  | some bytes =>
    match String.fromUTF8? bytes with
    | none => .error (.unreadable path .notText)
    | some text => ofText env text

end Config

end ChatGateway
