import ChatGateway.InsertionMap
import ChatGateway.Json.Record
import ChatGateway.Url.Basic

/-!
# Telemetry configuration

Under which name the service reports on itself, and where the reports go. Traces may go to a place
of their own.
-/

namespace ChatGateway

open Json

/-- How reports are sent. -/
inductive ExportProtocol where
  | grpc
  | httpProto
deriving DecidableEq, Repr

namespace ExportProtocol

def name : ExportProtocol → String
  | .grpc => "grpc"
  | .httpProto => "http_proto"

def ofName? (s : String) : Option ExportProtocol := [grpc, httpProto].find? fun p => p.name = s

end ExportProtocol

/-- Where reports go. -/
structure Exporter where
  endpoint : Url
  protocol : ExportProtocol := .grpc
  /-- What is sent along with every report. -/
  headers : InsertionMap String := []
  timeoutSecs : UInt64 := 10
deriving DecidableEq, Repr

/-- What is reported of the work on requests. -/
structure TracingConfig where
  samplingRate : Float := 1.0
  /-- Whether the decision of the caller to report is followed. -/
  parentBased : Bool := true
  exporter : Option Exporter := none
deriving DecidableEq

/-- What the service reports on itself. -/
structure TelemetryConfig where
  serviceName : String := "uniroute"
  resourceAttributes : InsertionMap String := []
  exporter : Option Exporter := none
  tracing : Option TracingConfig := none
deriving DecidableEq

/-- A map from names to texts. -/
def textMapOf? : Json → Option (InsertionMap String)
  | .obj members =>
    (members.mapM fun m => (asString? m.2).map (m.1, ·)).map fun entries =>
      entries.foldl (fun map e => InsertionMap.put map e.1 e.2) []
  | _ => none

namespace Exporter

def fieldNames : List String := ["endpoint", "protocol", "headers", "timeout_secs"]

def endpointOf? (j : Json) : Option Url := (asString? j).bind Url.ofText?

def ofJson? (dialect : Dialect) (j : Json) : Option Exporter :=
  match Fields.ofJson? dialect fieldNames .refused j with
  | none => none
  | some f =>
    match f.required "endpoint" endpointOf?,
      f.orElse "protocol" .grpc (asName? dialect ExportProtocol.ofName?),
      f.orElse "headers" [] textMapOf?, f.orElse "timeout_secs" 10 asUInt64? with
    | some endpoint, some protocol, some headers, some timeoutSecs =>
      some ⟨endpoint, protocol, headers, timeoutSecs⟩
    | _, _, _, _ => none

end Exporter

namespace TracingConfig

def fieldNames : List String := ["sampling_rate", "parent_based", "exporter"]

def ofJson? (dialect : Dialect) (j : Json) : Option TracingConfig :=
  match Fields.ofJson? dialect fieldNames .refused j with
  | none => none
  | some f =>
    match f.orElse "sampling_rate" 1.0 asFloat?, f.orElse "parent_based" true asBool?,
      f.optional "exporter" (Exporter.ofJson? dialect) with
    | some samplingRate, some parentBased, some exporter =>
      some ⟨samplingRate, parentBased, exporter⟩
    | _, _, _ => none

end TracingConfig

namespace TelemetryConfig

def fieldNames : List String := ["service_name", "resource_attributes", "exporter", "tracing"]

def ofJson? (dialect : Dialect) (j : Json) : Option TelemetryConfig :=
  let standard : TelemetryConfig := {}
  match Fields.ofJson? dialect fieldNames .refused j with
  | none => none
  | some f =>
    match f.orElse "service_name" standard.serviceName asString?,
      f.orElse "resource_attributes" [] textMapOf?,
      f.optional "exporter" (Exporter.ofJson? dialect),
      f.optional "tracing" (TracingConfig.ofJson? dialect) with
    | some serviceName, some resourceAttributes, some exporter, some tracing =>
      some ⟨serviceName, resourceAttributes, exporter, tracing⟩
    | _, _, _, _ => none

/-- Where traces go: to their own place if there is one. -/
def spanExporter? (t : TelemetryConfig) : Option Exporter :=
  (t.tracing.bind (·.exporter)).or t.exporter

end TelemetryConfig

end ChatGateway
