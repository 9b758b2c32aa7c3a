import ChatGateway.Chat.Request
import ChatGateway.Chat.Response
import ChatGateway.Json.Record

/-!
# The written form of requests and responses

Each type has its form as a document value (`toJson`) and a reader (`ofJson?`). Readers pass over
keys that they do not know. What may be left out is left out when it is written: absent options,
and the identifier of a chunk when it is empty. A number that is not finite is written as null.
-/

namespace ChatGateway

open Json

/-- The member of an object for an option, none of it if the option is absent. -/
def optionalMember (key : String) : Option Json → List (String × Json)
  | none => []
  | some j => [(key, j)]

namespace Role

def name : Role → String
  | .system => "system"
  | .user => "user"
  | .assistant => "assistant"

def ofName? (s : String) : Option Role :=
  [Role.system, .user, .assistant].find? fun r => r.name = s

def toJson (r : Role) : Json := .str r.name

def ofJson? : Json → Option Role := asName? .json ofName?

end Role

namespace MediaUrl

def toJson (m : MediaUrl) : Json := .obj [("url", .str m.url)]

def ofJson? (j : Json) : Option MediaUrl :=
  match Fields.ofJson? .json ["url"] .ignored j with
  | none => none
  | some f => (f.required "url" asString?).map MediaUrl.mk

end MediaUrl

/-- The kinds of content part. -/
inductive PartKind where
  | text
  | imageUrl
  | audioUrl
deriving DecidableEq, Repr

namespace PartKind

def name : PartKind → String
  | .text => "text"
  | .imageUrl => "image_url"
  | .audioUrl => "audio_url"

def all : List PartKind := [.text, .imageUrl, .audioUrl]

/-- A kind is tagged with its name or with its number. -/
def ofTag? : Json → Option PartKind
  | .str s => all.find? fun k => k.name = s
  | .int n => if 0 ≤ n then all[n.toNat]? else none
  | _ => none

/-- The part of a kind with the given remaining fields. -/
def read? (kind : PartKind) (body : Json) : Option ContentPart :=
  match Fields.ofJson? .json [kind.name] .ignored body with
  | none => none
  | some f =>
    match kind with
    | .text => (f.required kind.name asString?).map .text
    | .imageUrl => (f.required kind.name MediaUrl.ofJson?).map .image
    | .audioUrl => (f.required kind.name MediaUrl.ofJson?).map .audio

end PartKind

namespace ContentPart

def kind : ContentPart → PartKind
  | .text _ => .text
  | .image _ => .imageUrl
  | .audio _ => .audioUrl

def payload : ContentPart → Json
  | .text t => .str t
  | .image m => m.toJson
  | .audio m => m.toJson

def toJson (p : ContentPart) : Json :=
  .obj [("type", .str p.kind.name), (p.kind.name, p.payload)]

/-- The tag of a part: the only value for it among the members, wherever it stands, or the item that
an array begins with. -/
def tag? : Json → Option Json
  | .obj members =>
    match valuesOf members "type" with
    | [tag] => some tag
    | _ => none
  | .arr (tag :: _) => some tag
  | _ => none

/-- What a part holds beside its tag. -/
def untagged : Json → Json
  | .obj members => .obj (members.filter fun m => m.1 ≠ "type")
  | .arr items => .arr items.tail
  | j => j

/-- A part that is an item of a content, after the whole content was read to its end. -/
def ofItem? (j : Json) : Option ContentPart :=
  match (tag? j).bind PartKind.ofTag? with
  | some kind => kind.read? (untagged j)
  | none => none

/-- A part that stands alone. It is tagged with a name, and can be read to its very end. -/
def ofJson? (j : Json) : Option ContentPart :=
  match tag? j with
  | some (.str _) => if j.usable then ofItem? j else none
  | _ => none

end ContentPart

namespace Content

def toJson : Content → Json
  | .plain t => .str t
  | .parts ps => .arr (ps.map ContentPart.toJson)

/-- A text, or a list of parts that can be read to its very end. -/
def ofJson? (j : Json) : Option Content :=
  match j with
  | .str t => some (.plain t)
  | .arr items => if j.usable then (items.mapM ContentPart.ofItem?).map .parts else none
  | _ => none

end Content

namespace Message

def toJson (m : Message) : Json :=
  .obj [("role", m.role.toJson), ("content", m.content.toJson)]

def ofJson? (j : Json) : Option Message :=
  match Fields.ofJson? .json ["role", "content"] .ignored j with
  | none => none
  | some f =>
    match f.required "role" Role.ofJson?, f.required "content" Content.ofJson? with
    | some role, some content => some ⟨role, content⟩
    | _, _ => none

end Message

namespace ChatRequest

def fieldNames : List String := ["model", "messages", "temperature", "max_tokens"]

def toJson (r : ChatRequest) : Json :=
  .obj ([("model", .str r.model), ("messages", .arr (r.messages.map Message.toJson))] ++
    optionalMember "temperature" (r.temperature.map .ofFloat) ++
    optionalMember "max_tokens" (r.maxTokens.map fun n => .int n.toNat))

def ofJson? (j : Json) : Option ChatRequest :=
  match Fields.ofJson? .json fieldNames .ignored j with
  | none => none
  | some f =>
    match f.required "model" asString?, f.required "messages" (asList? Message.ofJson?),
      f.optional "temperature" asFloat?, f.optional "max_tokens" asUInt32? with
    | some model, some messages, some temperature, some maxTokens =>
      some ⟨model, messages, temperature, maxTokens⟩
    | _, _, _, _ => none

end ChatRequest

namespace Usage

def fieldNames : List String := ["prompt_tokens", "completion_tokens", "total_tokens"]

def toJson (u : Usage) : Json :=
  .obj [("prompt_tokens", .int u.promptTokens.toNat),
    ("completion_tokens", .int u.completionTokens.toNat),
    ("total_tokens", .int u.totalTokens.toNat)]

def ofJson? (j : Json) : Option Usage :=
  match Fields.ofJson? .json fieldNames .ignored j with
  | none => none
  | some f =>
    match f.required "prompt_tokens" asUInt32?, f.required "completion_tokens" asUInt32?,
      f.required "total_tokens" asUInt32? with
    | some prompt, some completion, some total => some ⟨prompt, completion, total⟩
    | _, _, _ => none

end Usage

namespace Choice

def toJson (c : Choice) : Json :=
  .obj [("index", .int c.index.toNat), ("message", c.message.toJson)]

def ofJson? (j : Json) : Option Choice :=
  match Fields.ofJson? .json ["index", "message"] .ignored j with
  | none => none
  | some f =>
    match f.required "index" asUInt32?, f.required "message" Message.ofJson? with
    | some index, some message => some ⟨index, message⟩
    | _, _ => none

end Choice

namespace ChatResponse

def fieldNames : List String :=
  ["id", "model", "choices", "usage", "provider", "latency_ms", "cost"]

def toJson (r : ChatResponse) : Json :=
  .obj ([("id", .str r.id), ("model", .str r.model),
      ("choices", .arr (r.choices.map Choice.toJson)), ("usage", r.usage.toJson)] ++
    optionalMember "provider" (r.provider.map .str) ++
    optionalMember "latency_ms" (r.latencyMs.map fun n => .int n.toNat) ++
    optionalMember "cost" (r.cost.map .ofFloat))

def ofJson? (j : Json) : Option ChatResponse :=
  match Fields.ofJson? .json fieldNames .ignored j with
  | none => none
  | some f =>
    match f.required "id" asString?, f.required "model" asString?,
      f.required "choices" (asList? Choice.ofJson?), f.orElse "usage" {} Usage.ofJson?,
      f.optional "provider" asString?, f.optional "latency_ms" asUInt64?,
      f.optional "cost" asFloat? with
    | some id, some model, some choices, some usage, some provider, some latencyMs, some cost =>
      some ⟨id, model, choices, usage, provider, latencyMs, cost⟩
    | _, _, _, _, _, _, _ => none

end ChatResponse

namespace StreamChunk

def fieldNames : List String := ["id", "content", "done", "usage", "provider"]

def toJson (c : StreamChunk) : Json :=
  .obj ((if c.id = "" then [] else [("id", .str c.id)]) ++
    [("content", .str c.content), ("done", .bool c.done)] ++
    optionalMember "usage" (c.usage.map Usage.toJson) ++
    optionalMember "provider" (c.provider.map .str))

def ofJson? (j : Json) : Option StreamChunk :=
  match Fields.ofJson? .json fieldNames .ignored j with
  | none => none
  | some f =>
    match f.orElse "id" "" asString?, f.required "content" asString?,
      f.required "done" asBool?, f.optional "usage" Usage.ofJson?,
      f.optional "provider" asString? with
    | some id, some content, some done, some usage, some provider =>
      some ⟨id, content, done, usage, provider⟩
    | _, _, _, _, _ => none

end StreamChunk

end ChatGateway
