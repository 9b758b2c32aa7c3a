import ChatGateway.Proofs.Json.Records

/-!
# What is written can be read back

Every request, answer and piece of an answer is read back as it was written if its numbers are
finite, and so are the parts that they are made of. Numbers that are read from a tree are finite, so
that what is read and written again is not changed by another round (`wire_round_trips`). For each
type there are the fields that are written (`fields`), that they are read back (`ofJson?_toJson`)
and that they make up a tree (`isTree_toJson`).
-/

namespace ChatGateway

open Json

/-! ## Numbers -/

theorem asUInt32?_toNat (n : UInt32) : asUInt32? (.int n.toNat) = some n := by
  have hn := n.toNat_lt
  rw [asUInt32?, asIntIn?, if_pos (by omega)]
  simp

theorem asUInt64?_toNat (n : UInt64) : asUInt64? (.int n.toNat) = some n := by
  have hn := n.toNat_lt
  rw [asUInt64?, asIntIn?, if_pos (by omega)]
  simp

theorem ofFloat_spec {x : Float} (hx : x.isFinite) :
    Json.ofFloat x ≠ .null ∧ asFloat? (.ofFloat x) = some x := by
  rw [ofFloat, if_pos hx]
  exact ⟨by simp, rfl⟩

/-! ## Messages -/

theorem Role.ofJson?_toJson (r : Role) : ofJson? r.toJson = some r := by
  cases r <;> rfl

namespace MediaUrl

/-- The fields that are written. -/
def fields (m : MediaUrl) : InsertionMap (Option Json) := [("url", some (.str m.url))]

theorem toJson_eq (m : MediaUrl) : m.toJson = .obj (membersOf m.fields) := rfl

theorem ofJson?_toJson (m : MediaUrl) : ofJson? m.toJson = some m := by
  obtain ⟨f, hf, hfields⟩ := Fields.ofJson?_membersOf ["url"] m.fields rfl (by decide)
  have hurl : f.required "url" asString? = some m.url :=
    Fields.required_of_eq (hfields "url" (some (.str m.url)) (by simp [fields])) rfl
  rw [ofJson?, toJson_eq, hf]
  simp only [hurl, Option.map_some]

theorem isTree_toJson (m : MediaUrl) : IsTree m.toJson := by
  rw [toJson_eq]
  exact isTree_membersOf (by simp [fields, IsTree.str])

end MediaUrl

/-- The body of a part is read back. -/
theorem PartKind.read?_payload (p : ContentPart) :
    p.kind.read? (.obj [(p.kind.name, p.payload)]) = some p := by
  obtain ⟨f, hf, hfields⟩ := Fields.ofJson?_membersOf [p.kind.name]
    [(p.kind.name, some p.payload)] rfl (List.nodup_singleton _)
  have hpayload : f p.kind.name = some p.payload := hfields _ _ (by simp)
  have hwritten : Json.obj [(p.kind.name, p.payload)] =
      .obj (membersOf [(p.kind.name, some p.payload)]) := rfl
  rw [read?, hwritten, hf]
  cases p with
  | text t => exact congrArg (Option.map ContentPart.text) (Fields.required_of_eq hpayload rfl)
  | image m =>
    exact congrArg (Option.map ContentPart.image)
      (Fields.required_of_eq hpayload m.ofJson?_toJson)
  | audio m =>
    exact congrArg (Option.map ContentPart.audio)
      (Fields.required_of_eq hpayload m.ofJson?_toJson)

namespace ContentPart

theorem ofItem?_toJson (p : ContentPart) : ofItem? p.toJson = some p := by
  cases p with
  | text t => exact PartKind.read?_payload (.text t)
  | image m => exact PartKind.read?_payload (.image m)
  | audio m => exact PartKind.read?_payload (.audio m)

theorem usable_toJson (p : ContentPart) : p.toJson.usable := by
  cases p <;> rfl

theorem ofJson?_toJson (p : ContentPart) : ofJson? p.toJson = some p := by
  have htag : tag? p.toJson = some (.str p.kind.name) := by
    cases p <;> rfl
  rw [ofJson?, htag]
  simp only
  rw [if_pos p.usable_toJson, p.ofItem?_toJson]

theorem isTree_toJson (p : ContentPart) : IsTree p.toJson := by
  have hpayload : IsTree p.payload := by
    cases p with
    | text t => exact .str t
    | image m => exact m.isTree_toJson
    | audio m => exact m.isTree_toJson
  exact .obj (by simp [IsTree.str, hpayload])

end ContentPart

namespace Content

theorem ofJson?_toJson (c : Content) : ofJson? c.toJson = some c := by
  cases c with
  | plain t => rfl
  | parts ps =>
    have husable : (Json.arr (ps.map ContentPart.toJson)).usable := by
      induction ps with
      | nil => rfl
      | cons p ps ih => exact Bool.and_eq_true_iff.2 ⟨p.usable_toJson, ih⟩
    have hlist : (ps.map ContentPart.toJson).mapM ContentPart.ofItem? = some ps :=
      asList?_map _ ContentPart.ofItem?_toJson
    rw [toJson, ofJson?, if_pos husable, hlist]
    rfl

theorem isTree_toJson (c : Content) : IsTree c.toJson := by
  cases c with
  | plain t => exact .str t
  | parts ps => exact isTree_map ContentPart.isTree_toJson ps

end Content

namespace Message

/-- The fields that are written. -/
def fields (m : Message) : InsertionMap (Option Json) :=
  [("role", some m.role.toJson), ("content", some m.content.toJson)]

theorem toJson_eq (m : Message) : m.toJson = .obj (membersOf m.fields) := rfl

theorem ofJson?_toJson (m : Message) : ofJson? m.toJson = some m := by
  obtain ⟨f, hf, hfields⟩ := Fields.ofJson?_membersOf ["role", "content"] m.fields rfl (by decide)
  have hrole : f.required "role" Role.ofJson? = some m.role :=
    Fields.required_of_eq (hfields "role" _ (by simp [fields])) m.role.ofJson?_toJson
  have hcontent : f.required "content" Content.ofJson? = some m.content :=
    Fields.required_of_eq (hfields "content" _ (by simp [fields])) m.content.ofJson?_toJson
  rw [ofJson?, toJson_eq, hf]
  simp only [hrole, hcontent]

theorem isTree_toJson (m : Message) : IsTree m.toJson := by
  have hrole : IsTree m.role.toJson := .str _
  rw [toJson_eq]
  exact isTree_membersOf (by simp [fields, hrole, m.content.isTree_toJson])

end Message

namespace ChatRequest

/-- The fields that are written. -/
def fields (r : ChatRequest) : InsertionMap (Option Json) :=
  [("model", some (.str r.model)), ("messages", some (.arr (r.messages.map Message.toJson))),
    ("temperature", r.temperature.map .ofFloat),
    ("max_tokens", r.maxTokens.map fun n => .int n.toNat)]

/-- The temperature, if there is one, is a finite number. -/
def IsFinite (r : ChatRequest) : Prop := ∀ x, r.temperature = some x → x.isFinite

variable {r : ChatRequest} {j : Json}

theorem toJson_eq (r : ChatRequest) : r.toJson = .obj (membersOf r.fields) := by
  simp [toJson, fields, membersOf, optionalMember]

theorem ofJson?_toJson (hr : r.IsFinite) : ofJson? r.toJson = some r := by
  obtain ⟨f, hf, hfields⟩ := Fields.ofJson?_membersOf fieldNames r.fields rfl (by decide)
  have hmodel : f.required "model" asString? = some r.model :=
    Fields.required_of_eq (hfields "model" (some (.str r.model)) (by simp [fields])) rfl
  have hmessages : f.required "messages" (asList? Message.ofJson?) = some r.messages :=
    Fields.required_of_eq (hfields "messages" _ (by simp [fields]))
      (asList?_map _ Message.ofJson?_toJson)
  have htemperature : f.optional "temperature" asFloat? = some r.temperature :=
    Fields.optional_of_eq .ofFloat (hfields "temperature" _ (by simp [fields])) fun x hx =>
      ofFloat_spec (hr x hx)
  have hmaxTokens : f.optional "max_tokens" asUInt32? = some r.maxTokens :=
    Fields.optional_of_eq (fun n => .int n.toNat) (hfields "max_tokens" _ (by simp [fields]))
      fun n _ => ⟨by simp, asUInt32?_toNat n⟩
  rw [ofJson?, toJson_eq, hf]
  simp only [hmodel, hmessages, htemperature, hmaxTokens]

theorem isTree_toJson (r : ChatRequest) : IsTree r.toJson := by
  have hmessages := isTree_map Message.isTree_toJson r.messages
  rw [toJson_eq]
  exact isTree_membersOf (by
    simp [fields, IsTree.str, hmessages, isTree_ofFloat, isTree_uint32])

/-- A temperature that was read from a tree is finite. -/
theorem isFinite_of_ofJson? (hj : IsTree j) (h : ofJson? j = some r) : r.IsFinite := by
  unfold ofJson? at h
  split at h
  · cases h
  · rename_i f hf
    split at h
    · rename_i model messages temperature maxTokens _ _ htemperature _
      cases h
      rintro x rfl
      exact Fields.isFinite_of_optional hj hf htemperature
    · cases h

end ChatRequest

/-! ## Answers -/

namespace Usage

/-- The fields that are written. -/
def fields (u : Usage) : InsertionMap (Option Json) :=
  [("prompt_tokens", some (.int u.promptTokens.toNat)),
    ("completion_tokens", some (.int u.completionTokens.toNat)),
    ("total_tokens", some (.int u.totalTokens.toNat))]

theorem toJson_eq (u : Usage) : u.toJson = .obj (membersOf u.fields) := rfl

theorem ofJson?_toJson (u : Usage) : ofJson? u.toJson = some u := by
  obtain ⟨f, hf, hfields⟩ := Fields.ofJson?_membersOf fieldNames u.fields rfl (by decide)
  have hprompt : f.required "prompt_tokens" asUInt32? = some u.promptTokens :=
    Fields.required_of_eq (hfields "prompt_tokens" _ (by simp [fields])) (asUInt32?_toNat _)
  have hcompletion : f.required "completion_tokens" asUInt32? = some u.completionTokens :=
    Fields.required_of_eq (hfields "completion_tokens" _ (by simp [fields]))
      (asUInt32?_toNat _)
  have htotal : f.required "total_tokens" asUInt32? = some u.totalTokens :=
    Fields.required_of_eq (hfields "total_tokens" _ (by simp [fields])) (asUInt32?_toNat _)
  rw [ofJson?, toJson_eq, hf]
  simp only [hprompt, hcompletion, htotal]

theorem isTree_toJson (u : Usage) : IsTree u.toJson := by
  rw [toJson_eq]
  exact isTree_membersOf (by simp [fields, isTree_uint32])

end Usage

namespace Choice

/-- The fields that are written. -/
def fields (c : Choice) : InsertionMap (Option Json) :=
  [("index", some (.int c.index.toNat)), ("message", some c.message.toJson)]

theorem toJson_eq (c : Choice) : c.toJson = .obj (membersOf c.fields) := rfl

theorem ofJson?_toJson (c : Choice) : ofJson? c.toJson = some c := by
  obtain ⟨f, hf, hfields⟩ := Fields.ofJson?_membersOf ["index", "message"] c.fields rfl (by decide)
  have hindex : f.required "index" asUInt32? = some c.index :=
    Fields.required_of_eq (hfields "index" _ (by simp [fields])) (asUInt32?_toNat _)
  have hmessage : f.required "message" Message.ofJson? = some c.message :=
    Fields.required_of_eq (hfields "message" _ (by simp [fields])) c.message.ofJson?_toJson
  rw [ofJson?, toJson_eq, hf]
  simp only [hindex, hmessage]

theorem isTree_toJson (c : Choice) : IsTree c.toJson := by
  rw [toJson_eq]
  exact isTree_membersOf (by simp [fields, isTree_uint32, c.message.isTree_toJson])

end Choice

namespace ChatResponse

/-- The fields that are written. -/
def fields (r : ChatResponse) : InsertionMap (Option Json) :=
  [("id", some (.str r.id)), ("model", some (.str r.model)),
    ("choices", some (.arr (r.choices.map Choice.toJson))), ("usage", some r.usage.toJson),
    ("provider", r.provider.map .str), ("latency_ms", r.latencyMs.map fun n => .int n.toNat),
    ("cost", r.cost.map .ofFloat)]

/-- The cost, if it is given, is a finite number. -/
def IsFinite (r : ChatResponse) : Prop := ∀ x, r.cost = some x → x.isFinite

variable {r : ChatResponse} {j : Json}

theorem toJson_eq (r : ChatResponse) : r.toJson = .obj (membersOf r.fields) := by
  simp [toJson, fields, membersOf, optionalMember]

theorem ofJson?_toJson (hr : r.IsFinite) : ofJson? r.toJson = some r := by
  obtain ⟨f, hf, hfields⟩ := Fields.ofJson?_membersOf fieldNames r.fields rfl (by decide)
  have hid : f.required "id" asString? = some r.id :=
    Fields.required_of_eq (hfields "id" (some (.str r.id)) (by simp [fields])) rfl
  have hmodel : f.required "model" asString? = some r.model :=
    Fields.required_of_eq (hfields "model" (some (.str r.model)) (by simp [fields])) rfl
  have hchoices : f.required "choices" (asList? Choice.ofJson?) = some r.choices :=
    Fields.required_of_eq (hfields "choices" _ (by simp [fields]))
      (asList?_map _ Choice.ofJson?_toJson)
  have husage : f.orElse "usage" {} Usage.ofJson? = some r.usage :=
    Fields.orElse_of_eq (hfields "usage" _ (by simp [fields])) r.usage.ofJson?_toJson
  have hprovider : f.optional "provider" asString? = some r.provider :=
    Fields.optional_of_eq .str (hfields "provider" _ (by simp [fields])) fun _ _ => ⟨by simp, rfl⟩
  have hlatency : f.optional "latency_ms" asUInt64? = some r.latencyMs :=
    Fields.optional_of_eq (fun n => .int n.toNat) (hfields "latency_ms" _ (by simp [fields]))
      fun n _ => ⟨by simp, asUInt64?_toNat n⟩
  have hcost : f.optional "cost" asFloat? = some r.cost :=
    Fields.optional_of_eq .ofFloat (hfields "cost" _ (by simp [fields])) fun x hx =>
      ofFloat_spec (hr x hx)
  rw [ofJson?, toJson_eq, hf]
  simp only [hid, hmodel, hchoices, husage, hprovider, hlatency, hcost]

theorem isTree_toJson (r : ChatResponse) : IsTree r.toJson := by
  have hchoices := isTree_map Choice.isTree_toJson r.choices
  rw [toJson_eq]
  exact isTree_membersOf (by
    simp [fields, IsTree.str, hchoices, r.usage.isTree_toJson, isTree_ofFloat, isTree_uint64])

/-- A cost that was read from a tree is finite. -/
theorem isFinite_of_ofJson? (hj : IsTree j) (h : ofJson? j = some r) : r.IsFinite := by
  unfold ofJson? at h
  split at h
  · cases h
  · rename_i f hf
    split at h
    · rename_i id model choices usage provider latencyMs cost _ _ _ _ _ _ hcost
      cases h
      rintro x rfl
      exact Fields.isFinite_of_optional hj hf hcost
    · cases h

end ChatResponse

namespace StreamChunk

/-- The fields that are written. -/
def fields (c : StreamChunk) : InsertionMap (Option Json) :=
  [("id", if c.id = "" then none else some (.str c.id)), ("content", some (.str c.content)),
    ("done", some (.bool c.done)), ("usage", c.usage.map Usage.toJson),
    ("provider", c.provider.map .str)]

theorem toJson_eq (c : StreamChunk) : c.toJson = .obj (membersOf c.fields) := by
  by_cases h : c.id = "" <;> simp [toJson, fields, membersOf, optionalMember, h]

theorem ofJson?_toJson (c : StreamChunk) : ofJson? c.toJson = some c := by
  obtain ⟨f, hf, hfields⟩ := Fields.ofJson?_membersOf fieldNames c.fields rfl (by decide)
  have hid : f.orElse "id" "" asString? = some c.id := by
    have hfield : f "id" = if c.id = "" then none else some (.str c.id) :=
      hfields "id" _ (by simp [fields])
    split at hfield
    · rename_i hempty
      rw [Fields.orElse, hfield, hempty]
    · exact Fields.orElse_of_eq hfield rfl
  have hcontent : f.required "content" asString? = some c.content :=
    Fields.required_of_eq (hfields "content" (some (.str c.content)) (by simp [fields])) rfl
  have hdone : f.required "done" asBool? = some c.done :=
    Fields.required_of_eq (hfields "done" (some (.bool c.done)) (by simp [fields])) rfl
  have husage : f.optional "usage" Usage.ofJson? = some c.usage :=
    Fields.optional_of_eq Usage.toJson (hfields "usage" _ (by simp [fields])) fun u _ =>
      ⟨by simp [Usage.toJson], u.ofJson?_toJson⟩
  have hprovider : f.optional "provider" asString? = some c.provider :=
    Fields.optional_of_eq .str (hfields "provider" _ (by simp [fields])) fun _ _ => ⟨by simp, rfl⟩
  rw [ofJson?, toJson_eq, hf]
  simp only [hid, hcontent, hdone, husage, hprovider]

theorem isTree_toJson (c : StreamChunk) : IsTree c.toJson := by
  have husage (u : Usage) : IsTree u.toJson := u.isTree_toJson
  rw [toJson_eq]
  refine isTree_membersOf ?_
  by_cases h : c.id = "" <;> simp [fields, h, IsTree.str, IsTree.bool, husage]

end StreamChunk

/-! ## All of them -/

/-- **Whatever is written is read back.** Only the temperature of a request and the cost of an
answer have to be finite. -/
theorem wire_round_trips :
    RoundTrips ChatRequest.toJson ChatRequest.ofJson? ChatRequest.IsFinite ∧
      RoundTrips Message.toJson Message.ofJson? (fun _ => True) ∧
      RoundTrips Content.toJson Content.ofJson? (fun _ => True) ∧
      RoundTrips ContentPart.toJson ContentPart.ofJson? (fun _ => True) ∧
      RoundTrips ChatResponse.toJson ChatResponse.ofJson? ChatResponse.IsFinite ∧
      RoundTrips Choice.toJson Choice.ofJson? (fun _ => True) ∧
      RoundTrips Usage.toJson Usage.ofJson? (fun _ => True) ∧
      RoundTrips StreamChunk.toJson StreamChunk.ofJson? (fun _ => True) := by
  refine ⟨?_, ?_, ?_, ?_, ?_, ?_, ?_, ?_⟩
  · exact .of_read_write ChatRequest.isTree_toJson (fun _ => ChatRequest.ofJson?_toJson)
      fun _ _ => ChatRequest.isFinite_of_ofJson?
  · exact .of_always Message.isTree_toJson Message.ofJson?_toJson
  · exact .of_always Content.isTree_toJson Content.ofJson?_toJson
  · exact .of_always ContentPart.isTree_toJson ContentPart.ofJson?_toJson
  · exact .of_read_write ChatResponse.isTree_toJson (fun _ => ChatResponse.ofJson?_toJson)
      fun _ _ => ChatResponse.isFinite_of_ofJson?
  · exact .of_always Choice.isTree_toJson Choice.ofJson?_toJson
  · exact .of_always Usage.isTree_toJson Usage.ofJson?_toJson
  · exact .of_always StreamChunk.isTree_toJson StreamChunk.ofJson?_toJson

end ChatGateway
