import Mathlib.Data.List.Nodup
import Mathlib.Data.Option.Basic
import ChatGateway.Chat.Wire

/-!
# Places in a document

The types that are read from documents are nested in one another. A place says what a value is read
as: a record of one of these types, a list of them, or a plain value in which nothing else is
nested (`Place`). A record at a place declares its members by name, in an order that counts where
the record is written as an array, and each of them is a place again (`Place.declares`). Which
members a content part declares besides its tag depends on the tag.

What a record is read as depends on its declared fields alone, and it cannot be read if one of them
cannot (`BuiltFrom`). For every record but a part this says all about its reader
(`Place.readsRecord`), and for a part all that comes after its tag (`PartKind.readsRecord`).
-/

namespace ChatGateway

open Json

/-- What a value in a document is read as. -/
inductive Place where
  /-- A value in which nothing else is nested. -/
  | plain
  | media
  /-- A part as an item of a content. -/
  | part
  | content
  | message
  | request
  | usage
  | choice
  | response
  | chunk
  | list (item : Place)

namespace Place

/-- What is read at a place. -/
def Value : Place → Type
  | .plain => Json
  | .media => MediaUrl
  | .part => ContentPart
  | .content => Content
  | .message => Message
  | .request => ChatRequest
  | .usage => Usage
  | .choice => Choice
  | .response => ChatResponse
  | .chunk => StreamChunk
  | .list item => List item.Value

/-- How it is read. -/
def read? : (p : Place) → Json → Option p.Value
  | .plain => some
  | .media => MediaUrl.ofJson?
  | .part => ContentPart.ofItem?
  | .content => Content.ofJson?
  | .message => Message.ofJson?
  | .request => ChatRequest.ofJson?
  | .usage => Usage.ofJson?
  | .choice => Choice.ofJson?
  | .response => ChatResponse.ofJson?
  | .chunk => StreamChunk.ofJson?
  | .list item => asList? item.read?

/-- What every record at the place declares, in order. -/
def declares : Place → List (String × Place)
  | .media => [("url", .plain)]
  | .part => [("type", .plain)]
  | .message => [("role", .plain), ("content", .content)]
  | .request =>
    [("model", .plain), ("messages", .list .message), ("temperature", .plain),
      ("max_tokens", .plain)]
  | .usage => [("prompt_tokens", .plain), ("completion_tokens", .plain), ("total_tokens", .plain)]
  | .choice => [("index", .plain), ("message", .message)]
  | .response =>
    [("id", .plain), ("model", .plain), ("choices", .list .choice), ("usage", .usage),
      ("provider", .plain), ("latency_ms", .plain), ("cost", .plain)]
  | .chunk =>
    [("id", .plain), ("content", .plain), ("done", .plain), ("usage", .usage),
      ("provider", .plain)]
  | .plain | .content | .list _ => []

/-- Objects at the place stand for records. -/
def isRecord (p : Place) : Bool := !p.declares.isEmpty

end Place

/-- The place of what a part of the kind holds. -/
def PartKind.place : PartKind → Place
  | .text => .plain
  | .imageUrl => .media
  | .audioUrl => .media

theorem PartKind.name_ne_type (k : PartKind) : k.name ≠ "type" := by
  cases k <;> decide

/-- The kind that a value at the place of a part is tagged with. -/
def kindOf? (j : Json) : Option PartKind := (ContentPart.tag? j).bind PartKind.ofTag?

namespace Place

/-- What the value at a place declares: for a part, what its kind holds comes after the tag. -/
def fields (p : Place) (j : Json) : List (String × Place) :=
  match p with
  | .part => ("type", .plain) :: (kindOf? j).toList.map fun k => (k.name, k.place)
  | p => p.declares

/-- The place of an item where the value at a place is an array. -/
def item? (p : Place) (j : Json) (i : Nat) : Option Place :=
  match p with
  | .list item => some item
  | .content => some .part
  | p => ((p.fields j)[i]?).map (·.2)

/-- Two values that read alike at a place, whatever they are nested in. -/
structure Alike (p : Place) (j j' : Json) : Prop where
  read?_eq : p.read? j = p.read? j'
  null_iff : j = .null ↔ j' = .null
  usable_eq : j.usable = j'.usable

theorem Alike.refl (p : Place) (j : Json) : Alike p j j := ⟨rfl, Iff.rfl, rfl⟩

theorem Alike.eq_of_plain {j j' : Json} (h : Alike .plain j j') : j = j' :=
  Option.some.inj h.read?_eq

/-- Fields that are there in both or in neither, and are alike. -/
def AlikeFields (decl : List (String × Place)) (f f' : Fields) : Prop :=
  ∀ d ∈ decl, Option.Rel (Alike d.2) (f d.1) (f' d.1)

/-! ## What is built from fields -/

section

variable {α β : Type} {decl decl' : List (String × Place)}

/-- What is built depends on the declared fields only, and nothing is built where one of them is
there and cannot be read. -/
structure BuiltFrom (decl : List (String × Place)) (build : Fields → Option α) : Prop where
  congr : ∀ f f', AlikeFields decl f f' → build f = build f'
  fails : ∀ f, ∀ d ∈ decl, ∀ v, f d.1 = some v → v ≠ .null → d.2.read? v = none → build f = none

theorem BuiltFrom.bind {get : Fields → Option β} {build : β → Fields → Option α}
    (hget : BuiltFrom decl get) (hbuild : ∀ b, BuiltFrom decl' (build b)) :
    BuiltFrom (decl ++ decl') fun f => (get f).bind fun b => build b f where
  congr f f' h := by
    rw [hget.congr f f' fun d hd => h d (List.mem_append_left _ hd)]
    exact congrArg _ (funext fun b =>
      (hbuild b).congr f f' fun d hd => h d (List.mem_append_right _ hd))
  fails f d hd v hv hnull hread := by
    rcases List.mem_append.1 hd with hd | hd
    · rw [hget.fails f d hd v hv hnull hread]
      rfl
    · exact Option.bind_eq_none_iff.2 fun b _ => (hbuild b).fails f d hd v hv hnull hread

theorem BuiltFrom.map {get : Fields → Option β} (hget : BuiltFrom decl get) (make : β → α) :
    BuiltFrom decl fun f => (get f).map make where
  congr f f' h := by rw [hget.congr f f' h]
  fails f d hd v hv hnull hread := by
    rw [hget.fails f d hd v hv hnull hread]
    rfl

section

variable (p : Place) (name : String)

/-- A getter of one field that tells values apart only as far as they read differently. -/
theorem builtFrom_single (get : Option Json → Option α)
    (hfails : ∀ v, v ≠ .null → p.read? v = none → get (some v) = none)
    (hcongr : ∀ v v', Alike p v v' → get (some v) = get (some v')) :
    BuiltFrom [(name, p)] fun f => get (f name) where
  congr f f' h := by
    have hfield : Option.Rel (Alike p) (f name) (f' name) := h _ (List.mem_singleton_self _)
    generalize f name = o at hfield ⊢
    generalize f' name = o' at hfield ⊢
    cases hfield with
    | none => rfl
    | some hv => exact hcongr _ _ hv
  fails f d hd v hv hnull hread := by
    obtain rfl := List.mem_singleton.1 hd
    rw [show f name = some v from hv]
    exact hfails v hnull hread

theorem builtFrom_required : BuiltFrom [(name, p)] fun f => f.required name p.read? :=
  builtFrom_single p name (·.bind p.read?) (fun _ _ hread => hread)
    fun _ _ hv => hv.read?_eq

theorem builtFrom_orElse (default : p.Value) :
    BuiltFrom [(name, p)] fun f => f.orElse name default p.read? :=
  builtFrom_single p name (fun o => Fields.orElse (fun _ => o) name default p.read?)
    (fun _ _ hread => hread) fun _ _ hv => hv.read?_eq

theorem builtFrom_optional : BuiltFrom [(name, p)] fun f => f.optional name p.read? := by
  refine builtFrom_single p name (fun o => Fields.optional (fun _ => o) name p.read?)
    (fun v hnull hread => ?_) fun v v' hv => ?_
  · simp [Fields.optional, hread]
  · by_cases hnull : v = .null
    · rw [hnull, hv.null_iff.1 hnull]
    · have hnull' : v' ≠ .null := mt hv.null_iff.2 hnull
      simp [Fields.optional, hv.read?_eq]

/-- A plain field may be read in any way. -/
theorem builtFrom_plain (get : Option Json → Option α) :
    BuiltFrom [(name, .plain)] fun f => get (f name) :=
  builtFrom_single .plain name get (fun _ _ hread => nomatch hread)
    fun _ _ hv => by rw [hv.eq_of_plain]

variable (read : Json → Option α)

theorem builtFrom_required_plain : BuiltFrom [(name, .plain)] fun f => f.required name read :=
  builtFrom_plain name (·.bind read)

theorem builtFrom_orElse_plain (default : α) :
    BuiltFrom [(name, .plain)] fun f => f.orElse name default read :=
  builtFrom_plain name fun o => Fields.orElse (fun _ => o) name default read

theorem builtFrom_optional_plain : BuiltFrom [(name, .plain)] fun f => f.optional name read :=
  builtFrom_plain name fun o => Fields.optional (fun _ => o) name read

end

/-- A reader of records that declare these members. -/
def ReadsRecord (read : Json → Option α) (decl : List (String × Place)) : Prop :=
  ∃ build : Fields → Option α, BuiltFrom decl build ∧
    ∀ j, read j = (Fields.ofJson? .json (decl.map (·.1)) .ignored j).bind build

end

end Place

/-! ## The readers of the records -/

open Place

theorem MediaUrl.readsRecord : ReadsRecord MediaUrl.ofJson? (declares .media) := by
  refine ⟨_, (builtFrom_required_plain "url" asString?).map MediaUrl.mk, fun j => ?_⟩
  change ofJson? j = (Fields.ofJson? .json ["url"] .ignored j).bind _
  unfold ofJson?
  cases Fields.ofJson? .json ["url"] .ignored j <;> rfl

theorem Message.readsRecord : ReadsRecord Message.ofJson? (declares .message) := by
  refine ⟨_, (builtFrom_required_plain "role" Role.ofJson?).bind fun role =>
    (builtFrom_required .content "content").map (Message.mk role),
    fun j => ?_⟩
  change ofJson? j = (Fields.ofJson? .json ["role", "content"] .ignored j).bind _
  unfold ofJson?
  rcases Fields.ofJson? .json ["role", "content"] .ignored j with _ | f
  · rfl
  · dsimp only [Option.bind_some, Place.read?, Place.Value]
    rcases f.required "role" Role.ofJson? with _ | role
    · rfl
    rcases f.required "content" Content.ofJson? with _ | content <;> rfl

theorem ChatRequest.readsRecord : ReadsRecord ChatRequest.ofJson? (declares .request) := by
  refine ⟨_, (builtFrom_required_plain "model" asString?).bind fun model =>
    (builtFrom_required (.list .message) "messages").bind fun messages =>
    (builtFrom_optional_plain "temperature" asFloat?).bind fun temperature =>
    (builtFrom_optional_plain "max_tokens" asUInt32?).map
      (ChatRequest.mk model messages temperature), fun j => ?_⟩
  change ofJson? j = (Fields.ofJson? .json fieldNames .ignored j).bind _
  unfold ofJson?
  rcases Fields.ofJson? .json fieldNames .ignored j with _ | f
  · rfl
  · dsimp only [Option.bind_some, Place.read?, Place.Value]
    rcases f.required "model" asString? with _ | model
    · rfl
    rcases f.required "messages" (asList? Message.ofJson?) with _ | messages
    · rfl
    rcases f.optional "temperature" asFloat? with _ | temperature
    · rfl
    rcases f.optional "max_tokens" asUInt32? with _ | maxTokens <;> rfl

theorem Usage.readsRecord : ReadsRecord Usage.ofJson? (declares .usage) := by
  refine ⟨_, (builtFrom_required_plain "prompt_tokens" asUInt32?).bind fun prompt =>
    (builtFrom_required_plain "completion_tokens" asUInt32?).bind fun completion =>
    (builtFrom_required_plain "total_tokens" asUInt32?).map (Usage.mk prompt completion),
    fun j => ?_⟩
  change ofJson? j = (Fields.ofJson? .json fieldNames .ignored j).bind _
  unfold ofJson?
  rcases Fields.ofJson? .json fieldNames .ignored j with _ | f
  · rfl
  · dsimp only [Option.bind_some]
    rcases f.required "prompt_tokens" asUInt32? with _ | prompt
    · rfl
    rcases f.required "completion_tokens" asUInt32? with _ | completion
    · rfl
    rcases f.required "total_tokens" asUInt32? with _ | total <;> rfl

theorem Choice.readsRecord : ReadsRecord Choice.ofJson? (declares .choice) := by
  refine ⟨_, (builtFrom_required_plain "index" asUInt32?).bind fun index =>
    (builtFrom_required .message "message").map (Choice.mk index),
    fun j => ?_⟩
  change ofJson? j = (Fields.ofJson? .json ["index", "message"] .ignored j).bind _
  unfold ofJson?
  rcases Fields.ofJson? .json ["index", "message"] .ignored j with _ | f
  · rfl
  · dsimp only [Option.bind_some, Place.read?, Place.Value]
    rcases f.required "index" asUInt32? with _ | index
    · rfl
    rcases f.required "message" Message.ofJson? with _ | message <;> rfl

theorem ChatResponse.readsRecord : ReadsRecord ChatResponse.ofJson? (declares .response) := by
  refine ⟨_, (builtFrom_required_plain "id" asString?).bind fun id =>
    (builtFrom_required_plain "model" asString?).bind fun model =>
    (builtFrom_required (.list .choice) "choices").bind fun choices =>
    (builtFrom_orElse .usage "usage" ({} : Usage)).bind fun usage =>
    (builtFrom_optional_plain "provider" asString?).bind fun provider =>
    (builtFrom_optional_plain "latency_ms" asUInt64?).bind fun latencyMs =>
    (builtFrom_optional_plain "cost" asFloat?).map
      (ChatResponse.mk id model choices usage provider latencyMs), fun j => ?_⟩
  change ofJson? j = (Fields.ofJson? .json fieldNames .ignored j).bind _
  unfold ofJson?
  rcases Fields.ofJson? .json fieldNames .ignored j with _ | f
  · rfl
  · dsimp only [Option.bind_some, Place.read?, Place.Value]
    rcases f.required "id" asString? with _ | id
    · rfl
    rcases f.required "model" asString? with _ | model
    · rfl
    rcases f.required "choices" (asList? Choice.ofJson?) with _ | choices
    · rfl
    rcases f.orElse "usage" ({} : Usage) Usage.ofJson? with _ | usage
    · rfl
    rcases f.optional "provider" asString? with _ | provider
    · rfl
    rcases f.optional "latency_ms" asUInt64? with _ | latencyMs
    · rfl
    rcases f.optional "cost" asFloat? with _ | cost <;> rfl

theorem StreamChunk.readsRecord : ReadsRecord StreamChunk.ofJson? (declares .chunk) := by
  refine ⟨_, (builtFrom_orElse_plain "id" asString? "").bind fun id =>
    (builtFrom_required_plain "content" asString?).bind fun content =>
    (builtFrom_required_plain "done" asBool?).bind fun done =>
    (builtFrom_optional .usage "usage").bind fun usage =>
    (builtFrom_optional_plain "provider" asString?).map (StreamChunk.mk id content done usage),
    fun j => ?_⟩
  change ofJson? j = (Fields.ofJson? .json fieldNames .ignored j).bind _
  unfold ofJson?
  rcases Fields.ofJson? .json fieldNames .ignored j with _ | f
  · rfl
  · dsimp only [Option.bind_some, Place.read?, Place.Value]
    rcases f.orElse "id" "" asString? with _ | id
    · rfl
    rcases f.required "content" asString? with _ | content
    · rfl
    rcases f.required "done" asBool? with _ | done
    · rfl
    rcases f.optional "usage" Usage.ofJson? with _ | usage
    · rfl
    rcases f.optional "provider" asString? with _ | provider <;> rfl

/-- Whatever a part of a kind holds, it is read as a record of one field. -/
theorem PartKind.readsRecord (k : PartKind) : ReadsRecord k.read? [(k.name, k.place)] := by
  cases k with
  | text =>
    refine ⟨_, (builtFrom_required_plain PartKind.text.name asString?).map .text, fun j => ?_⟩
    change read? .text j = (Fields.ofJson? .json [PartKind.text.name] .ignored j).bind _
    unfold read?
    cases Fields.ofJson? .json [PartKind.text.name] .ignored j <;> rfl
  | imageUrl =>
    refine ⟨_, (builtFrom_required .media PartKind.imageUrl.name).map .image, fun j => ?_⟩
    change read? .imageUrl j = (Fields.ofJson? .json [PartKind.imageUrl.name] .ignored j).bind _
    unfold read?
    cases Fields.ofJson? .json [PartKind.imageUrl.name] .ignored j <;> rfl
  | audioUrl =>
    refine ⟨_, (builtFrom_required .media PartKind.audioUrl.name).map .audio, fun j => ?_⟩
    change read? .audioUrl j = (Fields.ofJson? .json [PartKind.audioUrl.name] .ignored j).bind _
    unfold read?
    cases Fields.ofJson? .json [PartKind.audioUrl.name] .ignored j <;> rfl

/-- The kind of a part comes from its tag, and what it holds beside it is read as the kind says. -/
theorem ContentPart.ofItem?_eq (j : Json) :
    ofItem? j = (kindOf? j).bind fun k => k.read? (untagged j) := by
  unfold ofItem? kindOf?
  cases (tag? j).bind PartKind.ofTag? <;> rfl

/-- Every record but a part is read from the fields that its place declares. -/
theorem Place.readsRecord {p : Place} (hrecord : p.isRecord = true) (hpart : p ≠ .part) :
    ReadsRecord p.read? p.declares := by
  cases p with
  | media => exact MediaUrl.readsRecord
  | message => exact Message.readsRecord
  | request => exact ChatRequest.readsRecord
  | usage => exact Usage.readsRecord
  | choice => exact Choice.readsRecord
  | response => exact ChatResponse.readsRecord
  | chunk => exact StreamChunk.readsRecord
  | part => exact absurd rfl hpart
  | plain | content | list => cases hrecord

end ChatGateway
