import ChatGateway.Chat.Message

/-!
# Responses

A whole answer (`ChatResponse`) with its token counts (`Usage`), and a piece of an answer that
is sent while it is made (`StreamChunk`).
-/

namespace ChatGateway

/-- Token counts. -/
structure Usage where
  promptTokens : UInt32 := 0
  completionTokens : UInt32 := 0
  totalTokens : UInt32 := 0
deriving DecidableEq, Repr

/-- The counts with their sum as the total, which stops at the largest count. -/
def Usage.ofParts (prompt completion : UInt32) : Usage :=
  ⟨prompt, completion, UInt32.ofNat (min (prompt.toNat + completion.toNat) 0xFFFFFFFF)⟩

/-- One of the answers to a request. -/
structure Choice where
  index : UInt32
  message : Message
deriving DecidableEq, Repr

/-- An answer. The provider fills in the first four fields, the gateway the others. -/
structure ChatResponse where
  id : String
  model : String
  choices : List Choice
  usage : Usage := {}
  provider : Option String := none
  latencyMs : Option UInt64 := none
  cost : Option Float := none
deriving DecidableEq

namespace ChatResponse

/-- An answer of one text. -/
def ofText (id model text : String) (usage : Usage) : ChatResponse :=
  { id, model, usage, choices := [⟨0, .assistant text⟩] }

/-- The text of the first choice, empty if there is none. -/
def text (r : ChatResponse) : String :=
  match r.choices with
  | [] => ""
  | c :: _ => c.message.content.text

end ChatResponse

/-- A piece of an answer. -/
structure StreamChunk where
  id : String := ""
  content : String := ""
  /-- Set on the last piece. -/
  done : Bool := false
  usage : Option Usage := none
  provider : Option String := none
deriving DecidableEq, Repr

namespace StreamChunk

/-- A piece of text. -/
def delta (id content : String) : StreamChunk := { id, content }

/-- The empty last piece. -/
def terminal (id : String) : StreamChunk := { id, done := true }

end StreamChunk

end ChatGateway
