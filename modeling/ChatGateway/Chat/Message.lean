/-!
# Messages

A conversation is a list of messages, each with the role of its author and its content: plain
text, or a list of parts of which some are text and some refer to media. Only text counts in
`Content.text` and `Content.textLength`.
-/

namespace ChatGateway

/-- Who a message is from. -/
inductive Role where
  | system
  | user
  | assistant
deriving DecidableEq, Repr

/-- Where a medium is found: an address or inline data. -/
structure MediaUrl where
  url : String
deriving DecidableEq, Repr

/-- One part of a content. -/
inductive ContentPart where
  | text (text : String)
  | image (source : MediaUrl)
  | audio (source : MediaUrl)
deriving DecidableEq, Repr

/-- What a message says. -/
inductive Content where
  | plain (text : String)
  | parts (parts : List ContentPart)
deriving DecidableEq, Repr

/-- A message of a conversation. -/
structure Message where
  role : Role
  content : Content
deriving DecidableEq, Repr

/-- The text of a part, none if it is a medium. -/
def ContentPart.text? : ContentPart → Option String
  | .text t => some t
  | .image _ => none
  | .audio _ => none

/-- The number of characters of text in a part. -/
def ContentPart.textLength : ContentPart → Nat
  | .text t => t.length
  | .image _ => 0
  | .audio _ => 0

/-- The text, that of the parts joined and media passed over. -/
def Content.text : Content → String
  | .plain t => t
  | .parts ps => String.join (ps.filterMap ContentPart.text?)

/-- The number of characters of text. -/
def Content.textLength : Content → Nat
  | .plain t => t.length
  | .parts ps => (ps.map ContentPart.textLength).foldr (· + ·) 0

/-- A plain message from the user. -/
def Message.user (text : String) : Message := ⟨.user, .plain text⟩

/-- A plain message from the assistant. -/
def Message.assistant (text : String) : Message := ⟨.assistant, .plain text⟩

end ChatGateway
