import Mathlib.Data.List.Forall2
import ChatGateway.Gateway.Stream

/-!
# What is passed on

A receiver gets three kinds of chunks, each stated here field by field. A chunk of a stream is
passed on as it is, but for the name of its provider (`StreamChunk.PassedOn`). The empty last chunk
that a relay adds has the identifier of the chunk before (`StreamChunk.Closes`). A whole answer
makes one chunk with the text of its first choice (`ChatResponse.PassedOn`).
-/

namespace ChatGateway

/-! ## The text of an answer -/

/-- The text of a content is that of its parts, one after the other; media have none. -/
inductive Content.HasText : Content → String → Prop where
  | plain (t : String) : HasText (.plain t) t
  | nothing : HasText (.parts []) ""
  | text {ps : List ContentPart} {s : String} (t : String) (rest : HasText (.parts ps) s) :
    HasText (.parts (.text t :: ps)) (t ++ s)
  | image {ps : List ContentPart} {s : String} (source : MediaUrl) (rest : HasText (.parts ps) s) :
    HasText (.parts (.image source :: ps)) s
  | audio {ps : List ContentPart} {s : String} (source : MediaUrl) (rest : HasText (.parts ps) s) :
    HasText (.parts (.audio source :: ps)) s

theorem Content.hasText_text (c : Content) : c.HasText c.text := by
  cases c with
  | plain t => exact .plain t
  | parts ps =>
    induction ps with
    | nil => exact .nothing
    | cons p ps ih =>
      cases p with
      | text t =>
        have hjoin : Content.text (.parts (.text t :: ps)) = t ++ Content.text (.parts ps) :=
          String.join_cons
        rw [hjoin]
        exact .text t ih
      | image source => exact .image source ih
      | audio source => exact .audio source ih

/-- The text of an answer is that of its first choice, and empty without a choice. -/
inductive ChatResponse.HasText (r : ChatResponse) : String → Prop where
  | nothing (empty : r.choices = []) : HasText r ""
  | first {c : Choice} {rest : List Choice} {s : String} (choices : r.choices = c :: rest)
    (text : c.message.content.HasText s) : HasText r s

theorem ChatResponse.hasText_text (r : ChatResponse) : r.HasText r.text := by
  unfold text
  split
  · rename_i h
    exact .nothing h
  · rename_i c rest h
    exact .first h c.message.content.hasText_text

/-! ## Chunks -/

/-- The chunk is `c`, under the name of `p`. -/
structure StreamChunk.PassedOn (p : Provider) (c sent : StreamChunk) : Prop where
  id : sent.id = c.id
  content : sent.content = c.content
  done : sent.done = c.done
  usage : sent.usage = c.usage
  provider : sent.provider = some p.name

/-- The chunk is an empty last one after `c`. -/
structure StreamChunk.Closes (p : Provider) (c sent : StreamChunk) : Prop where
  id : sent.id = c.id
  content : sent.content = ""
  done : sent.done = true
  usage : sent.usage = none
  provider : sent.provider = some p.name

/-- The chunk is the whole answer `r` of `p`. -/
structure ChatResponse.PassedOn (p : Provider) (r : ChatResponse) (sent : StreamChunk) :
    Prop where
  id : sent.id = r.id
  content : r.HasText sent.content
  done : sent.done = true
  usage : sent.usage = some r.usage
  provider : sent.provider = some p.name

variable (p : Provider)

theorem StreamChunk.passedOn_from (c : StreamChunk) : c.PassedOn p (c.from p) :=
  ⟨rfl, rfl, rfl, rfl, rfl⟩

theorem StreamChunk.closes_terminal (c : StreamChunk) : c.Closes p ((terminal c.id).from p) :=
  ⟨rfl, rfl, rfl, rfl, rfl⟩

theorem ChatResponse.passedOn_asChunk (r : ChatResponse) : r.PassedOn p (r.asChunk p) :=
  ⟨rfl, r.hasText_text, rfl, rfl, rfl⟩

theorem StreamChunk.forall₂_passedOn (cs : List StreamChunk) :
    List.Forall₂ (PassedOn p) cs (cs.map (·.from p)) :=
  List.forall₂_map_right_iff.2 (List.forall₂_same.2 fun c _ => c.passedOn_from p)

end ChatGateway
