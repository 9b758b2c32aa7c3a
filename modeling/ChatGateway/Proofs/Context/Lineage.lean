import Mathlib.Data.List.Induction
import Mathlib.Logic.Relation
import ChatGateway.Context

/-!
# How cancellation flows

Contexts are made, copied, given other tokens and cancelled, one step after the other. The tokens
grow into a forest: a token may be derived from an older one, at any time before or after that one
was cancelled, and contexts may share a token or exchange it for that of another one.

What happened is read off the history of the steps alone: which token was derived from which
(`Contexts.DerivedFrom`) and which were cancelled (`Contexts.WasCancelled`). The tokens themselves
keep a lineage and a flag, and `Contexts.Tracks` ties both to the history. So a context is cancelled
exactly if its token, or one that it descends from, was cancelled at some time
(`Contexts.cancellation_flows_down`).
-/

namespace ChatGateway

open Relation

namespace CancelToken

variable {t : CancelToken} {number : Nat}

theorem lineage_cancelWith : (t.cancelWith number).lineage = t.lineage := by
  unfold cancelWith
  split <;> rfl

theorem cancelled_cancelWith :
    (t.cancelWith number).cancelled = true ↔ t.cancelled = true ∨ number ∈ t.lineage := by
  unfold cancelWith
  split <;> simp_all

end CancelToken

namespace Contexts

/-! ## What a step comes to -/

/-- The number of the token of a context. -/
def tokenOf? (cs : Contexts) (context : Nat) : Option Nat :=
  (cs.contexts[context]?).map (·.token)

/-- The token that a step derives another one from. -/
def parent? (cs : Contexts) : ContextStep → Option Nat
  | .child source => cs.tokenOf? source
  | .adoptChild source tokenFrom => (cs.contexts[source]?).bind fun _ => cs.tokenOf? tokenFrom
  | _ => none

/-- The token that a step cancels. -/
def cancels? (cs : Contexts) : ContextStep → Option Nat
  | .cancel source => cs.tokenOf? source
  | _ => none

/-- What a step can come to. -/
inductive Outcome (cs : Contexts) (s : ContextStep) : Contexts → Prop
  | fresh (caller : Option CallerId) (derives : cs.parent? s = none)
    (cancels : cs.cancels? s = none) : Outcome cs s (cs.addFresh caller)
  | derived (caller : Option CallerId) {parent : Nat} {t : CancelToken}
    (derives : cs.parent? s = some parent) (cancels : cs.cancels? s = none)
    (found : cs.tokens[parent]? = some t) : Outcome cs s (cs.addChild caller t)
  | shared {c : RequestContext} (derives : cs.parent? s = none) (cancels : cs.cancels? s = none)
    (in_range : c.token < cs.tokens.length) : Outcome cs s (cs.share c)
  | cancelled {token : Nat} (derives : cs.parent? s = none) (cancels : cs.cancels? s = some token)
    (in_range : token < cs.tokens.length) : Outcome cs s (cs.cancelToken token)
  | idle (derives : cs.parent? s = none) (cancels : cs.cancels? s = none) : Outcome cs s cs

/-- The tokens of the contexts are there. -/
def InRange (cs : Contexts) : Prop := ∀ c ∈ cs.contexts, c.token < cs.tokens.length

section

variable {cs : Contexts} {c other : RequestContext} {t : CancelToken} {source tokenFrom : Nat}

theorem tokenOf?_of_getElem? (hc : cs.contexts[source]? = some c) :
    cs.tokenOf? source = some c.token := by
  rw [tokenOf?, hc, Option.map_some]

theorem step_clone (hc : cs.contexts[source]? = some c) :
    cs.step (.clone source) = cs.share c := by
  simp only [step, hc]

theorem step_child (hc : cs.contexts[source]? = some c) (ht : cs.tokens[c.token]? = some t) :
    cs.step (.child source) = cs.addChild none t := by
  simp only [step, hc, Option.bind_some, ht]

theorem step_adopt (hc : cs.contexts[source]? = some c)
    (hother : cs.contexts[tokenFrom]? = some other) :
    cs.step (.adopt source tokenFrom) = cs.share { c with token := other.token } := by
  simp only [step, hc, hother]

theorem step_adoptChild (hc : cs.contexts[source]? = some c)
    (hother : cs.contexts[tokenFrom]? = some other) (ht : cs.tokens[other.token]? = some t) :
    cs.step (.adoptChild source tokenFrom) = cs.addChild c.caller t := by
  simp only [step, hc, hother, Option.bind_some, ht]

theorem step_cancel (hc : cs.contexts[source]? = some c) :
    cs.step (.cancel source) = cs.cancelToken c.token := by
  simp only [step, hc]

theorem getElem?_tokens_add {n : Nat} {t' : CancelToken} (caller : Option CallerId) :
    (cs.add caller t).tokens[n]? = some t' ↔
      cs.tokens[n]? = some t' ∨ n = cs.tokens.length ∧ t = t' := by
  change (cs.tokens ++ [t])[n]? = some t' ↔ _
  grind

theorem getElem?_tokens_cancelToken {n number : Nat} :
    (cs.cancelToken number).tokens[n]? = some t ↔
      ∃ old, cs.tokens[n]? = some old ∧ old.cancelWith number = t := by
  change (cs.tokens.map _)[n]? = some t ↔ _
  rw [List.getElem?_map, Option.map_eq_some_iff]

theorem length_tokens_add (caller : Option CallerId) :
    (cs.add caller t).tokens.length = cs.tokens.length + 1 := by
  rw [add, List.length_append, List.length_singleton]

theorem InRange.add (h : cs.InRange) (caller : Option CallerId) (t : CancelToken) :
    (cs.add caller t).InRange := by
  intro c hc
  rw [length_tokens_add]
  rcases List.mem_append.1 hc with hold | hnew
  · exact Nat.lt_succ_of_lt (h c hold)
  · rw [List.mem_singleton.1 hnew]
    exact Nat.lt_succ_self _

theorem InRange.share (h : cs.InRange) (hc : c.token < cs.tokens.length) :
    (cs.share c).InRange := by
  intro c' hc'
  rcases List.mem_append.1 hc' with hold | hnew
  · exact h c' hold
  · rw [List.mem_singleton.1 hnew]
    exact hc

theorem InRange.token_lt (h : cs.InRange) (hc : cs.contexts[source]? = some c) :
    c.token < cs.tokens.length :=
  h c (List.mem_of_getElem? hc)

/-- Every step comes to one of these. -/
theorem InRange.outcome (h : cs.InRange) (s : ContextStep) : Outcome cs s (cs.step s) := by
  cases s with
  | new => exact .fresh none rfl rfl
  | forCaller caller => exact .fresh (some caller) rfl rfl
  | clone source =>
    cases hc : cs.contexts[source]? with
    | none => simpa [step, hc] using Outcome.idle rfl rfl
    | some c =>
      rw [step_clone hc]
      exact .shared rfl rfl (h.token_lt hc)
  | child source =>
    cases hc : cs.contexts[source]? with
    | none => simpa [step, hc] using Outcome.idle (by simp [parent?, tokenOf?, hc]) rfl
    | some c =>
      have ht := List.getElem?_eq_getElem (h.token_lt hc)
      rw [step_child hc ht]
      exact .derived none (tokenOf?_of_getElem? hc) rfl ht
  | adopt source tokenFrom =>
    cases hc : cs.contexts[source]? with
    | none => simpa [step, hc] using Outcome.idle rfl rfl
    | some c =>
      cases hother : cs.contexts[tokenFrom]? with
      | none => simpa [step, hc, hother] using Outcome.idle rfl rfl
      | some other =>
        rw [step_adopt hc hother]
        exact .shared rfl rfl (h.token_lt hother : other.token < _)
  | adoptChild source tokenFrom =>
    cases hc : cs.contexts[source]? with
    | none => simpa [step, hc] using Outcome.idle (by simp [parent?, hc]) rfl
    | some c =>
      have hparent : cs.parent? (.adoptChild source tokenFrom) = cs.tokenOf? tokenFrom := by
        rw [parent?, hc, Option.bind_some]
      cases hother : cs.contexts[tokenFrom]? with
      | none =>
        simpa [step, hc, hother] using Outcome.idle (by rw [hparent, tokenOf?, hother]; rfl) rfl
      | some other =>
        have ht := List.getElem?_eq_getElem (h.token_lt hother)
        rw [step_adoptChild hc hother ht]
        exact .derived c.caller (hparent.trans (tokenOf?_of_getElem? hother)) rfl ht
  | cancel source =>
    cases hc : cs.contexts[source]? with
    | none => simpa [step, hc] using Outcome.idle rfl (by simp [cancels?, tokenOf?, hc])
    | some c =>
      rw [step_cancel hc]
      exact .cancelled rfl (tokenOf?_of_getElem? hc) (h.token_lt hc)

end

/-! ## Histories -/

/-- At some time in the history `P` held of the contexts and of the step that was taken then. -/
def Once (P : Contexts → ContextStep → Prop) (steps : List ContextStep) : Prop :=
  ∃ before s after, steps = before ++ s :: after ∧ P (run before) s

/-- A token was derived from another one: it came next after the tokens that there were. -/
def DerivedFrom (steps : List ContextStep) (token parent : Nat) : Prop :=
  Once (fun cs s => token = cs.tokens.length ∧ cs.parent? s = some parent) steps

/-- A token was cancelled, through a context that had it. -/
def WasCancelled (steps : List ContextStep) (token : Nat) : Prop :=
  Once (fun cs s => cs.cancels? s = some token) steps

/-- A token is another one or was derived from it, directly or through others. -/
def Descends (steps : List ContextStep) : Nat → Nat → Prop := ReflTransGen (DerivedFrom steps)

variable {P : Contexts → ContextStep → Prop} {steps : List ContextStep} {s : ContextStep}
  {token parent origin : Nat} {cs : Contexts}

theorem run_append_singleton (steps : List ContextStep) (s : ContextStep) :
    run (steps ++ [s]) = (run steps).step s :=
  List.foldl_append

theorem not_once_nil : ¬Once P [] := by
  rintro ⟨before, s, after, h, -⟩
  simp at h

theorem once_append_singleton : Once P (steps ++ [s]) ↔ Once P steps ∨ P (run steps) s := by
  constructor
  · rintro ⟨before, s', after, heq, h⟩
    rcases List.eq_nil_or_concat after with rfl | ⟨after, last, rfl⟩
    · obtain ⟨rfl, hs⟩ := List.append_inj' heq rfl
      obtain rfl : s = s' := List.head_eq_of_cons_eq hs
      exact .inr h
    · have heq : steps ++ [s] = (before ++ s' :: after) ++ [last] := by
        rw [heq, List.concat_eq_append, List.append_assoc, List.cons_append]
      obtain ⟨rfl, -⟩ := List.append_inj' heq rfl
      exact .inl ⟨before, s', after, rfl, h⟩
  · rintro (⟨before, s', after, rfl, h⟩ | h)
    · exact ⟨before, s', after ++ [s], by simp, h⟩
    · exact ⟨steps, s, [], rfl, h⟩

theorem derivedFrom_append_singleton :
    DerivedFrom (steps ++ [s]) token parent ↔ DerivedFrom steps token parent ∨
      token = (run steps).tokens.length ∧ (run steps).parent? s = some parent :=
  once_append_singleton

theorem wasCancelled_append_singleton :
    WasCancelled (steps ++ [s]) token ↔
      WasCancelled steps token ∨ (run steps).cancels? s = some token :=
  once_append_singleton

theorem Descends.append_singleton (h : Descends steps token origin) (s : ContextStep) :
    Descends (steps ++ [s]) token origin :=
  ReflTransGen.mono (fun _ _ hedge => derivedFrom_append_singleton.2 (.inl hedge)) _ _ h

/-! ## What the tokens keep of their history -/

/-- The contexts are as the history has left them. -/
structure Tracks (steps : List ContextStep) (cs : Contexts) : Prop where
  in_range : cs.InRange
  /-- Tokens are derived from older ones. -/
  derived_lt : ∀ token parent, DerivedFrom steps token parent →
    parent < token ∧ token < cs.tokens.length
  cancelled_lt : ∀ token, WasCancelled steps token → token < cs.tokens.length
  mem_lineage : ∀ (n : Nat) (t : CancelToken), cs.tokens[n]? = some t →
    ∀ m, m ∈ t.lineage ↔ Descends steps n m
  cancelled_iff : ∀ (n : Nat) (t : CancelToken), cs.tokens[n]? = some t →
    (t.cancelled = true ↔ ∃ m ∈ t.lineage, WasCancelled steps m)

theorem tracks_nil : Tracks [] {} where
  in_range := by simp [InRange]
  derived_lt _ _ h := absurd h not_once_nil
  cancelled_lt _ h := absurd h not_once_nil
  mem_lineage _ _ h := by simp at h
  cancelled_iff _ _ h := by simp at h

namespace Tracks

variable (h : Tracks steps (run steps))
include h

/-- A token that is there descends from the same ones as before. -/
theorem descends_append_of_lt (htoken : token < (run steps).tokens.length) :
    Descends (steps ++ [s]) token origin ↔ Descends steps token origin := by
  refine ⟨fun hpath => ?_, fun hpath => hpath.append_singleton s⟩
  induction hpath using ReflTransGen.head_induction_on with
  | refl => exact .refl
  | head hedge _ ih =>
    rcases derivedFrom_append_singleton.1 hedge with hold | ⟨hnew, -⟩
    · exact .head hold (ih (Nat.lt_trans (h.derived_lt _ _ hold).1 htoken))
    · omega

/-- The next token descends from itself, and from all that its parent descends from. -/
theorem descends_append_new (hparent : ∀ p, (run steps).parent? s = some p →
      p < (run steps).tokens.length) :
    Descends (steps ++ [s]) (run steps).tokens.length origin ↔
      origin = (run steps).tokens.length ∨
        ∃ p, (run steps).parent? s = some p ∧ Descends steps p origin := by
  constructor
  · intro hpath
    rcases ReflTransGen.cases_head hpath with rfl | ⟨p, hedge, hpath⟩
    · exact .inl rfl
    · rcases derivedFrom_append_singleton.1 hedge with hold | ⟨-, hp⟩
      · have := (h.derived_lt _ _ hold).2
        omega
      · exact .inr ⟨p, hp, (h.descends_append_of_lt (hparent p hp)).1 hpath⟩
  · rintro (rfl | ⟨p, hp, hpath⟩)
    · exact .refl
    · exact .head (derivedFrom_append_singleton.2 (.inr ⟨rfl, hp⟩)) (hpath.append_singleton s)

/-- The tokens that are there know as much of the history with another step, if that step cancels
none of them. -/
theorem token_append (hcancels : (run steps).cancels? s = none) {n : Nat} {t : CancelToken}
    (ht : (run steps).tokens[n]? = some t) :
    (∀ m, m ∈ t.lineage ↔ Descends (steps ++ [s]) n m) ∧
      (t.cancelled = true ↔ ∃ m ∈ t.lineage, WasCancelled (steps ++ [s]) m) := by
  have hn : n < (run steps).tokens.length := (List.getElem?_eq_some_iff.1 ht).1
  refine ⟨fun m => ?_, ?_⟩
  · rw [h.descends_append_of_lt hn, h.mem_lineage n t ht]
  · simp only [wasCancelled_append_singleton, hcancels, reduceCtorEq, or_false]
    exact h.cancelled_iff n t ht

/-- After a step that makes no token, the edges are the same. -/
theorem derived_lt_append (hderives : (run steps).parent? s = none) (token parent : Nat)
    (hedge : DerivedFrom (steps ++ [s]) token parent) :
    parent < token ∧ token < (run steps).tokens.length := by
  rcases derivedFrom_append_singleton.1 hedge with hold | ⟨-, hnew⟩
  · exact h.derived_lt _ _ hold
  · rw [hderives] at hnew
    cases hnew

/-- A step that makes no token and cancels none. -/
theorem keep (hderives : (run steps).parent? s = none) (hcancels : (run steps).cancels? s = none)
    (htokens : cs.tokens = (run steps).tokens) (hrange : cs.InRange) :
    Tracks (steps ++ [s]) cs where
  in_range := hrange
  derived_lt := by
    rw [htokens]
    exact h.derived_lt_append hderives
  cancelled_lt token hcancelled := by
    rcases wasCancelled_append_singleton.1 hcancelled with hold | hnew
    · rw [htokens]
      exact h.cancelled_lt token hold
    · rw [hcancels] at hnew
      cases hnew
  mem_lineage n t ht := (h.token_append hcancels (htokens ▸ ht)).1
  cancelled_iff n t ht := (h.token_append hcancels (htokens ▸ ht)).2

/-- A step that makes a token. -/
theorem make (caller : Option CallerId) {t : CancelToken}
    (hparent : ∀ p, (run steps).parent? s = some p → p < (run steps).tokens.length)
    (hcancels : (run steps).cancels? s = none)
    (hlineage : ∀ m, m ∈ t.lineage ↔ m = (run steps).tokens.length ∨
      ∃ p, (run steps).parent? s = some p ∧ Descends steps p m)
    (hflag : t.cancelled = true ↔ ∃ m ∈ t.lineage, WasCancelled steps m) :
    Tracks (steps ++ [s]) ((run steps).add caller t) := by
  have hlength : ((run steps).add caller t).tokens.length = (run steps).tokens.length + 1 :=
    length_tokens_add caller
  have htoken (n : Nat) (t' : CancelToken) (ht' : ((run steps).add caller t).tokens[n]? = some t') :
      (∀ m, m ∈ t'.lineage ↔ Descends (steps ++ [s]) n m) ∧
        (t'.cancelled = true ↔ ∃ m ∈ t'.lineage, WasCancelled (steps ++ [s]) m) := by
    rcases (getElem?_tokens_add caller).1 ht' with ht' | ⟨rfl, rfl⟩
    · exact h.token_append hcancels ht'
    · refine ⟨fun m => ?_, ?_⟩
      · rw [h.descends_append_new hparent, hlineage]
      · simp only [wasCancelled_append_singleton, hcancels, reduceCtorEq, or_false]
        exact hflag
  refine ⟨InRange.add h.in_range caller t, fun token parent hedge => ?_, fun token hcancelled => ?_,
    fun n t ht => (htoken n t ht).1, fun n t ht => (htoken n t ht).2⟩
  · rcases derivedFrom_append_singleton.1 hedge with hold | ⟨rfl, hp⟩
    · have hlt := h.derived_lt _ _ hold
      omega
    · have hlt := hparent _ hp
      omega
  · rcases wasCancelled_append_singleton.1 hcancelled with hold | hnew
    · have hlt := h.cancelled_lt _ hold
      omega
    · rw [hcancels] at hnew
      cases hnew

/-- A step that cancels a token. -/
theorem cancel (hderives : (run steps).parent? s = none)
    (hcancels : (run steps).cancels? s = some token) (htoken : token < (run steps).tokens.length) :
    Tracks (steps ++ [s]) ((run steps).cancelToken token) := by
  have hlength : ((run steps).cancelToken token).tokens.length = (run steps).tokens.length :=
    List.length_map _
  refine ⟨fun c hc => ?_, ?_, fun token' hcancelled => ?_, fun n t ht m => ?_, fun n t ht => ?_⟩
  · rw [hlength]
    exact h.in_range c hc
  · rw [hlength]
    exact h.derived_lt_append hderives
  · rw [hlength]
    rcases wasCancelled_append_singleton.1 hcancelled with hold | hnew
    · exact h.cancelled_lt _ hold
    · rw [hcancels] at hnew
      cases hnew
      exact htoken
  · obtain ⟨t, hold, rfl⟩ := getElem?_tokens_cancelToken.1 ht
    have hn : n < (run steps).tokens.length := (List.getElem?_eq_some_iff.1 hold).1
    rw [CancelToken.lineage_cancelWith, h.descends_append_of_lt hn, h.mem_lineage n t hold]
  · obtain ⟨t, hold, rfl⟩ := getElem?_tokens_cancelToken.1 ht
    rw [CancelToken.lineage_cancelWith, CancelToken.cancelled_cancelWith, h.cancelled_iff n t hold]
    simp only [wasCancelled_append_singleton, hcancels, Option.some.injEq]
    grind

/-- **One more step is tracked.** -/
theorem step (s : ContextStep) : Tracks (steps ++ [s]) ((run steps).step s) := by
  have houtcome := h.in_range.outcome s
  generalize (run steps).step s = cs at houtcome ⊢
  cases houtcome with
  | fresh caller derives cancels =>
    refine h.make caller (by simp [derives]) cancels (by simp [derives]) ?_
    have hnew : ¬WasCancelled steps (run steps).tokens.length := fun hold =>
      Nat.lt_irrefl _ (h.cancelled_lt _ hold)
    simp [hnew]
  | @derived caller parent t derives cancels found =>
    have hparent : parent < (run steps).tokens.length := (List.getElem?_eq_some_iff.1 found).1
    refine h.make caller (by simp [derives, hparent]) cancels (fun m => ?_) ?_
    · simp [derives, h.mem_lineage parent t found]
    · have hnew : ¬WasCancelled steps (run steps).tokens.length := fun hold =>
        Nat.lt_irrefl _ (h.cancelled_lt _ hold)
      simp [hnew, h.cancelled_iff parent t found]
  | shared derives cancels in_range =>
    exact h.keep derives cancels rfl (InRange.share h.in_range in_range)
  | cancelled derives cancels in_range => exact h.cancel derives cancels in_range
  | idle derives cancels => exact h.keep derives cancels rfl h.in_range

end Tracks

/-- Every history is tracked. -/
theorem tracks_run (steps : List ContextStep) : Tracks steps (run steps) := by
  induction steps using List.reverseRecOn with
  | nil => exact tracks_nil
  | append_singleton steps s ih =>
    rw [run_append_singleton]
    exact ih.step s

/-! ## What the contexts are -/

section

variable {c : RequestContext} {source tokenFrom : Nat} {t : CancelToken}

theorem isCancelled_of_getElem? (ht : cs.tokens[c.token]? = some t) :
    cs.isCancelled c = t.cancelled := by
  rw [isCancelled, tokenCancelled, ht]

theorem Tracks.isCancelled_iff (h : Tracks steps cs) (hc : c ∈ cs.contexts) :
    cs.isCancelled c = true ↔
      ∃ origin, Descends steps c.token origin ∧ WasCancelled steps origin := by
  have ht := List.getElem?_eq_getElem (h.in_range c hc)
  rw [isCancelled_of_getElem? ht, h.cancelled_iff _ _ ht]
  exact exists_congr fun origin => and_congr_left' (h.mem_lineage _ _ ht origin)

theorem Tracks.le_of_descends (h : Tracks steps cs) (hpath : Descends steps token origin) :
    origin ≤ token := by
  induction hpath using ReflTransGen.head_induction_on with
  | refl => exact Nat.le_refl _
  | head hedge _ ih => exact Nat.le_trans ih (Nat.le_of_lt (h.derived_lt _ _ hedge).1)

/-- Nothing happens but that there is one more context, the last one. -/
structure OnlyAdds (cs : Contexts) (c : RequestContext) (cs' : Contexts) : Prop where
  contexts_eq : cs'.contexts = cs.contexts ++ [c]
  isCancelled_eq : ∀ c' ∈ cs.contexts, cs'.isCancelled c' = cs.isCancelled c'

theorem onlyAdds_share (cs : Contexts) (c : RequestContext) : OnlyAdds cs c (cs.share c) :=
  ⟨rfl, fun _ _ => rfl⟩

theorem InRange.onlyAdds (h : cs.InRange) (caller : Option CallerId) (t : CancelToken) :
    OnlyAdds cs ⟨caller, cs.tokens.length⟩ (cs.add caller t) where
  contexts_eq := rfl
  isCancelled_eq c hc := by
    have ht := List.getElem?_eq_getElem (h c hc)
    rw [isCancelled_of_getElem? ht,
      isCancelled_of_getElem? ((getElem?_tokens_add caller).2 (.inl ht))]

/-- A step adds contexts at the end if it adds any. -/
theorem InRange.contexts_prefix (h : cs.InRange) (s : ContextStep) :
    cs.contexts <+: (cs.step s).contexts := by
  have houtcome := h.outcome s
  generalize cs.step s = cs' at houtcome ⊢
  cases houtcome with
  | fresh | derived | shared => exact List.prefix_append _ _
  | cancelled | idle => exact List.prefix_rfl

theorem contexts_step_cancel (cs : Contexts) (source : Nat) :
    (cs.step (.cancel source)).contexts = cs.contexts := by
  cases hc : cs.contexts[source]? with
  | none => simp only [Contexts.step, hc]
  | some c => rw [step_cancel hc, cancelToken]

/-- A cancellation is not taken back. -/
theorem Tracks.isCancelled_step (h : Tracks steps (run steps)) (s : ContextStep)
    (hc : c ∈ (run steps).contexts) (hcancelled : (run steps).isCancelled c = true) :
    ((run steps).step s).isCancelled c = true := by
  have hlater : c ∈ ((run steps).step s).contexts := (h.in_range.contexts_prefix s).subset hc
  obtain ⟨origin, hpath, hwas⟩ := (h.isCancelled_iff hc).1 hcancelled
  exact ((h.step s).isCancelled_iff hlater).2
    ⟨origin, hpath.append_singleton s, wasCancelled_append_singleton.2 (.inl hwas)⟩

end

/-- Cancellation goes from tokens to those that descend from them, and nowhere else. -/
structure FlowsDown (steps : List ContextStep) : Prop where
  /-- A context is cancelled exactly if its token, or one that it descends from, was cancelled. -/
  isCancelled_iff : ∀ c ∈ (run steps).contexts, ((run steps).isCancelled c = true ↔
    ∃ origin, Descends steps c.token origin ∧ WasCancelled steps origin)
  /-- A token does not descend from one that was derived from it. -/
  never_back : ∀ token parent, DerivedFrom steps token parent → ¬Descends steps parent token
  /-- No step changes a context that is there, be it its caller or its token. -/
  contexts_prefix : ∀ s, (run steps).contexts <+: (run (steps ++ [s])).contexts
  /-- No step takes a cancellation back. -/
  stays_cancelled : ∀ s, ∀ c ∈ (run steps).contexts, (run steps).isCancelled c = true →
    (run (steps ++ [s])).isCancelled c = true
  /-- A new context has a token that was not there before. -/
  new_adds : OnlyAdds (run steps) ⟨none, (run steps).tokens.length⟩ (run (steps ++ [.new]))
  forCaller_adds : ∀ caller, OnlyAdds (run steps) ⟨some caller, (run steps).tokens.length⟩
    (run (steps ++ [.forCaller caller]))
  /-- A copy has the caller and the token of the other one. -/
  clone_adds : ∀ source c, (run steps).contexts[source]? = some c →
    OnlyAdds (run steps) c (run (steps ++ [.clone source]))
  /-- Where a token is replaced by that of another context, a context with the old caller and that
  token is all that is new. -/
  adopt_adds : ∀ source tokenFrom c other, (run steps).contexts[source]? = some c →
    (run steps).contexts[tokenFrom]? = some other →
      OnlyAdds (run steps) ⟨c.caller, other.token⟩ (run (steps ++ [.adopt source tokenFrom]))
  /-- Where it is replaced by one derived from that, the same holds with a token that was not there
  before. -/
  adoptChild_adds : ∀ source tokenFrom c other, (run steps).contexts[source]? = some c →
    (run steps).contexts[tokenFrom]? = some other →
      OnlyAdds (run steps) ⟨c.caller, (run steps).tokens.length⟩
          (run (steps ++ [.adoptChild source tokenFrom])) ∧
        DerivedFrom (steps ++ [.adoptChild source tokenFrom]) (run steps).tokens.length other.token
  /-- So it is with a new context that has no caller. -/
  child_adds : ∀ source c, (run steps).contexts[source]? = some c →
    OnlyAdds (run steps) ⟨none, (run steps).tokens.length⟩ (run (steps ++ [.child source])) ∧
      DerivedFrom (steps ++ [.child source]) (run steps).tokens.length c.token
  /-- Where a token is cancelled all contexts stay as they are, with their callers. -/
  cancel_contexts : ∀ source, (run (steps ++ [.cancel source])).contexts = (run steps).contexts

/-- **Cancellation flows down and never back**, whatever the order in which contexts are made,
copied, given other tokens and cancelled. -/
theorem cancellation_flows_down (steps : List ContextStep) : FlowsDown steps := by
  have h := tracks_run steps
  refine ⟨fun c hc => h.isCancelled_iff hc, fun token parent hedge hpath => ?_, fun s => ?_,
    fun s c hc hcancelled => ?_, ?_, fun caller => ?_, fun source c hc => ?_,
    fun source tokenFrom c other hc hother => ?_, fun source tokenFrom c other hc hother => ?_,
    fun source c hc => ?_, fun source => ?_⟩
  · exact Nat.not_lt.2 (h.le_of_descends hpath) (h.derived_lt _ _ hedge).1
  · rw [run_append_singleton]
    exact h.in_range.contexts_prefix s
  · rw [run_append_singleton]
    exact h.isCancelled_step s hc hcancelled
  · rw [run_append_singleton]
    exact h.in_range.onlyAdds none _
  · rw [run_append_singleton]
    exact h.in_range.onlyAdds (some caller) _
  · rw [run_append_singleton, step_clone hc]
    exact onlyAdds_share _ _
  · rw [run_append_singleton, step_adopt hc hother]
    exact onlyAdds_share _ _
  · have ht := List.getElem?_eq_getElem (h.in_range.token_lt hother)
    refine ⟨?_, derivedFrom_append_singleton.2 (.inr ⟨rfl, ?_⟩)⟩
    · rw [run_append_singleton, step_adoptChild hc hother ht]
      exact h.in_range.onlyAdds c.caller _
    · rw [parent?, hc, Option.bind_some, tokenOf?_of_getElem? hother]
  · have ht := List.getElem?_eq_getElem (h.in_range.token_lt hc)
    refine ⟨?_, derivedFrom_append_singleton.2 (.inr ⟨rfl, tokenOf?_of_getElem? hc⟩)⟩
    rw [run_append_singleton, step_child hc ht]
    exact h.in_range.onlyAdds none _
  · rw [run_append_singleton, contexts_step_cancel]

/-- A child that was derived early and one that was derived late are both cancelled with their
parent. The parent does not mind that an earlier child was cancelled, and a context that left for
another token stays as it is. -/
example :
    (run [.new, .forCaller ⟨7⟩, .adoptChild 1 0, .child 0, .cancel 3, .adopt 2 1, .cancel 0,
      .adoptChild 4 2, .clone 1]).overview =
    [(true, none), (false, some ⟨7⟩), (true, some ⟨7⟩), (true, none), (false, some ⟨7⟩),
      (true, some ⟨7⟩), (false, some ⟨7⟩)] := by
  decide

end Contexts

end ChatGateway
