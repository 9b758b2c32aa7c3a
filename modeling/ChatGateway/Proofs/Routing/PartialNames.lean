import ChatGateway.Proofs.Routing.Tiers
import ChatGateway.Proofs.Text.Containment

/-!
# Names that are parts of others

A model is often wanted by a part of its name, or by its name with a tag. If nobody lists the model
itself, the strategy by model looks for a name that contains the wanted one or is contained in it,
with both in lower case. So it finds what is contained character for character, as long as the
capital sigmas stay what they are (`Strategy.select_by_containment`). Where a sigma closes the
shorter name and not the longer one, the name is not found
(`ModelMatch.contained_name_is_passed_over`).
-/

namespace ChatGateway

open Text

namespace ModelMatch

/-- One of the names contains the other one in lower case. -/
def Overlaps (wanted model : String) : Prop :=
  lowercase wanted <:+: lowercase model ∨ lowercase model <:+: lowercase wanted

/-- The first candidate that lists a model whose name overlaps with the wanted one. -/
def FirstOverlap (wanted : String) (candidates : List Provider) (p : Provider) : Prop :=
  ∃ before after, candidates = before ++ p :: after ∧ (∃ m ∈ p.models, Overlaps wanted m) ∧
    ∀ q ∈ before, ∀ m ∈ q.models, ¬Overlaps wanted m

/-- One of the names stands in the other one as it is written. -/
def Contained (wanted model : String) : Prop := StandsIn wanted model ∨ StandsIn model wanted

variable {wanted model : String} {p : Provider}

theorem Contained.overlaps (h : Contained wanted model) : Overlaps wanted model :=
  h.imp StandsIn.lowercase_infix StandsIn.lowercase_infix

theorem tier_pos (hexact : ∀ m ∈ p.models, lowercase m ≠ lowercase wanted) : 0 < tier wanted p := by
  unfold tier
  rw [if_neg (by simpa using hexact)]
  split_ifs <;> omega

theorem tier_eq_one_iff (hexact : ∀ m ∈ p.models, lowercase m ≠ lowercase wanted) :
    tier wanted p = 1 ↔ ∃ m ∈ p.models, Overlaps wanted m := by
  unfold tier
  rw [if_neg (by simpa using hexact)]
  constructor
  · intro h
    by_contra hnone
    simp only [Overlaps] at hnone
    rw [if_neg hnone] at h
    split_ifs at h <;> omega
  · intro h
    exact if_pos h

/-- Where nobody lists the model, the first that lists one with an overlapping name is picked. -/
theorem select_firstOverlap {request : ChatRequest} {first : Provider} {rest : List Provider}
    (hexact : ∀ p ∈ first :: rest, ∀ m ∈ p.models, lowercase m ≠ lowercase request.model)
    (hoverlaps : ∃ p ∈ first :: rest, ∃ m ∈ p.models, Overlaps request.model m) :
    FirstOverlap request.model (first :: rest) (select request first rest) := by
  obtain ⟨before, after, heq, -, hbefore, hafter⟩ := select_foremost request first rest
  obtain ⟨q, hq, hm⟩ := hoverlaps
  have hone : tier request.model q = 1 := (tier_eq_one_iff (hexact q hq)).2 hm
  have hpick : select request first rest ∈ first :: rest := by
    rw [heq]
    simp
  -- A candidate of the second tier can only be the pick, stand before it or stand after it.
  have hle : tier request.model (select request first rest) ≤ 1 := by
    rw [heq, List.mem_append, List.mem_cons] at hq
    rcases hq with hq | rfl | hq
    · have hlt := hbefore q hq trivial
      omega
    · omega
    · have hnot := hafter q hq trivial
      omega
  have hpos : 0 < tier request.model (select request first rest) := tier_pos (hexact _ hpick)
  refine ⟨before, after, heq, (tier_eq_one_iff (hexact _ hpick)).1 (by omega), ?_⟩
  intro q hq m hm hoverlap
  have hmem : q ∈ first :: rest := by
    rw [heq]
    exact List.mem_append_left _ hq
  have hone : tier request.model q = 1 := (tier_eq_one_iff (hexact q hmem)).2 ⟨m, hm, hoverlap⟩
  have hlt := hbefore q hq trivial
  omega

end ModelMatch

open ModelMatch in
/-- **What is contained is found.** If nobody lists the wanted model, but somebody lists one whose
name contains the wanted name or is contained in it, and the capital sigmas of the shorter name stay
what they are in the longer one, then the first candidate with an overlapping name is picked. They
do so if there are none. -/
theorem Strategy.select_by_containment (s : Signals) (rotation : Rotation) {request : ChatRequest}
    {first : Provider} {rest : List Provider}
    (hexact : ∀ p ∈ first :: rest, ∀ m ∈ p.models, lowercase m ≠ lowercase request.model) :
    ∃ p, byModel.select s rotation request (first :: rest) = .ok (.ok p) ∧
      ((∃ q ∈ first :: rest, ∃ m ∈ q.models, Contained request.model m) →
        FirstOverlap request.model (first :: rest) p) ∧
      ((∃ q ∈ first :: rest, ∃ m ∈ q.models,
          request.model.toList <:+: m.toList ∧ 'Σ' ∉ request.model.toList ∨
            m.toList <:+: request.model.toList ∧ 'Σ' ∉ m.toList) →
        FirstOverlap request.model (first :: rest) p) := by
  have hcontained : (∃ q ∈ first :: rest, ∃ m ∈ q.models, Contained request.model m) →
      FirstOverlap request.model (first :: rest) (ModelMatch.select request first rest) := by
    rintro ⟨q, hq, m, hm, hcontained⟩
    exact select_firstOverlap hexact ⟨q, hq, m, hm, hcontained.overlaps⟩
  refine ⟨_, rfl, hcontained, ?_⟩
  rintro ⟨q, hq, m, hm, ⟨hstands, hsigma⟩ | ⟨hstands, hsigma⟩⟩
  · exact hcontained ⟨q, hq, m, hm, .inl (standsIn_of_contained hstands hsigma)⟩
  · exact hcontained ⟨q, hq, m, hm, .inr (standsIn_of_contained hstands hsigma)⟩

/-! ## Names with a closing sigma -/

namespace ModelMatch

/-- Two providers, of which the second lists one model of the family. -/
def odosCandidates (model : String) : List Provider :=
  [⟨{ name := "other", models := ["another"] }, .server 0⟩,
    ⟨{ name := "odos", models := [model] }, .server 1⟩]

/-- A request for the family by its name alone, which a sigma closes. -/
def odosRequest : ChatRequest := { model := "ΟΔΟΣ", messages := [] }

/-- With a number for a tag the sigma of the name still closes a word. -/
theorem tagged_name_is_found :
    (∀ p ∈ odosCandidates "ΟΔΟΣ:7b", ∀ m ∈ p.models,
        lowercase m ≠ lowercase odosRequest.model) ∧
      ∀ (s : Signals) (rotation : Rotation), ∃ p,
        Strategy.byModel.select s rotation odosRequest (odosCandidates "ΟΔΟΣ:7b") =
            .ok (.ok p) ∧
          FirstOverlap "ΟΔΟΣ" (odosCandidates "ΟΔΟΣ:7b") p := by
  have hexact : ∀ p ∈ odosCandidates "ΟΔΟΣ:7b", ∀ m ∈ p.models,
      lowercase m ≠ lowercase odosRequest.model := by
    decide +kernel
  have hstands : StandsIn "ΟΔΟΣ" "ΟΔΟΣ:7b" :=
    ⟨[], ":7b".toList, by decide +kernel,
      (formFrom_eq_lowerFrom_iff _ _ _).1 (by decide +kernel)⟩
  refine ⟨hexact, fun s rotation => ?_⟩
  obtain ⟨p, hp, hcontained, -⟩ := Strategy.select_by_containment s rotation hexact
  exact ⟨p, hp, hcontained ⟨_, List.mem_cons_of_mem _ (List.mem_singleton_self _), _,
    List.mem_singleton_self _, .inl hstands⟩⟩

/-- With letters for a tag it does not, and the name is not found, though it stands in the other
one. -/
theorem contained_name_is_passed_over :
    ¬∀ (s : Signals) (rotation : Rotation) (request : ChatRequest) (candidates : List Provider),
      (∀ p ∈ candidates, ∀ m ∈ p.models, lowercase m ≠ lowercase request.model) →
      (∃ p ∈ candidates, ∃ m ∈ p.models, m ≠ "" ∧ request.model ≠ "" ∧
        (request.model.toList <:+: m.toList ∨ m.toList <:+: request.model.toList)) →
      ∃ p, Strategy.byModel.select s rotation request candidates = .ok (.ok p) ∧
        FirstOverlap request.model candidates p := by
  intro h
  have hnone : ∀ p ∈ odosCandidates "ΟΔΟΣ:mini", ∀ m ∈ p.models, ¬Overlaps "ΟΔΟΣ" m := by
    unfold Overlaps
    decide +kernel
  have hstands : odosRequest.model.toList <:+: "ΟΔΟΣ:mini".toList :=
    ⟨[], ":mini".toList, by decide +kernel⟩
  obtain ⟨p, -, before, after, heq, ⟨m, hm, hoverlap⟩, -⟩ := h ⟨[], ⟨1, []⟩⟩ {} odosRequest
    (odosCandidates "ΟΔΟΣ:mini") (by decide +kernel)
    ⟨_, List.mem_cons_of_mem _ (List.mem_singleton_self _), _, List.mem_singleton_self _,
      by decide, by decide, .inl hstands⟩
  refine hnone p ?_ m hm hoverlap
  rw [heq]
  simp

end ModelMatch

end ChatGateway
