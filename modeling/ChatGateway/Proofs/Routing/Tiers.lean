import Mathlib
import ChatGateway.Proofs.Routing.Foremost
import ChatGateway.Routing.Strategy

/-!
# Tiers of matching

How well a candidate suits the wanted model is a matter of four tiers (`ModelMatch.tier`): it lists
the model up to case, it lists one that contains the name or is contained in it, it is the local
provider and the model belongs to a local family, or none of these. The three searches of the
strategy by model together pick the foremost by tier: of the candidates of the lowest tier the one
that is listed first (`Strategy.select_lowest_tier`).
-/

namespace ChatGateway

namespace ModelMatch

open Text

/-- How well a candidate suits a model, the best tier first. -/
def tier (model : String) (p : Provider) : ℕ :=
  if ∃ m ∈ p.models, lowercase m = lowercase model then 0
  else if ∃ m ∈ p.models,
      lowercase model <:+: lowercase m ∨ lowercase m <:+: lowercase model then 1
  else if p.name = localProvider ∧ ∃ k ∈ localFamilies, k.toList <:+: lowercase model then 2
  else 3

variable {model : String} {p : Provider}

/-- The tier by the tests of the three searches. -/
theorem tier_eq :
    tier model p =
      if isExact (lowercase model) p = true then 0
      else if isPartial (lowercase model) p = true then 1
      else if p.name = localProvider ∧ isLocalFamily (lowercase model) = true then 2
      else 3 := by
  have hexact : isExact (lowercase model) p = true ↔
      ∃ m ∈ p.models, lowercase m = lowercase model := by
    simp [isExact, loweredModels]
  have hpartial : isPartial (lowercase model) p = true ↔
      ∃ m ∈ p.models, lowercase model <:+: lowercase m ∨ lowercase m <:+: lowercase model := by
    simp [isPartial, loweredModels, occursIn_iff]
  have hlocal : isLocalFamily (lowercase model) = true ↔
      ∃ k ∈ localFamilies, k.toList <:+: lowercase model := by
    simp [isLocalFamily, occursIn_iff]
  simp only [hexact, hpartial, hlocal]
  rfl

theorem tier_le : tier model p ≤ 3 := by
  rw [tier_eq]
  split_ifs <;> omega

theorem isExact_iff : isExact (lowercase model) p = true ↔ tier model p = 0 := by
  rw [tier_eq]
  split_ifs <;> simp_all

theorem isPartial_iff (h : 0 < tier model p) :
    isPartial (lowercase model) p = true ↔ tier model p = 1 := by
  rw [tier_eq] at h ⊢
  split_ifs at h ⊢ <;> simp_all

theorem isLocal_iff (h : 1 < tier model p) (hlocal : isLocalFamily (lowercase model) = true) :
    p.name = localProvider ↔ tier model p = 2 := by
  rw [tier_eq] at h ⊢
  split_ifs at h ⊢ <;> simp_all

theorem two_lt_tier (h : 1 < tier model p) (hlocal : ¬isLocalFamily (lowercase model) = true) :
    2 < tier model p := by
  rw [tier_eq] at h ⊢
  split_ifs at h ⊢ <;> simp_all

/-- The three searches, one after the other, find the foremost by tier. -/
theorem select_foremost (request : ChatRequest) (first : Provider) (rest : List Provider) :
    Foremost (fun _ => True) (fun p q => tier request.model p < tier request.model q)
      (first :: rest) (select request first rest) := by
  have hexact : ∀ p ∈ first :: rest, isExact (lowercase request.model) p = true ↔
      tier request.model p = 0 := fun _ _ => isExact_iff
  have hfirst (hlast : ∀ p ∈ first :: rest, 2 < tier request.model p) :
      Foremost (fun _ => True) (fun p q => tier request.model p < tier request.model q)
        (first :: rest) first := by
    refine foremost_cons_self trivial fun p hp _ => ?_
    have hp := hlast p (List.mem_cons_of_mem first hp)
    have hle : tier request.model first ≤ 3 := tier_le
    omega
  simp only [select]
  split
  · exact foremost_of_find?_eq_some (fun _ _ => Nat.zero_le _) hexact ‹_›
  · have hfrom := lt_rank_of_find?_eq_none (fun _ _ => Nat.zero_le _) hexact ‹_›
    have hpartial : ∀ p ∈ first :: rest, isPartial (lowercase request.model) p = true ↔
        tier request.model p = 1 := fun p hp => isPartial_iff (hfrom p hp)
    split
    · exact foremost_of_find?_eq_some hfrom hpartial ‹_›
    · have hfrom := lt_rank_of_find?_eq_none hfrom hpartial ‹_›
      split
      · have hlocal : ∀ p ∈ first :: rest, decide (p.name = localProvider) = true ↔
            tier request.model p = 2 := by
          intro p hp
          rw [decide_eq_true_iff]
          exact isLocal_iff (hfrom p hp) ‹_›
        cases hfound : (first :: rest).find? fun p => p.name = localProvider with
        | some p => exact foremost_of_find?_eq_some hfrom hlocal hfound
        | none => exact hfirst (lt_rank_of_find?_eq_none hfrom hlocal hfound)
      · exact hfirst fun p hp => two_lt_tier (hfrom p hp) ‹_›

end ModelMatch

/-- **The best match is picked**: a candidate of the lowest tier there is, and of several the one
that is listed first. -/
theorem Strategy.select_lowest_tier (s : Signals) (rotation : Rotation) (request : ChatRequest)
    (first : Provider) (rest : List Provider) :
    ∃ p, byModel.select s rotation request (first :: rest) = .ok (.ok p) ∧
      Foremost (fun _ => True)
        (fun p q => ModelMatch.tier request.model p < ModelMatch.tier request.model q)
        (first :: rest) p :=
  ⟨ModelMatch.select request first rest, rfl, ModelMatch.select_foremost request first rest⟩

end ChatGateway
