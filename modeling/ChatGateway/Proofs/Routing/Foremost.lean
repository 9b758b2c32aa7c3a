import Mathlib.Data.List.Basic

/-!
# The foremost of a list

Going through a list for the best of the elements that are wanted, with the earlier of equals kept,
ends with the foremost of them: it is better than every wanted element before it, and no wanted
element after it is better (`Foremost`). A fold that keeps the best so far finds it
(`foremost_foldl`), and so does a search for the first element of the lowest rank there is
(`foremost_of_find?_eq_some`).
-/

namespace ChatGateway

/-- `Foremost wanted better xs x`: `x` is wanted, it is better than the wanted elements before it,
and none after it is better than `x`. -/
def Foremost {α : Type} (wanted : α → Prop) (better : α → α → Prop) (xs : List α) (x : α) : Prop :=
  ∃ before after, xs = before ++ x :: after ∧ wanted x ∧
    (∀ y ∈ before, wanted y → better x y) ∧ ∀ y ∈ after, wanted y → ¬better y x

section

variable {α : Type} {good : α → Prop} {better : α → α → Prop} {xs : List α} {x y : α}

theorem Foremost.mem (h : Foremost good better xs x) : x ∈ xs := by
  obtain ⟨before, after, rfl, -⟩ := h
  simp

theorem Foremost.wanted (h : Foremost good better xs x) : good x := by
  obtain ⟨-, -, -, hx, -⟩ := h
  exact hx

theorem Foremost.congr {good' : α → Prop} (h : Foremost good better xs x)
    (hgood : ∀ y ∈ xs, good y ↔ good' y) : Foremost good' better xs x := by
  obtain ⟨before, after, rfl, hx, hbefore, hafter⟩ := h
  refine ⟨before, after, rfl, (hgood x (by simp)).1 hx, fun y hy hy' => ?_, fun y hy hy' => ?_⟩
  · exact hbefore y hy ((hgood y (by simp [hy])).2 hy')
  · exact hafter y hy ((hgood y (by simp [hy])).2 hy')

theorem foremost_cons_self (hx : good x) (h : ∀ y ∈ xs, good y → ¬better y x) :
    Foremost good better (x :: xs) x :=
  ⟨[], xs, rfl, hx, by simp, h⟩

theorem Foremost.cons (h : Foremost good better xs x) (hy : good y → better x y) :
    Foremost good better (y :: xs) x := by
  obtain ⟨before, after, rfl, hx, hbefore, hafter⟩ := h
  exact ⟨y :: before, after, rfl, hx, List.forall_mem_cons.2 ⟨hy, hbefore⟩, hafter⟩

/-- The foremost is the head, or it is the foremost of the rest and better than the head. -/
theorem foremost_cons_iff :
    Foremost good better (y :: xs) x ↔
      (x = y ∧ good x ∧ ∀ z ∈ xs, good z → ¬better z x) ∨
        (good y → better x y) ∧ Foremost good better xs x := by
  constructor
  · rintro ⟨_ | ⟨z, before⟩, after, heq, hx, hbefore, hafter⟩
    · obtain ⟨rfl, rfl⟩ := List.cons.inj heq
      exact .inl ⟨rfl, hx, hafter⟩
    · obtain ⟨rfl, rfl⟩ := List.cons.inj heq
      obtain ⟨hy, hbefore⟩ := List.forall_mem_cons.1 hbefore
      exact .inr ⟨hy, before, after, rfl, hx, hbefore, hafter⟩
  · rintro (⟨rfl, hx, h⟩ | ⟨hy, h⟩)
    · exact foremost_cons_self hx h
    · exact h.cons hy

/-- The foremost of what is left of a list is the foremost of the elements that were left. -/
theorem Foremost.of_filter {keep : α → Bool}
    (h : Foremost (fun _ => True) better (xs.filter keep) x) :
    Foremost (fun y => keep y = true) better xs x := by
  induction xs with
  | nil => exact absurd h.mem List.not_mem_nil
  | cons y rest ih =>
    by_cases hy : keep y = true
    · rw [List.filter_cons_of_pos hy, foremost_cons_iff] at h
      rcases h with ⟨rfl, -, h⟩ | ⟨hbetter, h⟩
      · exact foremost_cons_self hy fun z hz hkeep => h z (List.mem_filter.2 ⟨hz, hkeep⟩) trivial
      · exact (ih h).cons fun _ => hbetter trivial
    · rw [List.filter_cons_of_neg hy] at h
      exact (ih h).cons fun hkeep => absurd hkeep hy

/-- Keeping the best so far, and changing it for a better one only, ends with the foremost. -/
theorem foremost_foldl (better : α → α → Prop) [DecidableRel better]
    (htrans : ∀ a b c, better a b → better b c → better a c)
    (hnot : ∀ b ∈ xs, ∀ a c, ¬better a b → ¬better b c → ¬better a c) :
    Foremost (fun _ => True) better (x :: xs)
      (xs.foldl (fun best next => if better next best then next else best) x) := by
  induction xs generalizing x with
  | nil => exact foremost_cons_self trivial (by simp)
  | cons next rest ih =>
    obtain ⟨hnext, hrest⟩ := List.forall_mem_cons.1 hnot
    rw [List.foldl_cons]
    by_cases h : better next x
    · rw [if_pos h]
      have hlead := ih (x := next) hrest
      refine hlead.cons fun _ => ?_
      rcases foremost_cons_iff.1 hlead with ⟨heq, -⟩ | ⟨hbetter, -⟩
      · rwa [heq]
      · exact htrans _ _ _ (hbetter trivial) h
    · rw [if_neg h]
      rcases foremost_cons_iff.1 (ih (x := x) hrest) with ⟨heq, -, hafter⟩ | ⟨hbetter, hlead⟩
      · rw [heq] at hafter ⊢
        exact foremost_cons_self trivial (List.forall_mem_cons.2 ⟨fun _ => h, hafter⟩)
      · have hbeats : better _ next := by_contra fun hn => hnext _ _ hn h (hbetter trivial)
        exact (hlead.cons fun _ => hbeats).cons hbetter

/-- If there is no lower rank, the first element of a rank is the foremost by rank. -/
theorem foremost_of_find?_eq_some {rank : α → Nat} {n : Nat} {isBest : α → Bool}
    (hleast : ∀ y ∈ xs, n ≤ rank y) (hbest : ∀ y ∈ xs, isBest y = true ↔ rank y = n)
    (h : xs.find? isBest = some x) :
    Foremost (fun _ => True) (fun y z => rank y < rank z) xs x := by
  have hx : rank x = n := (hbest x (List.mem_of_find?_eq_some h)).1 (List.find?_some h)
  obtain ⟨-, before, after, rfl, hbefore⟩ := List.find?_eq_some_iff_append.1 h
  refine ⟨before, after, rfl, trivial, fun y hy _ => ?_, fun y hy _ => ?_⟩
  · have hmem : y ∈ before ++ x :: after := List.mem_append_left _ hy
    have hne : rank y ≠ n := fun heq => by simpa [(hbest y hmem).2 heq] using hbefore y hy
    have hle := hleast y hmem
    omega
  · have hle := hleast y (List.mem_append_right _ (List.mem_cons_of_mem x hy))
    omega

/-- If there is no element of the lowest rank, every rank is higher. -/
theorem lt_rank_of_find?_eq_none {rank : α → Nat} {n : Nat} {isBest : α → Bool}
    (hleast : ∀ y ∈ xs, n ≤ rank y) (hbest : ∀ y ∈ xs, isBest y = true ↔ rank y = n)
    (h : xs.find? isBest = none) : ∀ y ∈ xs, n < rank y := by
  intro y hy
  have hne : rank y ≠ n := fun heq => List.find?_eq_none.1 h y hy ((hbest y hy).2 heq)
  exact Nat.lt_of_le_of_ne (hleast y hy) (Ne.symm hne)

end

end ChatGateway
