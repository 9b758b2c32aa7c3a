import ChatGateway.Proofs.Routing.Turns

/-!
# Shares of one model

All models share one rotation, and each counts its turns off along a pool of its own: a turn leads
to the place of the pool that is its number modulo the size of the pool. Selections for other models
use up turns as well, and so places are passed over between two selections for one model. Nothing
else comes between equal shares: the numbers of picks of two places differ by at most one and the
places passed over (`Desk.shares`). They do differ by more when the other models always come at the
same point (`interleaved_shares_are_uneven`).
-/

namespace ChatGateway

/-! ## Going round a pool -/

namespace Rotation

/-- The places between two that are taken one after the other, going round a pool. -/
def between (size p q : Nat) : Nat := if p < q then q - p - 1 else q + size - p - 1

/-- The places that are passed over on a way round a pool. -/
def passed (size : Nat) : List Nat → Nat
  | p :: q :: rest => between size p q + passed size (q :: rest)
  | _ => 0

/-- How far a place lies ahead of another one, going round a pool. -/
def ahead (size p i : Nat) : Nat := if p ≤ i then i - p else i + size - p

section Round

variable {size p q i j : Nat}

theorem ahead_self : ahead size p p = 0 := by simp [ahead]

theorem ahead_lt (hp : p < size) (hi : i < size) : ahead size p i < size := by
  unfold ahead
  split <;> omega

/-- Right after a place all others are one step nearer. -/
theorem ahead_of_next (hp : p < size) (hq : q < size) (hi : i < size)
    (hnext : between size p q = 0) (hne : p ≠ i) : ahead size p i = ahead size q i + 1 := by
  unfold between at hnext
  unfold ahead
  split_ifs at * <;> omega

/-- One step further, `i` has come first where it did not before, only if `j` was taken or places
were passed over. -/
theorem ahead_step (hp : p < size) (hq : q < size) (hi : i < size) (hj : j < size) :
    (if p = i then 1 else 0) + (if ahead size q i < ahead size q j then 1 else 0) ≤
      (if p = j then 1 else 0) + between size p q +
        if ahead size p i < ahead size p j then 1 else 0 := by
  rcases eq_or_ne p j with rfl | hpj
  · rcases eq_or_ne p i with rfl | hpi
    · simp
    · rw [if_neg hpi, if_pos rfl]
      split_ifs <;> omega
  have hforward : 0 < ahead size p j := by
    unfold ahead
    split <;> omega
  rcases eq_or_ne p i with rfl | hpi
  · rw [if_pos rfl, ahead_self, if_pos hforward, if_neg hpj]
    by_cases hnext : between size p q = 0
    · have hround : ¬ahead size q p < ahead size q j := by
        have hj' := ahead_of_next hp hq hj hnext hpj
        have hlt := ahead_lt hp hj
        unfold between at hnext
        unfold ahead at *
        split_ifs at * <;> omega
      rw [if_neg hround]
      omega
    · split <;> omega
  · rw [if_neg hpi, if_neg hpj]
    by_cases hnext : between size p q = 0
    · rw [ahead_of_next hp hq hi hnext hpi, ahead_of_next hp hq hj hnext hpj]
      simp
    · split_ifs <;> omega

/-- Whoever goes round and comes to `i` has come to `j` as often, or passed it over, but for the
first time if `i` comes first. -/
theorem count_le_of_ahead {places : List Nat} (hp : p < size) (hplaces : ∀ q ∈ places, q < size)
    (hi : i < size) (hj : j < size) :
    (p :: places).count i ≤ (p :: places).count j + passed size (p :: places) +
      if ahead size p i < ahead size p j then 1 else 0 := by
  induction places generalizing p with
  | nil =>
    rcases eq_or_ne p i with rfl | hpi
    · rcases eq_or_ne p j with rfl | hpj
      · simp
      · have hforward : 0 < ahead size p j := by
          unfold ahead
          split <;> omega
        simp [ahead_self, hforward]
    · simp [hpi]
  | cons q rest ih =>
    obtain ⟨hq, hrest⟩ := List.forall_mem_cons.1 hplaces
    have hlater := ih hq hrest
    have hstep := ahead_step hp hq hi hj
    rw [List.count_cons, List.count_cons (a := j), passed]
    simp only [beq_iff_eq]
    omega

/-- **Going round a pool** every place is taken as often as any other, but for once and for the
places passed over. -/
theorem count_le_passed {places : List Nat} (hplaces : ∀ p ∈ places, p < size) (hi : i < size)
    (hj : j < size) :
    places.count i ≤ places.count j + 1 + passed size places := by
  cases places with
  | nil => simp
  | cons p rest =>
    obtain ⟨hp, hrest⟩ := List.forall_mem_cons.1 hplaces
    have h := count_le_of_ahead hp hrest hi hj
    split_ifs at h <;> omega

end Round

/-! ## Turns and their places -/

/-- The place of a turn in a pool, where the count of turns starts again after a period. -/
def place (period size turn : Nat) : Nat := turn % period % size

/-- The places that are passed over between some turns: one for each turn in between, where whole
rounds do not count. -/
def passedBetween (size : Nat) : List Nat → Nat
  | t :: u :: rest => (u - t - 1) % size + passedBetween size (u :: rest)
  | _ => 0

section Turns

variable {size : Nat}

theorem between_mod (hsize : 0 < size) (t more : Nat) :
    between size (t % size) ((t + 1 + more) % size) = more % size := by
  have ht := Nat.mod_lt t hsize
  have hmore := Nat.mod_lt more hsize
  have hmod : (t + 1 + more) % size = (t % size + 1 + more % size) % size :=
    (((Nat.mod_modEq t size).add_right 1).add (Nat.mod_modEq more size)).symm
  rw [hmod]
  generalize t % size = p at ht ⊢
  generalize more % size = m at hmore ⊢
  unfold between
  rcases Nat.lt_or_ge (p + 1 + m) size with hlt | hge
  · rw [Nat.mod_eq_of_lt hlt]
    split_ifs <;> omega
  · rw [Nat.mod_eq_sub_mod hge, Nat.mod_eq_of_lt (by omega)]
    split_ifs <;> omega

theorem between_le (p : Nat) {q : Nat} (hq : q < size) : between size p q ≤ size - 1 := by
  unfold between
  split_ifs <;> omega

/-- Where the count does not start again between two turns, the turns in between count. -/
theorem between_place_le (period : Nat) (hsize : 0 < size) {t u : Nat} (h : t < u) :
    between size (place period size t) (place period size u) ≤
      (u - t - 1) % size + (u / period - t / period) * (size - 1) := by
  have hperiods : t / period ≤ u / period := Nat.div_le_div_right h.le
  rcases hperiods.eq_or_lt with heq | hlt
  · have ht := Nat.div_add_mod t period
    have hu := Nat.div_add_mod u period
    rw [heq] at ht
    have hmore : u % period = t % period + 1 + (u - t - 1) := by omega
    rw [place, place, hmore, between_mod hsize]
    omega
  · have hround := between_le (t % period % size) (Nat.mod_lt (u % period) hsize)
    have honce : size - 1 ≤ (u / period - t / period) * (size - 1) :=
      Nat.le_mul_of_pos_left _ (by omega)
    rw [place, place]
    omega

theorem passed_places_le (period : Nat) (hsize : 0 < size) {turns : List Nat}
    (hsorted : turns.Pairwise (· < ·)) {first last : Nat} (hfirst : ∀ t ∈ turns, first ≤ t)
    (hlast : ∀ t ∈ turns, t ≤ last) :
    passed size (turns.map (place period size)) ≤
      passedBetween size turns + (last / period - first / period) * (size - 1) := by
  induction turns generalizing first with
  | nil => simp [passed]
  | cons t turns ih =>
    cases turns with
    | nil => simp [passed]
    | cons u rest =>
      obtain ⟨hlater, hsorted⟩ := List.pairwise_cons.1 hsorted
      have htu : t < u := hlater u List.mem_cons_self
      have hu : ∀ v ∈ u :: rest, u ≤ v := by
        intro v hv
        rcases List.mem_cons.1 hv with rfl | hv
        · exact le_rfl
        · exact (List.rel_of_pairwise_cons hsorted hv).le
      have hrest := ih hsorted hu fun v hv => hlast v (List.mem_cons_of_mem t hv)
      have hstep := between_place_le period hsize htu
      have hperiods : u / period - t / period + (last / period - u / period) ≤
          last / period - first / period := by
        have h₁ : first / period ≤ t / period :=
          Nat.div_le_div_right (hfirst t List.mem_cons_self)
        have h₂ : t / period ≤ u / period := Nat.div_le_div_right htu.le
        have h₃ : u / period ≤ last / period := Nat.div_le_div_right (hlast u (by simp))
        omega
      have hsum := Nat.mul_le_mul_right (size - 1) hperiods
      rw [Nat.add_mul] at hsum
      rw [List.map_cons, List.map_cons, passed, passedBetween, ← List.map_cons]
      omega

end Turns

end Rotation

/-! ## Selections one after the other -/

/-- The turns of the requests for a model, where the first request has the turn `first`. -/
def turnsFor (model : String) (first : Nat) (requests : List ChatRequest) : List Nat :=
  ((requests.zipIdx first).filter fun rt => rt.1.model = model).map (·.2)

theorem turnsFor_sublist (model : String) (first : Nat) (requests : List ChatRequest) :
    (turnsFor model first requests).Sublist (List.range' first requests.length) := by
  rw [← List.zipIdx_map_snd]
  exact List.filter_sublist.map _

theorem turnsFor_cons (model : String) (first : Nat) (r : ChatRequest) (rest : List ChatRequest) :
    turnsFor model first (r :: rest) =
      if r.model = model then first :: turnsFor model (first + 1) rest
      else turnsFor model (first + 1) rest := by
  unfold turnsFor
  split_ifs with h <;> simp [List.zipIdx_cons, h]

namespace Desk

/-- Balanced selections at a desk, one after the other. -/
def balance (d : Desk) (candidates : List Provider) : List ChatRequest → List Selection
  | [] => []
  | r :: rest =>
    (d.select .balanced r candidates).1 ::
      (d.select .balanced r candidates).2.balance candidates rest

/-- What those come to that are for one model. -/
def balanceFor (d : Desk) (candidates : List Provider) (model : String)
    (requests : List ChatRequest) : List Selection :=
  ((requests.zip (d.balance candidates requests)).filter fun rs => rs.1.model = model).map (·.2)

theorem balanceFor_cons (d : Desk) (candidates : List Provider) (model : String) (r : ChatRequest)
    (rest : List ChatRequest) :
    d.balanceFor candidates model (r :: rest) =
      if r.model = model then
        (d.select .balanced r candidates).1 ::
          (d.select .balanced r candidates).2.balanceFor candidates model rest
      else (d.select .balanced r candidates).2.balanceFor candidates model rest := by
  unfold balanceFor
  rw [balance]
  split_ifs with h <;> simp [h]

section Served

variable {candidates : List Provider} {model : String}
  (hserved : serving model candidates ≠ [])
include hserved

theorem pool_of_served : Rotation.pool model candidates = serving model candidates := by
  unfold Rotation.pool
  split
  · contradiction
  · rename_i p rest h
    exact h.symm

theorem ne_nil_of_served : candidates ≠ [] := by
  rintro rfl
  exact hserved rfl

/-- A balanced selection picks the place of its turn and uses the turn up. -/
theorem select_of_served {d : Desk} {turn : Nat} (hturn : d.rotation.turn.toNat = turn % 2 ^ 64)
    {r : ChatRequest} (hr : r.model = model)
    (hplace : Rotation.place (2 ^ 64) (serving model candidates).length turn <
      (serving model candidates).length) :
    (d.select .balanced r candidates).1 =
      .ok (.ok ((serving model candidates).get ⟨_, hplace⟩)) := by
  obtain ⟨p, hp, hselect⟩ := Strategy.select_balanced (o := ⟨.balanced, r, candidates⟩) rfl
    (ne_nil_of_served hserved) d.signals d.rotation
  have hpool : Order.pool ⟨.balanced, r, candidates⟩ = serving model candidates := by
    rw [Order.pool, hr, pool_of_served hserved]
  rw [hpool, hturn] at hp
  obtain ⟨hlt, hget⟩ := List.getElem?_eq_some_iff.1 hp
  rw [select, hselect, ← hget]
  rfl

theorem turn_select {d : Desk} {turn : Nat} (hturn : d.rotation.turn.toNat = turn % 2 ^ 64)
    (r : ChatRequest) :
    (d.select .balanced r candidates).2.rotation.turn.toNat = (turn + 1) % 2 ^ 64 := by
  have htakes : Strategy.balanced.takesTurn candidates = true :=
    (Strategy.takesTurn_iff _ _).2 ⟨rfl, ne_nil_of_served hserved⟩
  rw [select, Strategy.advance, if_pos htakes, Rotation.advance, UInt64.toNat_add, hturn]
  exact Nat.mod_add_mod turn (2 ^ 64) 1

/-- The selections for a model are the places of their turns. -/
theorem balanceFor_eq {d : Desk} {first : Nat} (hfirst : d.rotation.turn.toNat = first % 2 ^ 64)
    (requests : List ChatRequest) :
    d.balanceFor candidates model requests =
      (turnsFor model first requests).map fun t =>
        .ok (.ok ((serving model candidates).get
          ⟨Rotation.place (2 ^ 64) _ t, Nat.mod_lt _ (List.length_pos_iff.2 hserved)⟩)) := by
  induction requests generalizing d first with
  | nil => rfl
  | cons r rest ih =>
    have hrest := ih (turn_select hserved hfirst r)
    rw [balanceFor_cons, turnsFor_cons, hrest]
    split_ifs with hr
    · rw [List.map_cons, select_of_served hserved hfirst hr
        (Nat.mod_lt _ (List.length_pos_iff.2 hserved))]
    · rfl

/-- **Shares of one model.** However the requests for other models come between, a turn leads to the
place that is its number modulo the size of the pool. Of those who serve a model nobody is picked
for it more often than another one, but for one pick, the places passed over between its turns, and
at most a round whenever the counter starts again. -/
theorem shares (d : Desk) (requests : List ChatRequest) :
    ∃ places : List (Fin (serving model candidates).length),
      d.balanceFor candidates model requests =
        places.map (fun i => .ok (.ok ((serving model candidates).get i))) ∧
      places.map Fin.val = (turnsFor model d.rotation.turn.toNat requests).map
        (fun t => t % 2 ^ 64 % (serving model candidates).length) ∧
      ∀ i j, places.count i ≤ places.count j + 1 +
        Rotation.passedBetween (serving model candidates).length
          (turnsFor model d.rotation.turn.toNat requests) +
        (d.rotation.turn.toNat + requests.length - 1) / 2 ^ 64 *
          ((serving model candidates).length - 1) := by
  have hsize : 0 < (serving model candidates).length := List.length_pos_iff.2 hserved
  have hstart : d.rotation.turn.toNat = d.rotation.turn.toNat % 2 ^ 64 :=
    (Nat.mod_eq_of_lt d.rotation.turn.toNat_lt).symm
  have hturns := turnsFor_sublist model d.rotation.turn.toNat requests
  have hvals : ((turnsFor model d.rotation.turn.toNat requests).map fun t =>
      (⟨Rotation.place (2 ^ 64) _ t, Nat.mod_lt _ hsize⟩ :
        Fin (serving model candidates).length)).map Fin.val =
      (turnsFor model d.rotation.turn.toNat requests).map
        (Rotation.place (2 ^ 64) (serving model candidates).length) := by
    rw [List.map_map]
    rfl
  refine ⟨_, ?_, hvals, fun i j => ?_⟩
  · rw [balanceFor_eq hserved hstart, List.map_map]
    rfl
  · have hplaces : ∀ p ∈ (turnsFor model d.rotation.turn.toNat requests).map
        (Rotation.place (2 ^ 64) (serving model candidates).length),
        p < (serving model candidates).length := by
      intro p hp
      obtain ⟨t, -, rfl⟩ := List.mem_map.1 hp
      exact Nat.mod_lt _ hsize
    have hlast : ∀ t ∈ turnsFor model d.rotation.turn.toNat requests,
        t ≤ d.rotation.turn.toNat + requests.length - 1 := by
      intro t ht
      have := (List.mem_range'_1.1 (hturns.subset ht)).2
      omega
    have hcount := Rotation.count_le_passed hplaces i.isLt j.isLt
    have hpassed := Rotation.passed_places_le (2 ^ 64) hsize
      (List.Pairwise.sublist hturns List.pairwise_lt_range')
      (fun t ht => (List.mem_range'_1.1 (hturns.subset ht)).1) hlast
    rw [Nat.div_eq_of_lt d.rotation.turn.toNat_lt, Nat.sub_zero] at hpassed
    rw [← hvals, List.count_map_of_injective _ _ Fin.val_injective,
      List.count_map_of_injective _ _ Fin.val_injective, hvals] at hcount
    omega

end Served

end Desk

/-! ## A request for another model in between -/

/-- Two providers that serve one model, and one that serves another. -/
def twoAndOne : List Provider :=
  [⟨{ name := "first", models := ["often"] }, .server 0⟩,
    ⟨{ name := "second", models := ["often"] }, .server 1⟩,
    ⟨{ name := "third", models := ["rare"] }, .server 2⟩]

/-- Requests for the one model, with one for the other in between. -/
def interleaved : List ChatRequest :=
  ["often", "rare", "often"].map fun model => { model, messages := [] }

/-- Both turns of the model lead to the first provider; one place is passed over between them. -/
theorem interleaved_passes_over :
    serving "often" twoAndOne ≠ [] ∧ Rotation.passedBetween 2 (turnsFor "often" 0 interleaved) = 1 ∧
      ∃ places : List (Fin 2), places.map Fin.val = [0, 0] ∧
        freshDesk.balanceFor twoAndOne "often" interleaved =
          places.map (fun i => .ok (.ok ((serving "often" twoAndOne).get i))) ∧
        ∀ i j, places.count i ≤ places.count j + 1 + 1 + 0 := by
  have hserved : serving "often" twoAndOne ≠ [] := by decide
  obtain ⟨places, heq, hvals, hcount⟩ := Desk.shares hserved freshDesk interleaved
  exact ⟨hserved, rfl, places, hvals, heq, hcount⟩

/-- **Shares of one model are uneven** where requests for another one come in between: of two
providers that serve it one may be picked twice and the other never. -/
theorem interleaved_shares_are_uneven :
    ¬∀ (d : Desk) (candidates : List Provider) (requests : List ChatRequest) (model : String)
      (p q : Provider), d.rotation.turn = 0 → candidates.Nodup →
      p ∈ serving model candidates → q ∈ serving model candidates →
      (d.balanceFor candidates model requests).count (.ok (.ok p)) ≤
        (d.balanceFor candidates model requests).count (.ok (.ok q)) + 1 := by
  intro h
  have heven := h freshDesk twoAndOne interleaved "often"
    ⟨{ name := "first", models := ["often"] }, .server 0⟩
    ⟨{ name := "second", models := ["often"] }, .server 1⟩ rfl (by decide) (by decide) (by decide)
  revert heven
  decide

end ChatGateway
