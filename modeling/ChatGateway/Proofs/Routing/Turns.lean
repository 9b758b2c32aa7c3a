import Mathlib.Data.Int.CardIntervalMod
import Mathlib.Data.List.Induction
import ChatGateway.Routing.Desk

/-!
# Taking turns

Selections at one desk go on side by side. Each of them first draws, in one piece: it finds the
rotation of the desk and uses up a turn if its strategy takes one. It picks later, when others may
have drawn already. However they are interleaved, no turn is lost or used up twice, every turn
leads to the pick that it stands for among those who take turns (`Rotation.PoolOf`), and consecutive
turns over the same candidates are shared out as evenly as can be (`Crowd.run_takesTurns`).
-/

namespace ChatGateway

/-! ## Selections side by side -/

/-- A selection that is to be made. -/
structure Order where
  strategy : Strategy
  request : ChatRequest
  candidates : List Provider

namespace Order

/-- The providers that take turns for it. -/
def pool (o : Order) : List Provider := Rotation.pool o.request.model o.candidates

end Order

/-- How far a selection has come, and the rotation that it found. -/
inductive Errand.Stage where
  | ahead
  | drawn (rotation : Rotation)
  | made (rotation : Rotation) (selection : Selection)

/-- A selection on its way. -/
structure Errand where
  order : Order
  stage : Errand.Stage := .ahead

namespace Errand

/-- The rotation that it found. -/
def found? (e : Errand) : Option Rotation :=
  match e.stage with
  | .ahead => none
  | .drawn rotation => some rotation
  | .made rotation _ => some rotation

/-- The turn that it used up. -/
def turn? (e : Errand) : Option Nat :=
  if e.order.strategy.takesTurn e.order.candidates then e.found?.map (·.turn.toNat) else none

/-- What it came to. -/
def selection? (e : Errand) : Option Selection :=
  match e.stage with
  | .made _ selection => some selection
  | _ => none

end Errand

/-- A desk with the selections that are made at it. -/
structure Crowd where
  desk : Desk
  errands : List Errand

/-- Something that happens at a desk. -/
inductive CrowdAct where
  /-- The selection with a number goes on. -/
  | work (i : Nat)
  /-- The signals change. -/
  | observe (signals : Signals)

namespace Crowd

/-- The selections that are to be made. -/
def ofOrders (d : Desk) (orders : List Order) : Crowd := ⟨d, orders.map fun o => { order := o }⟩

/-- A selection goes on: it draws, or it picks with the rotation that it found. -/
def work (c : Crowd) (i : Nat) : Crowd :=
  match c.errands[i]? with
  | some ⟨o, .ahead⟩ =>
    { desk := (c.desk.select o.strategy o.request o.candidates).2
      errands := c.errands.set i ⟨o, .drawn c.desk.rotation⟩ }
  | some ⟨o, .drawn rotation⟩ =>
    let picked := { c.desk with rotation }.select o.strategy o.request o.candidates
    { c with errands := c.errands.set i ⟨o, .made rotation picked.1⟩ }
  | _ => c

def step (c : Crowd) : CrowdAct → Crowd
  | .work i => c.work i
  | .observe signals => { c with desk := { c.desk with signals } }

def run (c : Crowd) (acts : List CrowdAct) : Crowd := acts.foldl step c

/-- The turns that have been used up. -/
def turns (c : Crowd) : List Nat := c.errands.filterMap Errand.turn?

/-- The errands that used up one of `count` turns from `first` on. -/
def window (c : Crowd) (first count : Nat) : List Errand :=
  c.errands.filter fun e => e.turn?.any fun t => first ≤ t && t < first + count

end Crowd

/-- A selection that draws and picks without a break is one of the desk. -/
theorem Crowd.work_work {c : Crowd} {i : Nat} {o : Order}
    (h : c.errands[i]? = some ⟨o, .ahead⟩) :
    (c.work i).work i =
      ⟨(c.desk.select o.strategy o.request o.candidates).2, c.errands.set i ⟨o,
        .made c.desk.rotation (c.desk.select o.strategy o.request o.candidates).1⟩⟩ := by
  have hdraw : c.work i = ⟨(c.desk.select o.strategy o.request o.candidates).2,
      c.errands.set i ⟨o, .drawn c.desk.rotation⟩⟩ := by
    rw [work, h]
  have hdrawn : (c.errands.set i ⟨o, .drawn c.desk.rotation⟩)[i]? =
      some ⟨o, .drawn c.desk.rotation⟩ :=
    List.getElem?_set_self (List.getElem?_eq_some_iff.1 h).1
  rw [hdraw, work, hdrawn]
  simp [Desk.select]

/-! ## Counting turns -/

/-- Among consecutive numbers each remainder comes up as often as any other, or once more. -/
theorem count_mod_window {k i : Nat} (hi : i < k) (first count : Nat) :
    Nat.count (fun t => (first + t) % k = i) count = count / k ∨
      Nat.count (fun t => (first + t) % k = i) count = (count + (k - 1)) / k := by
  have hk : 0 < k := Nat.zero_lt_of_lt hi
  have upto (n : Nat) : Nat.count (fun t => t % k = i) n = n / k + if i < n % k then 1 else 0 := by
    have h := Nat.count_modEq_card (b := n) hk i
    simpa [Nat.ModEq, Nat.mod_eq_of_lt hi] using h
  have hadd := Nat.count_add (fun t => t % k = i) first count
  have hceil : (count + (k - 1)) / k = count / k + if 0 < count % k then 1 else 0 := by
    rw [Nat.add_div hk, Nat.div_eq_of_lt (Nat.sub_lt hk Nat.one_pos),
      Nat.mod_eq_of_lt (Nat.sub_lt hk Nat.one_pos)]
    split_ifs <;> omega
  rw [upto, upto, Nat.add_div hk] at hadd
  rw [hceil]
  have hfirst := Nat.mod_lt first hk
  have hcount := Nat.mod_lt count hk
  rcases Nat.lt_or_ge (first % k + count % k) k with hlt | hge
  · rw [if_neg (by omega), Nat.add_mod_of_add_mod_lt hlt] at hadd
    split_ifs at hadd ⊢ <;> omega
  · have hmod := Nat.add_mod_add_of_le_add_mod hge
    rw [if_pos hge] at hadd
    split_ifs at hadd ⊢ <;> omega

/-! ## Who takes turns -/

/-- `PoolOf model candidates pool`: these are the candidates that take turns for a model. -/
inductive Rotation.PoolOf (model : String) (candidates : List Provider) : List Provider → Prop where
  /-- Those that list it, in their order. -/
  | listed {p : Provider} (mem : p ∈ candidates) (lists : model ∈ p.models) :
    PoolOf model candidates (candidates.filter fun q => decide (model ∈ q.models))
  /-- All of them, if none lists it. -/
  | everybody (nobody : ∀ p ∈ candidates, model ∉ p.models) : PoolOf model candidates candidates

theorem serving_eq_filter (model : String) (candidates : List Provider) :
    serving model candidates = candidates.filter fun q => decide (model ∈ q.models) :=
  List.filter_congr fun q _ => List.contains_eq_mem model q.models

/-- **The pool of the rotation** is the one that takes turns, and there is no other. -/
theorem Rotation.poolOf_iff {model : String} {candidates taking : List Provider} :
    PoolOf model candidates taking ↔ taking = pool model candidates := by
  have hserving := serving_eq_filter model candidates
  constructor
  · rintro (@⟨p, hp, hlists⟩ | hnobody)
    · have hmem : p ∈ serving model candidates := by simpa [hserving] using ⟨hp, hlists⟩
      unfold pool
      split
      · rename_i h
        simp [h] at hmem
      · rename_i h
        rw [← h, hserving]
    · have hnone : serving model candidates = [] := by
        simpa [hserving, List.filter_eq_nil_iff] using hnobody
      rw [pool, hnone]
  · rintro rfl
    unfold pool
    split
    · rename_i h
      exact .everybody (by simpa [hserving, List.filter_eq_nil_iff] using h)
    · rename_i p rest h
      obtain ⟨hp, hlists⟩ : p ∈ candidates ∧ model ∈ p.models := by
        have hmem : p ∈ serving model candidates := by simp [h]
        simpa [hserving] using hmem
      rw [← h, hserving]
      exact .listed hp hlists

/-! ## The pick of a turn -/

theorem Rotation.pool_ne_nil {candidates : List Provider} (model : String) (h : candidates ≠ []) :
    pool model candidates ≠ [] := by
  unfold pool
  split
  · exact h
  · simp

/-- Every turn of the balanced strategy has its pick. -/
theorem Strategy.select_balanced {o : Order} (hb : o.strategy = .balanced) (hc : o.candidates ≠ [])
    (signals : Signals) (rotation : Rotation) :
    ∃ p, o.pool[rotation.turn.toNat % o.pool.length]? = some p ∧
      o.strategy.select signals rotation o.request o.candidates = .ok (.ok p) := by
  have hpool : 0 < o.pool.length := List.length_pos_iff.2 (Rotation.pool_ne_nil _ hc)
  obtain ⟨first, rest, hcons⟩ := List.exists_cons_of_ne_nil hc
  have hget := List.getElem?_eq_getElem (Nat.mod_lt rotation.turn.toNat hpool)
  refine ⟨_, hget, ?_⟩
  have hpick : rotation.pick? o.request.model (first :: rest) =
      o.pool[rotation.turn.toNat % o.pool.length]? := by
    rw [← hcons]
    rfl
  rw [hb, hcons]
  change Except.ok (Except.ok ((rotation.pick? o.request.model (first :: rest)).getD first)) = _
  rw [hpick, hget]
  rfl

theorem Strategy.takesTurn_iff (s : Strategy) (candidates : List Provider) :
    s.takesTurn candidates = true ↔ s = .balanced ∧ candidates ≠ [] := by
  cases s <;> cases candidates <;> simp [takesTurn]

/-! ## One act -/

/-- What an errand came to is a pick of its strategy with the rotation that it found. -/
def Errand.Sound (e : Errand) : Prop :=
  ∀ rotation selection, e.stage = .made rotation selection →
    ∃ signals, selection =
      e.order.strategy.select signals rotation e.order.request e.order.candidates

namespace Crowd

/-- The errands carry out the orders, and have used up all turns up to that of the desk. -/
structure InTurn (c : Crowd) (orders : List Order) : Prop where
  orders_eq : c.errands.map (·.order) = orders
  turns_perm : c.turns.Perm (List.range c.desk.rotation.turn.toNat)
  sound : ∀ e ∈ c.errands, e.Sound

theorem set_of_getElem? {α : Type} {l : List α} {i : Nat} {a : α} (h : l[i]? = some a) :
    ∃ l₁ l₂, l = l₁ ++ a :: l₂ ∧ ∀ b, l.set i b = l₁ ++ b :: l₂ := by
  obtain ⟨hi, rfl⟩ := List.getElem?_eq_some_iff.1 h
  refine ⟨l.take i, l.drop (i + 1), ?_, fun b => ?_⟩
  · rw [← List.drop_eq_getElem_cons hi, List.take_append_drop]
  · rw [List.set_eq_take_append_cons_drop, if_pos hi]

theorem turns_middle (l₁ l₂ : List Errand) (e : Errand) :
    ((l₁ ++ e :: l₂).filterMap Errand.turn?).Perm
      (e.turn?.toList ++ (l₁ ++ l₂).filterMap Errand.turn?) := by
  refine (List.perm_middle.filterMap _).trans ?_
  rw [List.filterMap_cons]
  cases e.turn? <;> rfl

section Work

variable {c : Crowd} {orders : List Order} {l₁ l₂ : List Errand} {o : Order}

/-- An errand that draws uses up the turn of the desk, if any. -/
theorem InTurn.draw (h : c.InTurn orders) (hcount : orders.length < 2 ^ 64)
    (hl : c.errands = l₁ ++ ⟨o, .ahead⟩ :: l₂) :
    InTurn ⟨(c.desk.select o.strategy o.request o.candidates).2,
      l₁ ++ ⟨o, .drawn c.desk.rotation⟩ :: l₂⟩ orders where
  orders_eq := by
    rw [← h.orders_eq, hl]
    simp
  turns_perm := by
    have hbefore : ((l₁ ++ l₂).filterMap Errand.turn?).Perm
        (List.range c.desk.rotation.turn.toNat) := by
      have hturns := h.turns_perm
      rw [turns, hl] at hturns
      have hmiddle := turns_middle l₁ l₂ ⟨o, .ahead⟩
      have hnone : (Errand.turn? ⟨o, .ahead⟩) = none := by
        unfold Errand.turn?
        split <;> rfl
      rw [hnone] at hmiddle
      exact hmiddle.symm.trans hturns
    refine (turns_middle l₁ l₂ _).trans ?_
    cases ht : o.strategy.takesTurn o.candidates with
    | false =>
      have hsame : (c.desk.select o.strategy o.request o.candidates).2.rotation =
          c.desk.rotation := by simp [Desk.select, Strategy.advance, ht]
      have hnone : Errand.turn? ⟨o, .drawn c.desk.rotation⟩ = none := by simp [Errand.turn?, ht]
      rw [hsame, hnone]
      exact hbefore
    | true =>
      have hnext : (c.desk.select o.strategy o.request o.candidates).2.rotation =
          c.desk.rotation.advance := by simp [Desk.select, Strategy.advance, ht]
      have hturn : Errand.turn? ⟨o, .drawn c.desk.rotation⟩ = some c.desk.rotation.turn.toNat := by
        simp [Errand.turn?, ht, Errand.found?]
      -- there are not so many errands that the counter starts again
      have hfew : c.desk.rotation.turn.toNat + 1 < 2 ^ 64 := by
        have hused : c.desk.rotation.turn.toNat ≤ (l₁ ++ l₂).length := by
          rw [← List.length_range (n := c.desk.rotation.turn.toNat), ← hbefore.length_eq]
          exact List.length_filterMap_le _ _
        have hall : orders.length = l₁.length + (l₂.length + 1) := by
          rw [← h.orders_eq, hl]
          simp
        rw [List.length_append] at hused
        omega
      have hadvance : c.desk.rotation.advance.turn.toNat = c.desk.rotation.turn.toNat + 1 := by
        rw [Rotation.advance, UInt64.toNat_add]
        exact Nat.mod_eq_of_lt hfew
      rw [hnext, hadvance, hturn, List.range_succ]
      exact (hbefore.cons _).trans (List.perm_append_singleton _ _).symm
  sound e he := by
    rcases List.mem_append.1 he with he | he
    · exact h.sound e (by simp [hl, he])
    · rcases List.mem_cons.1 he with rfl | he
      · rintro _ _ ⟨⟩
      · exact h.sound e (by simp [hl, he])

/-- An errand that picks has drawn before. -/
theorem InTurn.pick (h : c.InTurn orders) {rotation : Rotation}
    (hl : c.errands = l₁ ++ ⟨o, .drawn rotation⟩ :: l₂) :
    InTurn ⟨c.desk, l₁ ++ ⟨o, .made rotation
      ({ c.desk with rotation }.select o.strategy o.request o.candidates).1⟩ :: l₂⟩ orders where
  orders_eq := by
    rw [← h.orders_eq, hl]
    simp
  turns_perm := by
    have hturns := h.turns_perm
    rw [turns, hl] at hturns
    refine (turns_middle l₁ l₂ _).trans ?_
    exact (turns_middle l₁ l₂ ⟨o, .drawn rotation⟩).symm.trans hturns
  sound e he := by
    rcases List.mem_append.1 he with he | he
    · exact h.sound e (by simp [hl, he])
    · rcases List.mem_cons.1 he with rfl | he
      · intro r selection hmade
        cases hmade
        exact ⟨c.desk.signals, rfl⟩
      · exact h.sound e (by simp [hl, he])

theorem InTurn.step (h : c.InTurn orders) (hcount : orders.length < 2 ^ 64) (a : CrowdAct) :
    (c.step a).InTurn orders := by
  cases a with
  | observe signals => exact ⟨h.orders_eq, h.turns_perm, h.sound⟩
  | work i =>
    change (c.work i).InTurn orders
    unfold work
    split
    · rename_i o hi
      obtain ⟨l₁, l₂, hl, hset⟩ := set_of_getElem? hi
      rw [hset]
      exact h.draw hcount hl
    · rename_i o rotation hi
      obtain ⟨l₁, l₂, hl, hset⟩ := set_of_getElem? hi
      dsimp only
      rw [hset]
      exact h.pick hl
    · exact h

end Work

theorem InTurn.run {c : Crowd} {orders : List Order} (h : c.InTurn orders)
    (hcount : orders.length < 2 ^ 64) (acts : List CrowdAct) : (c.run acts).InTurn orders := by
  induction acts generalizing c with
  | nil => exact h
  | cons a acts ih => exact ih (h.step hcount a)

theorem inTurn_ofOrders {d : Desk} (hfresh : d.rotation.turn = 0) (orders : List Order) :
    (ofOrders d orders).InTurn orders where
  orders_eq := by simp [ofOrders, Function.comp_def]
  turns_perm := by
    have hnone : (ofOrders d orders).turns = [] := by
      refine List.filterMap_eq_nil_iff.2 fun e he => ?_
      obtain ⟨o, -, rfl⟩ := List.mem_map.1 he
      unfold Errand.turn?
      split <;> rfl
    rw [hnone]
    change List.Perm [] (List.range d.rotation.turn.toNat)
    rw [hfresh]
    rfl
  sound e he := by
    obtain ⟨o, -, rfl⟩ := List.mem_map.1 he
    rintro _ _ ⟨⟩

/-! ## A share of the turns -/

/-- The turns of the errands in a window, as they stand among all. -/
theorem map_window (c : Crowd) (first count : Nat) :
    (c.window first count).map (fun e => e.turn?.getD 0) =
      c.turns.filter fun t => first ≤ t && t < first + count := by
  unfold window turns
  induction c.errands with
  | nil => rfl
  | cons e errands ih =>
    cases ht : e.turn? with
    | none => simpa [ht] using ih
    | some t =>
      cases hin : (decide (first ≤ t) && decide (t < first + count)) <;> simp [ht, hin, ih]

/-- The errands in a window have all the turns of the window. -/
theorem InTurn.window_perm {c : Crowd} {orders : List Order} (h : c.InTurn orders)
    {first count : Nat} (hle : first + count ≤ c.desk.rotation.turn.toNat) :
    ((c.window first count).map fun e => e.turn?.getD 0).Perm
      ((List.range count).map fun t => first + t) := by
  rw [map_window]
  refine (h.turns_perm.filter _).trans ?_
  refine (List.perm_ext_iff_of_nodup (List.nodup_range.filter _)
    (List.nodup_range.map fun _ _ => Nat.add_left_cancel)).2 fun t => ?_
  simp only [List.mem_filter, List.mem_range, List.mem_map, Bool.and_eq_true, decide_eq_true_eq]
  constructor
  · exact fun ⟨_, hfirst, hlast⟩ => ⟨t - first, by omega, by omega⟩
  · rintro ⟨u, hu, rfl⟩
    omega

/-- Turns are taken as they ought to be. -/
structure TakesTurns (c : Crowd) : Prop where
  /-- No turn is lost, and none is used up twice. -/
  turns_perm : c.turns.Perm (List.range c.desk.rotation.turn.toNat)
  /-- Every balanced selection that has somebody to pick uses up a turn, and no other does. -/
  uses_turn : ∀ e ∈ c.errands, e.stage ≠ .ahead →
    (e.turn? ≠ none ↔ e.order.strategy = .balanced ∧ e.order.candidates ≠ [])
  /-- A turn stands for its place in the pool. -/
  picks : ∀ e ∈ c.errands, ∀ t selection, e.turn? = some t → e.selection? = some selection →
    ∃ pool, Rotation.PoolOf e.order.request.model e.order.candidates pool ∧
      ∃ p, pool[t % pool.length]? = some p ∧ selection = .ok (.ok p)
  /-- Where there is nobody to pick, nobody is picked. -/
  fails : ∀ e ∈ c.errands, e.order.candidates = [] → ∀ selection,
    e.selection? = some selection → selection = .ok (.error .noProviders)
  /-- Consecutive turns over the same candidates are shared out evenly. -/
  fair : ∀ (first count : Nat) (model : String) (candidates : List Provider), candidates ≠ [] →
    first + count ≤ c.desk.rotation.turn.toNat →
    (∀ e ∈ c.window first count, e.order.request.model = model ∧
      e.order.candidates = candidates ∧ e.selection? ≠ none) →
    ∃ pool, Rotation.PoolOf model candidates pool ∧
      ∃ places : List (Fin pool.length), places.length = count ∧
        (c.window first count).map Errand.selection? =
          places.map (fun i => some (.ok (.ok (pool.get i)))) ∧
        ∀ i, places.count i = count / pool.length ∨
          places.count i = (count + (pool.length - 1)) / pool.length

section Result

variable {c : Crowd} {orders : List Order}

theorem InTurn.picks (h : c.InTurn orders) {e : Errand} (he : e ∈ c.errands) {t : Nat}
    {selection : Selection} (ht : e.turn? = some t) (hs : e.selection? = some selection) :
    ∃ p, e.order.pool[t % e.order.pool.length]? = some p ∧ selection = .ok (.ok p) := by
  have hsound := h.sound e he
  unfold Errand.turn? at ht
  split at ht
  · rename_i htakes
    obtain ⟨hb, hc⟩ := (Strategy.takesTurn_iff _ _).1 htakes
    obtain ⟨o, stage⟩ := e
    cases stage with
    | made rotation result =>
      obtain rfl : rotation.turn.toNat = t := by simpa [Errand.found?] using ht
      obtain rfl : result = selection := by simpa [Errand.selection?] using hs
      obtain ⟨signals, hselect⟩ := hsound rotation result rfl
      obtain ⟨p, hp, hpick⟩ := Strategy.select_balanced hb hc signals rotation
      exact ⟨p, hp, hselect.trans hpick⟩
    | _ => cases hs
  · cases ht

theorem InTurn.fair (h : c.InTurn orders) {first count : Nat} {model : String}
    {candidates : List Provider} (hne : candidates ≠ [])
    (hle : first + count ≤ c.desk.rotation.turn.toNat)
    (hwindow : ∀ e ∈ c.window first count, e.order.request.model = model ∧
      e.order.candidates = candidates ∧ e.selection? ≠ none) :
    ∃ pool, Rotation.PoolOf model candidates pool ∧
      ∃ places : List (Fin pool.length), places.length = count ∧
        (c.window first count).map Errand.selection? =
          places.map (fun i => some (.ok (.ok (pool.get i)))) ∧
        ∀ i, places.count i = count / pool.length ∨
          places.count i = (count + (pool.length - 1)) / pool.length := by
  have hpool : 0 < (Rotation.pool model candidates).length :=
    List.length_pos_iff.2 (Rotation.pool_ne_nil model hne)
  have hperm := h.window_perm hle
  let place (e : Errand) : Fin (Rotation.pool model candidates).length :=
    ⟨e.turn?.getD 0 % (Rotation.pool model candidates).length, Nat.mod_lt _ hpool⟩
  refine ⟨_, Rotation.poolOf_iff.2 rfl, (c.window first count).map place, ?_, ?_, fun i => ?_⟩
  · simpa using hperm.length_eq
  · rw [List.map_map]
    refine List.map_congr_left fun e he => ?_
    obtain ⟨hmodel, hcandidates, hmade⟩ := hwindow e he
    obtain ⟨hmem, hin⟩ := List.mem_filter.1 he
    obtain ⟨selection, hs⟩ := Option.ne_none_iff_exists'.1 hmade
    obtain ⟨t, ht, -⟩ := (Option.any_eq_true _ _).1 hin
    obtain ⟨p, hp, rfl⟩ := h.picks hmem ht hs
    rw [Order.pool, hmodel, hcandidates] at hp
    obtain ⟨hlt, hget⟩ := List.getElem?_eq_some_iff.1 hp
    simp [hs, place, ht, hget]
  · have hcount : ((c.window first count).map place).count i =
        Nat.count (fun t => (first + t) % (Rotation.pool model candidates).length = i) count := by
      have hturns := hperm.countP_eq fun t =>
        decide (t % (Rotation.pool model candidates).length = i)
      rw [List.countP_map, List.countP_map] at hturns
      rw [List.count_eq_countP, List.countP_map]
      refine Eq.trans (List.countP_congr fun e _ => ?_) hturns
      simp [place, Fin.ext_iff]
    rw [hcount]
    exact count_mod_window i.isLt first count

end Result

/-- **Taking turns.** However fewer selections than there are turns are interleaved, from a desk
where no turn has been used up, and whatever becomes of the signals meanwhile. -/
theorem run_takesTurns (d : Desk) (hfresh : d.rotation.turn = 0) (orders : List Order)
    (hcount : orders.length < 2 ^ 64) (acts : List CrowdAct) :
    ((ofOrders d orders).run acts).errands.map (·.order) = orders ∧
      ((ofOrders d orders).run acts).TakesTurns := by
  have h := (inTurn_ofOrders hfresh orders).run hcount acts
  refine ⟨h.orders_eq, h.turns_perm, fun e he hbegun => ?_,
    fun e he t selection ht hs => ⟨_, Rotation.poolOf_iff.2 rfl, h.picks he ht hs⟩,
    fun e he hnobody selection hs => ?_, fun first count model candidates => h.fair⟩
  · rw [← Strategy.takesTurn_iff, Errand.turn?]
    obtain ⟨o, stage⟩ := e
    cases stage with
    | ahead => exact absurd rfl hbegun
    | _ => simp [Errand.found?]
  · obtain ⟨o, stage⟩ := e
    cases stage with
    | made rotation result =>
      obtain rfl : result = selection := by simpa [Errand.selection?] using hs
      obtain ⟨signals, hselect⟩ := h.sound _ he rotation result rfl
      dsimp only at hnobody
      rw [hselect, hnobody]
      rfl
    | _ => cases hs

end Crowd

/-! ## Two selections of which the second draws first -/

/-- A desk where no turn has been used up. -/
def freshDesk : Desk := { signals := ⟨[], .ofCapacity 1⟩ }

/-- Two balanced selections, and one by the model between them. -/
def mixedOrders : List Order :=
  [.balanced, .byModel, .balanced].map fun strategy =>
    { strategy, request := { model := "model", messages := [] }
      candidates := [⟨{ name := "first", models := [] }, .server 0⟩,
        ⟨{ name := "second", models := [] }, .server 1⟩] }

/-- The third errand draws before the first. -/
theorem mixed_takesTurns :
    freshDesk.rotation.turn = 0 ∧ mixedOrders.length < 2 ^ 64 ∧
      ((Crowd.ofOrders freshDesk mixedOrders).run
        ([2, 1, 0, 0, 2, 1].map .work)).turns = [1, 0] ∧
      ((Crowd.ofOrders freshDesk mixedOrders).run ([2, 1, 0, 0, 2, 1].map .work)).TakesTurns := by
  have hfew : mixedOrders.length < 2 ^ 64 := by decide
  exact ⟨rfl, hfew, rfl, (Crowd.run_takesTurns freshDesk rfl mixedOrders hfew _).2⟩

end ChatGateway
