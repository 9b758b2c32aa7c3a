import Mathlib
import ChatGateway.Proofs.Routing.Fastest
import ChatGateway.Proofs.Routing.Foremost

/-!
# Rules by priority

Rules are looked at from the highest priority to the lowest, and rules of one priority as they were
given: `RuleOrder.sorted` is the one list that orders them so (`RuleOrder.orders_sorted`,
`RuleOrder.Orders.eq_sorted`). Of the rules that match and name a candidate the foremost by priority
decides, and without one the pick is by model (`Strategy.select_by_priority`). How rules of
different priorities are mixed when they are given makes no difference.

A rule whose condition cannot be decided stops the selection as soon as it is looked at, also when a
rule of lower priority would decide it (`undecided_rule_stops_selection`).
-/

namespace ChatGateway

namespace RuleOrder

/-- The rules of one priority, as they stand. -/
def ofPriority (k : Int32) (rules : List RoutingRule) : List RoutingRule :=
  rules.filter fun r => r.priority = k

/-- Two lists with the same rules of every priority, in the same order. -/
def SameByPriority (rules rules' : List RoutingRule) : Prop :=
  ∀ k, ofPriority k rules = ofPriority k rules'

/-- `ordered` has the same rules, higher priorities first and rules of one priority as they stand in
`rules`. -/
structure Orders (rules ordered : List RoutingRule) : Prop where
  perm : ordered.Perm rules
  descending : ordered.Pairwise fun a b => b.priority ≤ a.priority
  stable : SameByPriority ordered rules

variable {rules rules' : List RoutingRule} {a r : RoutingRule}

theorem mem_ofPriority {k : Int32} : r ∈ ofPriority k rules ↔ r ∈ rules ∧ r.priority = k := by
  simp [ofPriority]

theorem SameByPriority.symm (h : SameByPriority rules rules') : SameByPriority rules' rules :=
  fun k => (h k).symm

theorem SameByPriority.mem_iff (h : SameByPriority rules rules') : r ∈ rules ↔ r ∈ rules' := by
  have hmem : r ∈ ofPriority r.priority rules ↔ r ∈ ofPriority r.priority rules' := by
    rw [h r.priority]
  simpa [mem_ofPriority] using hmem

/-! ## The order in which rules are looked at -/

theorem comesFirst_trans (a b c : RoutingRule) (hab : decide (b.priority.toInt ≤ a.priority.toInt))
    (hbc : decide (c.priority.toInt ≤ b.priority.toInt)) :
    decide (c.priority.toInt ≤ a.priority.toInt) := by
  rw [decide_eq_true_iff] at hab hbc ⊢
  exact Int.le_trans hbc hab

theorem comesFirst_total (a b : RoutingRule) :
    decide (b.priority.toInt ≤ a.priority.toInt) ||
      decide (a.priority.toInt ≤ b.priority.toInt) := by
  rw [Bool.or_eq_true, decide_eq_true_iff, decide_eq_true_iff]
  exact Int.le_total b.priority.toInt a.priority.toInt

theorem sorted_descending (rules : List RoutingRule) :
    (sorted rules).Pairwise fun a b => b.priority ≤ a.priority := by
  refine (List.pairwise_mergeSort comesFirst_trans comesFirst_total rules).imp fun hab => ?_
  exact Int32.le_iff_toInt_le.2 (of_decide_eq_true hab)

/-- Sorting leaves the rules of one priority as they stand. -/
theorem sorted_stable (rules : List RoutingRule) : SameByPriority (sorted rules) rules := by
  intro k
  have hlevel : (ofPriority k rules).Pairwise fun a b =>
      decide (b.priority.toInt ≤ a.priority.toInt) = true := by
    refine List.pairwise_of_forall_mem_list fun a ha b hb => ?_
    rw [(mem_ofPriority.1 ha).2, (mem_ofPriority.1 hb).2]
    exact decide_eq_true (Int.le_refl _)
  have hsublist := (List.sublist_mergeSort comesFirst_trans comesFirst_total hlevel
    List.filter_sublist).filter fun r => r.priority = k
  have hkept : (ofPriority k rules).filter (fun r => r.priority = k) = ofPriority k rules :=
    List.filter_eq_self.2 fun r hr => decide_eq_true (mem_ofPriority.1 hr).2
  have hperm := List.mergeSort_perm rules
    fun a b => decide (b.priority.toInt ≤ a.priority.toInt)
  have hlength := (hperm.filter fun r => r.priority = k).length_eq
  rw [hkept] at hsublist
  exact (hsublist.eq_of_length hlength.symm).symm

theorem orders_sorted (rules : List RoutingRule) : Orders rules (sorted rules) :=
  ⟨List.mergeSort_perm rules _, sorted_descending rules, sorted_stable rules⟩

theorem le_head (h : (a :: rules).Pairwise fun a b => b.priority ≤ a.priority)
    (hr : r ∈ a :: rules) : r.priority ≤ a.priority := by
  rcases List.mem_cons.1 hr with rfl | hr
  · exact Int32.le_refl r.priority
  · exact (List.pairwise_cons.1 h).1 r hr

/-- Lists with higher priorities first are the same if they have the same rules of every priority,
in the same order. -/
theorem eq_of_sameByPriority (hd : rules.Pairwise fun a b => b.priority ≤ a.priority)
    (hd' : rules'.Pairwise fun a b => b.priority ≤ a.priority) (h : SameByPriority rules rules') :
    rules = rules' := by
  induction rules generalizing rules' with
  | nil =>
    exact (List.eq_nil_iff_forall_not_mem.2 fun r hr => List.not_mem_nil (h.mem_iff.2 hr)).symm
  | cons a rest ih =>
    cases rules' with
    | nil => exact absurd (h.mem_iff.1 List.mem_cons_self) List.not_mem_nil
    | cons b rest' =>
      have hpriority : b.priority = a.priority :=
        Int32.le_antisymm (le_head hd (h.mem_iff.2 List.mem_cons_self))
          (le_head hd' (h.mem_iff.1 List.mem_cons_self))
      have hlevel := h a.priority
      rw [ofPriority, ofPriority, List.filter_cons_of_pos (by simp),
        List.filter_cons_of_pos (by simpa using hpriority)] at hlevel
      obtain ⟨rfl, -⟩ := List.cons.inj hlevel
      refine congrArg (a :: ·) (ih hd.of_cons hd'.of_cons fun k => ?_)
      by_cases hk : a.priority = k
      · rw [← hk]
        exact (List.cons.inj hlevel).2
      · have hother := h k
        rwa [ofPriority, ofPriority, List.filter_cons_of_neg (by simpa using hk),
          List.filter_cons_of_neg (by simpa using hk)] at hother

/-- There is one way to order the rules. -/
theorem Orders.eq_sorted {ordered : List RoutingRule} (h : Orders rules ordered) :
    ordered = sorted rules :=
  eq_of_sameByPriority h.descending (sorted_descending rules)
    fun k => (h.stable k).trans (sorted_stable rules k).symm

/-- Rules of different priorities may be mixed in any way. -/
theorem sorted_eq_of_sameByPriority (h : SameByPriority rules rules') :
    sorted rules = sorted rules' :=
  eq_of_sameByPriority (sorted_descending rules) (sorted_descending rules') fun k =>
    (sorted_stable rules k).trans ((h k).trans (sorted_stable rules' k).symm)

/-! ## The rule that decides -/

/-- The foremost by priority is the first good rule of its priority, and no good rule has a higher
one. -/
theorem foremost_iff {good : RoutingRule → Prop} :
    Foremost good (fun a b => b.priority < a.priority) rules r ↔
      (∀ q ∈ rules, good q → q.priority ≤ r.priority) ∧ good r ∧
        ∃ before after, ofPriority r.priority rules = before ++ r :: after ∧
          ∀ q ∈ before, ¬good q := by
  constructor
  · rintro ⟨before, after, rfl, hr, hbefore, hafter⟩
    refine ⟨fun q hq hgood => ?_, hr, ofPriority r.priority before, ofPriority r.priority after,
      by simp [ofPriority], fun q hq hgood => ?_⟩
    · rcases List.mem_append.1 hq with hq | hq
      · exact Int32.le_of_lt (hbefore q hq hgood)
      · rcases List.mem_cons.1 hq with rfl | hq
        · exact Int32.le_refl q.priority
        · exact Int32.not_lt.1 (hafter q hq hgood)
    · obtain ⟨hq, hpriority⟩ := mem_ofPriority.1 hq
      have hlower : q.priority < r.priority := hbefore q hq hgood
      exact Int32.ne_of_lt hlower hpriority
  · rintro ⟨hle, hr, before, after, hlevel, hbefore⟩
    obtain ⟨start, others, rfl, rfl, hothers⟩ := List.filter_eq_append_iff.1 hlevel
    obtain ⟨between, after', rfl, hbetween, -, -⟩ := List.filter_eq_cons_iff.1 hothers
    refine ⟨start ++ between, after', by simp, hr, fun q hq hgood => ?_, fun q hq hgood => ?_⟩
    · have hne : q.priority ≠ r.priority := by
        rcases List.mem_append.1 hq with hq | hq
        · exact fun heq => hbefore q (mem_ofPriority.2 ⟨hq, heq⟩) hgood
        · exact fun heq => hbetween q hq (decide_eq_true heq)
      have hmem : q ∈ start ++ (between ++ r :: after') := by
        rw [← List.append_assoc]
        exact List.mem_append_left _ hq
      exact Int32.lt_of_le_of_ne (hle q hmem hgood) hne
    · exact Int32.not_lt.2 (hle q (by simp [hq]) hgood)

theorem foremost_congr {good : RoutingRule → Prop} (h : SameByPriority rules rules')
    (hr : Foremost good (fun a b => b.priority < a.priority) rules r) :
    Foremost good (fun a b => b.priority < a.priority) rules' r := by
  rw [foremost_iff] at hr ⊢
  rw [← h r.priority]
  exact ⟨fun q hq => hr.1 q (h.mem_iff.2 hq), hr.2⟩

/-- With higher priorities first, the foremost is the first good rule. -/
theorem foremost_iff_of_descending {good : RoutingRule → Prop}
    (hd : rules.Pairwise fun a b => b.priority ≤ a.priority) :
    Foremost good (fun a b => b.priority < a.priority) rules r ↔
      ∃ before after, rules = before ++ r :: after ∧ good r ∧ ∀ q ∈ before, ¬good q := by
  constructor
  · rintro ⟨before, after, rfl, hr, hbefore, -⟩
    refine ⟨before, after, rfl, hr, fun q hq hgood => ?_⟩
    have hlower : q.priority < r.priority := hbefore q hq hgood
    exact Int32.not_lt.2 ((List.pairwise_append.1 hd).2.2 q hq r List.mem_cons_self) hlower
  · rintro ⟨before, after, rfl, hr, hbefore⟩
    refine ⟨before, after, rfl, hr, fun q hq hgood => absurd hgood (hbefore q hq), fun q hq _ => ?_⟩
    have hrest := (List.pairwise_append.1 hd).2.1
    exact Int32.not_lt.2 ((List.pairwise_cons.1 hrest).1 q hq)

variable {s : Signals} {request : ChatRequest} {first : Provider} {rest candidates : List Provider}

/-- The rule matches the request and names one of the candidates. -/
def Applies (s : Signals) (request : ChatRequest) (candidates : List Provider)
    (r : RoutingRule) : Prop :=
  r.holdsFor s request = .ok true ∧ ∃ p ∈ candidates, p.name = r.provider

/-- The rule applies, or it cannot be decided whether it matches. -/
def Ends (s : Signals) (request : ChatRequest) (candidates : List Provider)
    (r : RoutingRule) : Prop :=
  Applies s request candidates r ∨ ∃ fault, r.holdsFor s request = .error fault

/-- A rule that does not end the search is passed over. -/
theorem named?_cons_of_not_ends (h : ¬Ends s request candidates r) :
    named? s request candidates (r :: rules) = named? s request candidates rules := by
  cases hmatched : r.holdsFor s request with
  | error fault => exact absurd (.inr ⟨fault, hmatched⟩) h
  | ok matched =>
    cases matched with
    | false => rw [named?, hmatched]
    | true =>
      have hnobody : (candidates.find? fun p => p.name = r.provider) = none := by
        rw [List.find?_eq_none]
        exact fun p hp hname => h (.inl ⟨hmatched, p, hp, of_decide_eq_true hname⟩)
      rw [named?, hmatched]
      simp only [hnobody]

theorem named?_append_of_not_ends {before : List RoutingRule}
    (h : ∀ q ∈ before, ¬Ends s request candidates q) :
    named? s request candidates (before ++ rules) = named? s request candidates rules := by
  induction before with
  | nil => rfl
  | cons q before ih =>
    obtain ⟨hq, hbefore⟩ := List.forall_mem_cons.1 h
    rw [List.cons_append, named?_cons_of_not_ends hq]
    exact ih hbefore

/-- A rule that applies names the first candidate of its name. -/
theorem named?_cons_of_applies (rules : List RoutingRule) (h : Applies s request candidates r) :
    ∃ p, (candidates.find? fun p => p.name = r.provider) = some p ∧
      named? s request candidates (r :: rules) = .ok (some p) := by
  obtain ⟨hmatched, hnamed⟩ := h
  have hsome : (candidates.find? fun p => p.name = r.provider).isSome = true := by
    rw [List.find?_isSome]
    obtain ⟨p, hp, hname⟩ := hnamed
    exact ⟨p, hp, decide_eq_true hname⟩
  obtain ⟨p, hp⟩ := Option.isSome_iff_exists.1 hsome
  refine ⟨p, hp, ?_⟩
  rw [named?, hmatched]
  simp only [hp]

/-- If a rule applies, one of them is the foremost. -/
theorem exists_foremost {good : RoutingRule → Prop} (h : ∃ r ∈ rules, good r) :
    ∃ r, Foremost good (fun a b => b.priority < a.priority) rules r := by
  classical
  obtain ⟨r, hr, hgood⟩ := h
  have hsome : ((sorted rules).find? fun r => good r).isSome = true := by
    rw [List.find?_isSome]
    exact ⟨r, (sorted_stable rules).mem_iff.2 hr, decide_eq_true hgood⟩
  obtain ⟨r, hr⟩ := Option.isSome_iff_exists.1 hsome
  obtain ⟨hgood, before, after, heq, hbefore⟩ := List.find?_eq_some_iff_append.1 hr
  refine ⟨r, foremost_congr (sorted_stable rules) ?_⟩
  rw [foremost_iff_of_descending (sorted_descending rules)]
  exact ⟨before, after, heq, of_decide_eq_true hgood, fun q hq => by simpa using hbefore q hq⟩

/-- The search ends at the foremost rule that ends it. -/
theorem named?_sorted_of_foremost
    (hr : Foremost (Ends s request candidates) (fun a b => b.priority < a.priority) rules r) :
    ∃ after, named? s request candidates (sorted rules) =
      named? s request candidates (r :: after) := by
  have hsorted := foremost_congr (sorted_stable rules).symm hr
  rw [foremost_iff_of_descending (sorted_descending rules)] at hsorted
  obtain ⟨before, after, heq, -, hbefore⟩ := hsorted
  exact ⟨after, by rw [heq, named?_append_of_not_ends hbefore]⟩

theorem named?_sorted_of_none (h : ∀ r ∈ rules, ¬Ends s request candidates r) :
    named? s request candidates (sorted rules) = .ok none := by
  rw [← List.append_nil (sorted rules), named?_append_of_not_ends]
  · rfl
  · exact fun q hq => h q ((sorted_stable rules).mem_iff.1 hq)

end RuleOrder

/-- **The rule of the highest priority decides.** Rules are put in order by priority, those of one
priority as they were given, and there is one such order. If some rule matches and names a
candidate, the foremost of these is the earliest of the highest priority; the pick is the first
candidate of the name that it gives, unless a rule that cannot be decided comes first, and then the
selection fails as that rule does. If no rule ends the search, the pick is that by model. Mixing
rules of different priorities in another way changes nothing. -/
theorem Strategy.select_by_priority (s : Signals) (rotation : Rotation) (request : ChatRequest)
    (first : Provider) (rest : List Provider) (rules : List RoutingRule) :
    (∀ ordered, ofRules rules = .custom ordered ↔ RuleOrder.Orders rules ordered) ∧
      ((∃ r ∈ rules, RuleOrder.Applies s request (first :: rest) r) →
        ∃ r, Foremost (RuleOrder.Applies s request (first :: rest))
            (fun a b => b.priority < a.priority) rules r ∧
          (Foremost (RuleOrder.Ends s request (first :: rest))
              (fun a b => b.priority < a.priority) rules r →
            ∃ p, ((first :: rest).find? fun p => p.name = r.provider) = some p ∧
              (ofRules rules).select s rotation request (first :: rest) = .ok (.ok p))) ∧
      (∀ r fault, Foremost (RuleOrder.Ends s request (first :: rest))
          (fun a b => b.priority < a.priority) rules r → r.holdsFor s request = .error fault →
        (ofRules rules).select s rotation request (first :: rest) = .error fault) ∧
      ((∀ r ∈ rules, ¬RuleOrder.Ends s request (first :: rest) r) →
        (ofRules rules).select s rotation request (first :: rest) =
          byModel.select s rotation request (first :: rest)) ∧
      ∀ rules', RuleOrder.SameByPriority rules rules' → ofRules rules = ofRules rules' := by
  refine ⟨fun ordered => ⟨?_, fun hordered => ?_⟩, fun happlies => ?_,
    fun r fault hr hfault => ?_, fun hnone => ?_, fun rules' h => ?_⟩
  · rintro ⟨⟩
    exact RuleOrder.orders_sorted rules
  · rw [ofRules, hordered.eq_sorted]
  · obtain ⟨r, hr⟩ := RuleOrder.exists_foremost happlies
    refine ⟨r, hr, fun hends => ?_⟩
    obtain ⟨after, hnamed⟩ := RuleOrder.named?_sorted_of_foremost hends
    obtain ⟨p, hfirst, hp⟩ := RuleOrder.named?_cons_of_applies after hr.wanted
    refine ⟨p, hfirst, ?_⟩
    rw [select, ofRules, pick, RuleOrder.select, hnamed, hp]
    rfl
  · obtain ⟨after, hnamed⟩ := RuleOrder.named?_sorted_of_foremost hr
    rw [select, ofRules, pick, RuleOrder.select, hnamed, RuleOrder.named?, hfault]
    rfl
  · rw [select, ofRules, pick, RuleOrder.select, RuleOrder.named?_sorted_of_none hnone]
    rfl
  · rw [ofRules, ofRules, RuleOrder.sorted_eq_of_sameByPriority h]

/-- Rules of which one of the highest priority names nobody, and two come next. -/
def mixedRules : List RoutingRule :=
  [⟨"late", -1, .modelEquals "model"⟩, ⟨"nobody", Int32.maxValue, .modelEquals "model"⟩,
    ⟨"fresh", 7, .modelEquals "model"⟩, ⟨"other", 7, .predicate fun r => r.messages.isEmpty⟩,
    ⟨"other", Int32.minValue, .never⟩]

/-- Of two rules of one priority the earlier is followed. -/
theorem earlier_rule_is_followed :
    (∃ r ∈ mixedRules, RuleOrder.Applies (lateSignals 2 (by decide)) lateRequest lateCandidates r) ∧
      ∃ r, Foremost (RuleOrder.Applies (lateSignals 2 (by decide)) lateRequest lateCandidates)
          (fun a b => b.priority < a.priority) mixedRules r ∧
        (lateCandidates.find? fun p => p.name = r.provider) = some (serverOf "fresh" "model" 2) ∧
        (Strategy.ofRules mixedRules).select (lateSignals 2 (by decide)) {} lateRequest
          lateCandidates = .ok (.ok (serverOf "fresh" "model" 2)) := by
  have happlies : ∃ r ∈ mixedRules,
      RuleOrder.Applies (lateSignals 2 (by decide)) lateRequest lateCandidates r :=
    ⟨⟨"fresh", 7, .modelEquals "model"⟩, by simp [mixedRules], rfl, serverOf "fresh" "model" 2,
      by decide, rfl⟩
  have hdecided : ∀ r ∈ mixedRules,
      ¬∃ fault, r.holdsFor (lateSignals 2 (by decide)) lateRequest = .error fault := by
    simp only [mixedRules, List.forall_mem_cons]
    refine ⟨?_, ?_, ?_, ?_, ?_, by simp⟩ <;> exact fun ⟨_, h⟩ => by cases h
  obtain ⟨r, hr, hpick⟩ := (Strategy.select_by_priority (lateSignals 2 (by decide)) {} lateRequest
    (serverOf "other" "another" 0) [serverOf "late" "model" 1, serverOf "fresh" "model" 2]
    mixedRules).2.1 happlies
  obtain ⟨p, hfirst, hp⟩ := hpick (hr.congr fun q hq => (or_iff_left (hdecided q hq)).symm)
  have hfresh : (Strategy.ofRules mixedRules).select (lateSignals 2 (by decide)) {} lateRequest
      lateCandidates = .ok (.ok (serverOf "fresh" "model" 2)) := by cbv
  obtain rfl : serverOf "fresh" "model" 2 = p :=
    Except.ok.inj (Except.ok.inj (hfresh.symm.trans hp))
  exact ⟨happlies, r, hr, hfirst, hfresh⟩

/-! ## A rule that cannot be decided -/

/-- What is known when two durations of `late` are too long to be added. -/
def overfullSignals : Signals :=
  ⟨[], ⟨2, [("late", [.ofSecs 0xFFFFFFFFFFFFFFFF (by decide),
    .ofSecs 0xFFFFFFFFFFFFFFFF (by decide)])]⟩⟩

/-- A rule on the latency of `late`, and one of a lower priority that matches. -/
def stoppedRules : List RoutingRule :=
  [⟨"late", 2, .latencyAtMost 1.0⟩, ⟨"other", 1, .modelEquals "model"⟩]

/-- A rule that matches and names a candidate is not followed if one that cannot be decided comes
first. -/
theorem undecided_rule_stops_selection :
    ¬∀ (s : Signals) (rotation : Rotation) (request : ChatRequest) (first : Provider)
      (rest : List Provider) (rules : List RoutingRule),
      (∃ r ∈ rules, RuleOrder.Applies s request (first :: rest) r) →
        ∃ p, (Strategy.ofRules rules).select s rotation request (first :: rest) = .ok (.ok p) := by
  intro h
  obtain ⟨p, hp⟩ := h overfullSignals {} lateRequest (serverOf "other" "another" 0)
    [serverOf "late" "model" 1] stoppedRules
    ⟨⟨"other", 1, .modelEquals "model"⟩, by simp [stoppedRules], rfl, serverOf "other" "another" 0,
      by decide, rfl⟩
  have hstop : (Strategy.ofRules stoppedRules).select overfullSignals {} lateRequest
      [serverOf "other" "another" 0, serverOf "late" "model" 1] = .error .durationOverflow := by
    have hsorted : RuleOrder.sorted stoppedRules = stoppedRules :=
      List.mergeSort_of_pairwise (by simp [stoppedRules])
    rw [Strategy.ofRules, hsorted]
    rfl
  rw [hstop] at hp
  cases hp

end ChatGateway
