import Mathlib
import ChatGateway.Config.Document
import ChatGateway.Gateway.State
import ChatGateway.Proofs.Routing.Unlisted

/-!
# Which configurations are accepted

A configuration is accepted exactly if it is consistent (`RoutingConfig.Consistent`), and otherwise
the first of its faults is reported (`Config.validate_exact`). A fault is found at a spot
(`Config.Faulty`): at one of the limits, among the names to look up, at a price or at a rule, and
the spots are gone through in that order (`Config.Spot.rank`). The checks are put together from
small ones, each of which finds the first of the faults that it looks for (`Config.Finds`).

A gateway that is set up from an accepted configuration has its buffer and its windows as large as
configured, and holds no price that is below zero or not finite.
-/

namespace ChatGateway

/-! ## Blank texts -/

namespace Text

/-- The characters of a text without the white space at its ends. -/
def trimmed (s : String) : List Char :=
  ((s.toList.dropWhile isBlank).reverse.dropWhile isBlank).reverse

theorem isBlankText_iff {s : String} : isBlankText s = true ↔ trimmed s = [] := by
  unfold isBlankText trimmed
  rw [List.reverse_eq_nil_iff, List.dropWhile_eq_nil_iff, List.all_eq_true]
  constructor
  · intro h c hc
    exact h c (List.dropWhile_subset _ (List.mem_reverse.1 hc))
  · intro h
    rw [← List.dropWhile_eq_nil_iff]
    by_contra hne
    have hhead := List.head_dropWhile_not isBlank hne
    rw [h _ (List.mem_reverse.2 (List.head_mem hne))] at hhead
    cases hhead

end Text

/-! ## Amounts -/

/-- A number that can be a price: it is finite and not below zero. Negative zero is one. -/
def Binary64.IsAmount (x : Float) : Prop := x.isFinite = true ∧ 0.0 ≤ x

open Binary64

theorem Config.isPrice_iff {x : Float} : isPrice x = true ↔ IsAmount x := by
  unfold isPrice IsAmount
  rw [Bool.and_eq_true, Bool.not_eq_true', decide_eq_false_iff_not]
  exact and_congr_right fun hx => not_lt_iff_le (isNaN_eq_false hx) (by decide)

/-! ## Consistent configurations -/

/-- All values of a routing section make sense. -/
structure RoutingConfig.Consistent (c : RoutingConfig) : Prop where
  latencySamples : 0 < c.latencySamples
  streamBuffer : 0 < c.streamBuffer
  probes : ∀ name ∈ c.probes, name ≠ ""
  prices : ∀ e ∈ c.pricing, e.price.Sensible
  rules : ∀ r ∈ c.rules, Text.trimmed r.provider ≠ []

namespace Config

/-- A place in a routing section where a fault may be. -/
inductive Spot where
  | latencySamples
  | streamBuffer
  | probes
  /-- The price for input of the entry with this number. -/
  | input (entry : ℕ)
  /-- The price for output of the entry with this number. -/
  | output (entry : ℕ)
  /-- The rule with this number. -/
  | rule (index : ℕ)
deriving DecidableEq, Repr

/-- The order in which the spots are gone through: the limits, the names, the prices entry by entry
with that for input first, and the rules. -/
def Spot.rank : Spot → ℕ ×ₗ ℕ
  | .latencySamples => toLex (0, 0)
  | .streamBuffer => toLex (1, 0)
  | .probes => toLex (2, 0)
  | .input entry => toLex (3, 2 * entry)
  | .output entry => toLex (3, 2 * entry + 1)
  | .rule index => toLex (4, index)

theorem Spot.rank_injective : Function.Injective Spot.rank := by
  intro s t h
  cases s <;> cases t <;> simp_all [rank] <;> omega

/-- What is wrong with an entry of the prices. -/
inductive EntryFault (i : ℕ) (e : PriceEntry) : Spot → Violation → Prop
  | input : ¬IsAmount e.price.input → EntryFault i e (.input i)
    (.badPrice e.provider e.model "input_per_mtok" e.price.input)
  | output : ¬IsAmount e.price.output → EntryFault i e (.output i)
    (.badPrice e.provider e.model "output_per_mtok" e.price.output)

/-- What is wrong with a routing section, and where. -/
inductive Faulty (c : RoutingConfig) : Spot → Violation → Prop
  | latencySamples : c.latencySamples = 0 → Faulty c .latencySamples .noLatencySamples
  | streamBuffer : c.streamBuffer = 0 → Faulty c .streamBuffer .noStreamBuffer
  | probes : "" ∈ c.probes → Faulty c .probes .emptyProbe
  | price {i : ℕ} {e : PriceEntry} {s : Spot} {v : Violation} :
    c.pricing[i]? = some e → EntryFault i e s v → Faulty c s v
  | rule {i : ℕ} {r : StoredRule} : c.rules[i]? = some r → Text.trimmed r.provider = [] →
    Faulty c (.rule i) (.namelessRule i)

/-- This is wrong with a routing section, and nothing before it. -/
def FirstFault (c : RoutingConfig) (v : Violation) : Prop :=
  ∃ s, Faulty c s v ∧ ∀ t w, Faulty c t w → s.rank ≤ t.rank

/-- One thing is wrong at a spot. -/
theorem Faulty.unique {c : RoutingConfig} {s : Spot} {v w : Violation} (hv : Faulty c s v)
    (hw : Faulty c s w) : v = w := by
  cases hv with
  | price he hv =>
    cases hv <;>
      · cases hw with
        | price he' hw =>
          cases hw
          rw [he] at he'
          cases he'
          rfl
  | _ => cases hw with
    | price he hw => cases hw
    | _ => rfl

theorem consistent_iff {c : RoutingConfig} : c.Consistent ↔ ∀ s v, ¬Faulty c s v := by
  constructor
  · rintro h s v (hlatency | hbuffer | hname | ⟨he, hprice⟩ | ⟨hr, hblank⟩)
    · exact h.latencySamples.ne' hlatency
    · exact h.streamBuffer.ne' hbuffer
    · exact h.probes "" hname rfl
    · have hsensible := h.prices _ (List.mem_of_getElem? he)
      cases hprice with
      | input hbad => exact hbad hsensible.1
      | output hbad => exact hbad hsensible.2
    · exact h.rules _ (List.mem_of_getElem? hr) hblank
  · intro h
    refine ⟨Nat.pos_of_ne_zero fun hzero => h _ _ (.latencySamples hzero),
      Nat.pos_of_ne_zero fun hzero => h _ _ (.streamBuffer hzero), ?_, fun e he => ?_,
      fun r hr hblank => ?_⟩
    · rintro name hname rfl
      exact h _ _ (.probes hname)
    · obtain ⟨i, hi⟩ := List.getElem?_of_mem he
      exact ⟨by_contra fun hbad => h _ _ (.price hi (.input hbad)),
        by_contra fun hbad => h _ _ (.price hi (.output hbad))⟩
    · obtain ⟨i, hi⟩ := List.getElem?_of_mem hr
      exact h _ _ (.rule hi hblank)

/-! ## Checks -/

/-- A check finds the first fault of a kind, if there is one. -/
structure Finds (found : Option Violation) (fault : Spot → Violation → Prop) : Prop where
  complete : found = none → ∀ s v, ¬fault s v
  first : ∀ v, found = some v → ∃ s, fault s v ∧ ∀ t w, fault t w → s.rank ≤ t.rank

section Finds

variable {found found' : Option Violation} {fault fault' : Spot → Violation → Prop}

theorem Finds.congr (h : Finds found fault) (hsame : ∀ s v, fault s v ↔ fault' s v) :
    Finds found fault' := by
  have heq : fault = fault' := funext fun s => funext fun v => propext (hsame s v)
  rwa [← heq]

/-- A check after another one finds the first fault of both, if those of the other come first. -/
theorem Finds.or (h : Finds found fault) (h' : Finds found' fault')
    (hrank : ∀ s v t w, fault s v → fault' t w → s.rank ≤ t.rank) :
    Finds (found.or found') fun s v => fault s v ∨ fault' s v := by
  cases found with
  | none =>
    have hnone := h.complete rfl
    exact h'.congr fun s v => by simp [hnone s v]
  | some w =>
    refine ⟨nofun, fun v hv => ?_⟩
    obtain ⟨s, hs, hfirst⟩ := h.first v hv
    refine ⟨s, .inl hs, fun t u ht => ht.elim (hfirst t u) fun ht => hrank s v t u hs ht⟩

theorem finds_check (p : Prop) [Decidable p] (spot : Spot) (v : Violation) :
    Finds (if p then some v else none) fun s w => p ∧ s = spot ∧ w = v := by
  split
  · refine ⟨nofun, fun w hw => ⟨spot, ⟨‹p›, rfl, (Option.some.inj hw).symm⟩, ?_⟩⟩
    rintro t u ⟨-, rfl, -⟩
    exact le_rfl
  · exact ⟨fun _ s w h => ‹¬p› h.1, nofun⟩

/-- Going through a list finds the first fault of its members. -/
theorem finds_findSome? {α : Type} {xs : List α} {check : α → Option Violation}
    {fault : ℕ → α → Spot → Violation → Prop} (h : ∀ i x, Finds (check x) (fault i x))
    (hrank : ∀ i x s v j y t w, i < j → fault i x s v → fault j y t w → s.rank ≤ t.rank) :
    Finds (xs.findSome? check) fun s v => ∃ i x, xs[i]? = some x ∧ fault i x s v := by
  constructor
  · rintro hnone s v ⟨i, x, hx, hfault⟩
    exact (h i x).complete (List.findSome?_eq_none_iff.1 hnone x (List.mem_of_getElem? hx)) s v hfault
  · intro v hv
    obtain ⟨before, x, after, rfl, hx, hbefore⟩ := List.findSome?_eq_some_iff.1 hv
    obtain ⟨s, hs, hfirst⟩ := (h before.length x).first v hx
    refine ⟨s, ⟨before.length, x, by simp, hs⟩, ?_⟩
    rintro t w ⟨j, y, hy, hfault⟩
    rcases lt_trichotomy before.length j with hlt | rfl | hlt
    · exact hrank _ _ _ _ _ _ _ _ hlt hs hfault
    · obtain rfl : x = y := by simpa using hy
      exact hfirst t w hfault
    · rw [List.getElem?_append_left hlt] at hy
      exact absurd hfault ((h j y).complete (hbefore y (List.mem_of_getElem? hy)) t w)

end Finds

theorem finds_entryViolation (i : ℕ) (e : PriceEntry) :
    Finds (entryViolation? e) (EntryFault i e) := by
  have hor : entryViolation? e =
      (if isPrice e.price.input = false then
        some (.badPrice e.provider e.model "input_per_mtok" e.price.input) else none).or
      (if isPrice e.price.output = false then
        some (.badPrice e.provider e.model "output_per_mtok" e.price.output) else none) := by
    unfold entryViolation?
    cases isPrice e.price.input <;> cases isPrice e.price.output <;> rfl
  have hbad (x : Float) : isPrice x = false ↔ ¬IsAmount x := by
    rw [← isPrice_iff, Bool.not_eq_true]
  rw [hor]
  refine ((finds_check _ (.input i) _).or (finds_check _ (.output i) _) ?_).congr fun s v => ?_
  · rintro s v t w ⟨-, rfl, -⟩ ⟨-, rfl, -⟩
    simp [Spot.rank, Prod.Lex.toLex_le_toLex]
  · rw [hbad, hbad]
    constructor
    · rintro (⟨h, rfl, rfl⟩ | ⟨h, rfl, rfl⟩)
      · exact .input h
      · exact .output h
    · rintro (h | h)
      · exact .inl ⟨h, rfl, rfl⟩
      · exact .inr ⟨h, rfl, rfl⟩

theorem finds_ruleViolation (rules : List StoredRule) :
    Finds (ruleViolation? rules) fun s v => ∃ i r, rules[i]? = some r ∧
      Text.trimmed r.provider = [] ∧ s = .rule i ∧ v = .namelessRule i := by
  unfold ruleViolation?
  constructor
  · rintro hnone s v ⟨i, r, hr, hblank, -, -⟩
    have hnamed := List.findIdx?_eq_none_iff.1 (Option.map_eq_none_iff.1 hnone) r
      (List.mem_of_getElem? hr)
    rw [Text.isBlankText_iff.2 hblank] at hnamed
    cases hnamed
  · intro v hv
    obtain ⟨i, hi, rfl⟩ := Option.map_eq_some_iff.1 hv
    obtain ⟨hlt, hblank, hbefore⟩ := List.findIdx?_eq_some_iff_getElem.1 hi
    refine ⟨.rule i, ⟨i, rules[i], List.getElem?_eq_getElem hlt, Text.isBlankText_iff.1 hblank,
      rfl, rfl⟩, ?_⟩
    rintro t w ⟨j, r, hr, hblank', rfl, rfl⟩
    have hle : i ≤ j := by
      by_contra hji
      have hnamed := hbefore j (Nat.lt_of_not_le hji)
      rw [List.getElem?_eq_some_iff] at hr
      obtain ⟨hj, rfl⟩ := hr
      exact hnamed (Text.isBlankText_iff.2 hblank')
    simpa [Spot.rank, Prod.Lex.toLex_le_toLex] using hle

/-- **The checks find the first fault** of a routing section. -/
theorem finds_violation (c : RoutingConfig) : Finds (violation? c) (Faulty c) := by
  have hlimits : limitViolation? c =
      ((if c.latencySamples = 0 then some .noLatencySamples else none).or
        (if c.streamBuffer = 0 then some .noStreamBuffer else none)).or
        (if "" ∈ c.probes then some .emptyProbe else none) := by
    unfold limitViolation?
    by_cases hlatency : c.latencySamples = 0 <;> by_cases hbuffer : c.streamBuffer = 0 <;>
      by_cases hname : "" ∈ c.probes <;> simp_all
  have hprices : Finds (c.pricing.findSome? entryViolation?)
      fun s v => ∃ i e, c.pricing[i]? = some e ∧ EntryFault i e s v := by
    refine finds_findSome? finds_entryViolation ?_
    rintro i e s v j e' t w hij (_ | _) (_ | _) <;>
      simp [Spot.rank, Prod.Lex.toLex_le_toLex] <;> omega
  unfold violation?
  rw [hlimits]
  refine (((((finds_check _ .latencySamples _).or (finds_check _ .streamBuffer _) ?_).or
    (finds_check _ .probes _) ?_).or hprices ?_).or (finds_ruleViolation c.rules) ?_).congr
      fun s v => ?_
  · rintro s v t w ⟨-, rfl, -⟩ ⟨-, rfl, -⟩
    simp [Spot.rank, Prod.Lex.toLex_le_toLex]
  · rintro s v t w (⟨-, rfl, -⟩ | ⟨-, rfl, -⟩) ⟨-, rfl, -⟩ <;>
      simp [Spot.rank, Prod.Lex.toLex_le_toLex]
  · rintro s v t w ((⟨-, rfl, -⟩ | ⟨-, rfl, -⟩) | ⟨-, rfl, -⟩) ⟨i, e, -, _ | _⟩ <;>
      simp [Spot.rank, Prod.Lex.toLex_le_toLex]
  · rintro s v t w (((⟨-, rfl, -⟩ | ⟨-, rfl, -⟩) | ⟨-, rfl, -⟩) | ⟨i, e, -, _ | _⟩)
      ⟨j, r, -, -, rfl, -⟩ <;> simp [Spot.rank, Prod.Lex.toLex_le_toLex]
  · constructor
    · rintro ((((⟨h, rfl, rfl⟩ | ⟨h, rfl, rfl⟩) | ⟨h, rfl, rfl⟩) | ⟨i, e, he, h⟩) |
        ⟨i, r, hr, h, rfl, rfl⟩)
      · exact .latencySamples h
      · exact .streamBuffer h
      · exact .probes h
      · exact .price he h
      · exact .rule hr h
    · rintro (h | h | h | ⟨he, h⟩ | ⟨hr, h⟩)
      · exact .inl (.inl (.inl (.inl ⟨h, rfl, rfl⟩)))
      · exact .inl (.inl (.inl (.inr ⟨h, rfl, rfl⟩)))
      · exact .inl (.inl (.inr ⟨h, rfl, rfl⟩))
      · exact .inl (.inr ⟨_, _, he, h⟩)
      · exact .inr ⟨_, _, hr, h, rfl, rfl⟩

theorem validate_eq_ok_iff {c : Config} : c.validate = .ok c ↔ c.routing.Consistent := by
  have hfinds := finds_violation c.routing
  rw [consistent_iff, validate]
  cases hv : violation? c.routing with
  | none => exact ⟨fun _ => hfinds.complete hv, fun _ => rfl⟩
  | some v =>
    obtain ⟨s, hs, -⟩ := hfinds.first v hv
    exact ⟨nofun, fun h => absurd hs (h s v)⟩

theorem validate_eq_error_iff {c : Config} {v : Violation} :
    c.validate = .error v ↔ FirstFault c.routing v := by
  have hfinds := finds_violation c.routing
  rw [validate]
  constructor
  · intro h
    cases hv : violation? c.routing with
    | none => simp [hv] at h
    | some w =>
      obtain rfl : w = v := by simpa [hv] using h
      exact hfinds.first w hv
  · rintro ⟨s, hs, hfirst⟩
    cases hw : violation? c.routing with
    | none => exact absurd hs (hfinds.complete hw s v)
    | some w =>
      -- both come first, so they are at one spot
      obtain ⟨t, ht, hfirst'⟩ := hfinds.first w hw
      obtain rfl : s = t :=
        Spot.rank_injective (le_antisymm (hfirst t w ht) (hfirst' s v hs))
      exact congrArg Except.error (ht.unique hs)

/-- What is read from a text is consistent. -/
theorem consistent_of_ofText {env : Environment} {text : String} {c : Config}
    (h : ofText env text = .ok c) : c.routing.Consistent := by
  unfold ofText at h
  split at h
  · cases h
  · split at h
    · cases h
    · rename_i config _
      cases hv : config.validate with
      | error v => simp [hv, Except.mapError] at h
      | ok accepted =>
        have hsame : accepted = config := by
          unfold validate at hv
          split at hv
          · cases hv
          · exact (Except.ok.inj hv).symm
        obtain rfl : accepted = c := by simpa [hv, Except.mapError] using h
        rw [hsame] at hv ⊢
        exact validate_eq_ok_iff.1 hv

/-! ## What the message names -/

/-- What a message has to name: where the fault is, and the price that is wrong. -/
def Violation.parts : Violation → List String
  | .noLatencySamples => ["routing.latency_samples"]
  | .noStreamBuffer => ["routing.stream_buffer"]
  | .emptyProbe => ["routing.byok.providers"]
  | .badPrice provider model field value =>
    [provider, model, field, Decimal.FloatStyle.message.text value]
  | .namelessRule index => [toString index]

theorem infix_append_left {part : List Char} {s : String} (h : part <:+: s.toList) (t : String) :
    part <:+: (s ++ t).toList := by
  rw [String.toList_append]
  exact h.trans (List.prefix_append _ _).isInfix

theorem infix_append_right {part : List Char} (s : String) {t : String} (h : part <:+: t.toList) :
    part <:+: (s ++ t).toList := by
  rw [String.toList_append]
  exact h.trans (List.suffix_append _ _).isInfix

theorem Violation.infix_message {v : Violation} {part : String} (h : part ∈ v.parts) :
    part.toList <:+: v.message.toList := by
  have self : part.toList <:+: part.toList := List.infix_refl _
  cases v with
  | noLatencySamples =>
    obtain rfl := List.mem_singleton.1 h
    have hmessage : message .noLatencySamples =
        "routing.latency_samples" ++ " must be greater than 0" := rfl
    rw [hmessage]
    exact infix_append_left self _
  | noStreamBuffer =>
    obtain rfl := List.mem_singleton.1 h
    have hmessage : message .noStreamBuffer =
        "routing.stream_buffer" ++ " must be greater than 0" := rfl
    rw [hmessage]
    exact infix_append_left self _
  | emptyProbe =>
    obtain rfl := List.mem_singleton.1 h
    have hmessage : message .emptyProbe =
        "routing.byok.providers" ++ " must not contain empty names" := rfl
    rw [hmessage]
    exact infix_append_left self _
  | badPrice provider model field value =>
    simp only [parts, List.mem_cons, List.not_mem_nil, or_false] at h
    unfold message
    rcases h with rfl | rfl | rfl | rfl
    · have hprovider := infix_append_left (infix_append_right "pricing for '" self) "/"
      have hmodel := infix_append_left (infix_append_left hprovider model) "' has invalid "
      exact infix_append_left (infix_append_left (infix_append_left hmodel field) ": ") _
    · have hmodel := infix_append_left (infix_append_right ("pricing for '" ++ provider ++ "/") self)
        "' has invalid "
      exact infix_append_left (infix_append_left (infix_append_left hmodel field) ": ") _
    · exact infix_append_left (infix_append_left (infix_append_right _ self) ": ") _
    · exact infix_append_right _ self
  | namelessRule index =>
    obtain rfl := List.mem_singleton.1 h
    exact infix_append_left (infix_append_right _ self) _

end Config

/-! ## Gateways of accepted configurations -/

theorem PriceTable.sensible_ofEntries {entries : List PriceEntry}
    (h : ∀ e ∈ entries, e.price.Sensible) : (ofEntries entries).Every Price.Sensible :=
  Every.setAll (show builtin.Every Price.Sensible by decide) h

/-- **Validation is exact.** A configuration is accepted if and only if it is consistent, and
otherwise refused with a message that names the first fault. A gateway of an accepted one has the
buffer and the windows that are configured, and knows only prices that are finite and not below
zero. -/
theorem Config.validate_exact (c : Config) (services : Services) :
    (c.validate = .ok c ↔ c.routing.Consistent) ∧
    (∀ v, c.validate = .error v ↔ FirstFault c.routing v) ∧
    (∀ v : Violation, ∀ part ∈ v.parts, part.toList <:+: v.message.toList) ∧
    (c.validate = .ok c →
      (Gateway.ofConfig c.routing services).settings.bufferCapacity = c.routing.streamBuffer ∧
      (Gateway.ofConfig c.routing services).signals.latency.capacity = c.routing.latencySamples ∧
      (Gateway.ofConfig c.routing services).signals.prices.Every Price.Sensible) := by
  refine ⟨validate_eq_ok_iff, fun v => validate_eq_error_iff,
    fun v part hpart => Violation.infix_message hpart, fun hvalid => ?_⟩
  have hconsistent := validate_eq_ok_iff.1 hvalid
  exact ⟨Nat.max_eq_left hconsistent.streamBuffer, if_neg hconsistent.latencySamples.ne',
    PriceTable.sensible_ofEntries hconsistent.prices⟩

/-- A configuration with room for one chunk and one duration, a price of negative zero and a rule.
-/
def narrowConfig : Config where
  routing :=
    { latencySamples := 1
      streamBuffer := 1
      pricing := [⟨"local", "llama2", ⟨-0.0, 0.0⟩⟩]
      rules := [.forModel "llama2" "local" 1] }

theorem narrow_config_is_accepted :
    narrowConfig.validate = .ok narrowConfig ∧ narrowConfig.routing.Consistent ∧
      (Gateway.ofConfig narrowConfig.routing {}).settings.bufferCapacity = 1 ∧
      (Gateway.ofConfig narrowConfig.routing {}).signals.latency.capacity = 1 ∧
      (Gateway.ofConfig narrowConfig.routing {}).signals.prices.Every Price.Sensible := by
  obtain ⟨haccepted, -, -, hgateway⟩ := Config.validate_exact narrowConfig {}
  have hvalid : narrowConfig.validate = .ok narrowConfig := rfl
  exact ⟨hvalid, haccepted.1 hvalid, hgateway hvalid⟩

/-- Of a price for output, a price for input of a later entry and a rule the first is reported. -/
example : (Config.validate { routing :=
    { pricing := [⟨"a", "m", ⟨0.0, 0.0 / 0.0⟩⟩, ⟨"b", "m", ⟨-1.0, 0.0⟩⟩]
      rules := [.forModel "m" " " 1] } }) =
        .error (.badPrice "a" "m" "output_per_mtok" (0.0 / 0.0)) := by
  rfl

end ChatGateway
