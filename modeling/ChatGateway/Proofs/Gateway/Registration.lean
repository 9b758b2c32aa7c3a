import Mathlib
import ChatGateway.Proofs.Gateway.Snapshots

/-!
# What a registry remembers

However often providers are registered, a registry answers as if it looked its answers up in the
list of all that were ever registered (`Gateway.registrations_are_mirrored`). The order of the names
is that of their first registrations, what stands under a name is the last one that was registered
under it, and the default is the very first provider, which is not followed when it is replaced:
only its name remains.
-/

namespace ChatGateway

namespace Registry

/-- The registry with some providers registered, one after the other. -/
def registerAll (r : Registry) (history : List Provider) : Registry := history.foldl register r

/-- The provider that was registered last under a name. -/
def lastNamed? (history : List Provider) (name : String) : Option Provider :=
  (history.filter fun p => p.name = name).getLast?

/-- How many registrations came before the first one under a name. -/
def firstPlace (history : List Provider) (name : String) : Nat :=
  (history.map (·.name)).idxOf name

variable {history : List Provider} {r : Registry} {name : String}

/-! ## Histories -/

theorem lastNamed?_append_singleton (history : List Provider) (p : Provider) (name : String) :
    lastNamed? (history ++ [p]) name =
      if p.name = name then some p else lastNamed? history name := by
  by_cases h : p.name = name <;> simp [lastNamed?, List.filter_append, h]

theorem lastNamed?_eq_none_iff :
    lastNamed? history name = none ↔ name ∉ history.map (·.name) := by
  simp [lastNamed?]

/-- A later registration does not move a name. -/
theorem firstPlace_append_of_mem (h : name ∈ history.map (·.name)) (later : List Provider) :
    firstPlace (history ++ later) name = firstPlace history name := by
  unfold firstPlace
  rw [List.map_append, List.idxOf_append_of_mem h]

/-- A new name comes after those that are there. -/
theorem firstPlace_lt_of_new {p : Provider} (h : name ∈ history.map (·.name))
    (hnew : p.name ∉ history.map (·.name)) :
    firstPlace (history ++ [p]) name < firstPlace (history ++ [p]) p.name := by
  rw [firstPlace_append_of_mem h]
  unfold firstPlace
  rw [List.map_append, List.idxOf_append_of_notMem hnew]
  exact Nat.lt_of_lt_of_le (List.idxOf_lt_length_of_mem h) (Nat.le_add_right _ _)

/-! ## One provider is registered -/

/-- The registry is what registering these providers in this order makes of an empty one. -/
structure Keeps (history : List Provider) (r : Registry) : Prop extends r.Sound where
  mem_names : ∀ name, name ∈ r.names ↔ name ∈ history.map (·.name)
  in_order : r.names.Pairwise fun a b => firstPlace history a < firstPlace history b
  get?_eq : ∀ name, r.get? name = lastNamed? history name
  default_eq : r.default? = history.head?

namespace Keeps

theorem empty : Keeps [] {} where
  toSound := sound_empty
  mem_names := by simp [names, InsertionMap.names]
  in_order := List.Pairwise.nil
  get?_eq _ := rfl
  default_eq := rfl

/-- One more provider comes last for its name, and its name last if it is new. -/
theorem register (h : Keeps history r) (p : Provider) :
    Keeps (history ++ [p]) (r.register p) where
  toSound := h.toSound.register p
  mem_names name := by
    rw [names_register, List.map_append, List.mem_append, ← h.mem_names]
    split
    · rename_i hold
      refine ⟨.inl, fun hname => hname.elim id fun heq => ?_⟩
      rw [List.mem_singleton.1 heq]
      exact hold
    · exact List.mem_append
  in_order := by
    have hkept : r.names.Pairwise fun a b =>
        firstPlace (history ++ [p]) a < firstPlace (history ++ [p]) b := by
      refine h.in_order.imp_of_mem fun ha hb hab => ?_
      rw [firstPlace_append_of_mem ((h.mem_names _).1 ha),
        firstPlace_append_of_mem ((h.mem_names _).1 hb)]
      exact hab
    rw [names_register]
    split
    · exact hkept
    · rename_i hnew
      refine List.pairwise_append.2 ⟨hkept, List.pairwise_singleton _ _, fun a ha b hb => ?_⟩
      rw [List.mem_singleton.1 hb]
      exact firstPlace_lt_of_new ((h.mem_names a).1 ha) (mt (h.mem_names p.name).2 hnew)
  get?_eq name := by
    rw [lastNamed?_append_singleton, ← h.get?_eq]
    exact InsertionMap.get?_put r.entries p.name name p
  default_eq := by
    change r.default?.or (some p) = _
    rw [h.default_eq]
    cases history <;> rfl

end Keeps

/-- What is registered, one after the other, is kept. -/
theorem keeps_registerAll (history : List Provider) :
    Keeps history (({} : Registry).registerAll history) := by
  induction history using List.reverseRecOn with
  | nil => exact .empty
  | append_singleton history p ih =>
    have hlast : ({} : Registry).registerAll (history ++ [p]) =
        (({} : Registry).registerAll history).register p := List.foldl_append
    rw [hlast]
    exact ih.register p

/-! ## All answers -/

/-- The answers of a registry are those that are found in the history. -/
structure Mirrors (history : List Provider) (r : Registry) : Prop where
  /-- Every name once, in the order of the first registrations. -/
  names_nodup : r.names.Nodup
  mem_names : ∀ name, name ∈ r.names ↔ name ∈ history.map (·.name)
  names_in_order : r.names.Pairwise fun a b => firstPlace history a < firstPlace history b
  /-- In the same order, what was registered last under each name. -/
  providers_eq : r.providers.map some = r.names.map (lastNamed? history)
  get?_eq : ∀ name, r.get? name = lastNamed? history name
  get?_eq_none : ∀ name, r.get? name = none ↔ name ∉ history.map (·.name)
  /-- The number of different names. -/
  size_eq : r.size = (history.map (·.name)).toFinset.card
  isEmpty_iff : r.isEmpty = true ↔ history = []
  /-- The very first provider, whose name remains. -/
  default_eq : r.default? = history.head?
  default_named : ∀ p ∈ r.default?, p.name ∈ r.names

namespace Keeps

/-- What stands at a name is what is found under it. -/
theorem providers_eq (h : Keeps history r) :
    r.providers.map some = r.names.map (lastNamed? history) := by
  have hfound : r.providers.map some = r.providers.map fun p => r.get? p.name :=
    List.map_congr_left fun p hp => (h.toSound.get?_of_mem hp).symm
  calc r.providers.map some
      = (r.providers.map (·.name)).map r.get? := by rw [hfound, List.map_map]; rfl
    _ = r.names.map r.get? := by rw [h.toSound.map_name]
    _ = r.names.map (lastNamed? history) := List.map_congr_left fun name _ => h.get?_eq name

theorem size_eq (h : Keeps history r) : r.size = (history.map (·.name)).toFinset.card := by
  have hsame : r.names.toFinset = (history.map (·.name)).toFinset := by
    ext name
    rw [List.mem_toFinset, List.mem_toFinset, h.mem_names]
  rw [← hsame, List.toFinset_card_of_nodup h.nodup]
  exact (List.length_map _).symm

theorem isEmpty_iff (h : Keeps history r) : r.isEmpty = true ↔ history = [] := by
  have hnone : r.names = [] ↔ history.map (·.name) = [] := by
    simp only [List.eq_nil_iff_forall_not_mem, h.mem_names]
  rw [List.map_eq_nil_iff] at hnone
  rw [← hnone, isEmpty, List.isEmpty_iff]
  exact List.map_eq_nil_iff.symm

theorem default_named (h : Keeps history r) : ∀ p ∈ r.default?, p.name ∈ r.names := by
  intro p hp
  rw [h.default_eq] at hp
  rw [h.mem_names]
  exact List.mem_map_of_mem (List.mem_of_head? hp)

theorem mirrors (h : Keeps history r) : Mirrors history r where
  names_nodup := h.nodup
  mem_names := h.mem_names
  names_in_order := h.in_order
  providers_eq := h.providers_eq
  get?_eq := h.get?_eq
  get?_eq_none name := by rw [h.get?_eq, lastNamed?_eq_none_iff]
  size_eq := h.size_eq
  isEmpty_iff := h.isEmpty_iff
  default_eq := h.default_eq
  default_named := h.default_named

end Keeps

end Registry

theorem Gateway.registry_foldl_register (g : Gateway) (history : List Provider) :
    (history.foldl register g).registry = g.registry.registerAll history := by
  induction history generalizing g with
  | nil => rfl
  | cons p history ih => exact ih (g.register p)

/-- **A registry answers from the history of its registrations**: which names there are and in what
order, what stands under each, how many there are and what the default is. So does the registry of a
gateway, of which a name without a provider is an error. -/
theorem Gateway.registrations_are_mirrored (c : RoutingConfig) (services : Services)
    (history : List Provider) :
    (({} : Registry).registerAll history).Mirrors history ∧
    (history.foldl register (ofConfig c services)).registry.Mirrors history ∧
    ∀ name, (history.foldl register (ofConfig c services)).provider name =
      (Registry.lastNamed? history name).elim (.error (.providerNotFound name)) .ok := by
  have hkeeps := Registry.keeps_registerAll history
  have hregistry : (history.foldl register (ofConfig c services)).registry =
      ({} : Registry).registerAll history := registry_foldl_register _ history
  refine ⟨hkeeps.mirrors, ?_, fun name => ?_⟩
  · rw [hregistry]
    exact hkeeps.mirrors
  · rw [provider, hregistry, hkeeps.get?_eq]
    cases Registry.lastNamed? history name <;> rfl

/-- The first of three providers is replaced where it stands, and remains the default. -/
example :
    let r := ({} : Registry).registerAll [⟨{ name := "a", models := [] }, .server 0⟩,
      ⟨{ name := "b", models := [] }, .server 1⟩, ⟨{ name := "a", models := [] }, .server 2⟩]
    r.providers.map (·.origin) = [.server 2, .server 1] ∧
      r.default?.map (·.origin) = some (.server 0) := by
  decide

end ChatGateway
