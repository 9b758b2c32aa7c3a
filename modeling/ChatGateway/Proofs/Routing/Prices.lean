import Mathlib
import ChatGateway.Pricing

/-!
# What a price table remembers

However often prices are set, a table answers as if it looked its answers up in the list of all that
was ever set, the built-in prices first: a model has the price that was set for it last, and a model
without a price has that of the model that its provider was first given one for
(`PriceTable.ofEntries_mirrors`). That another price is set for a model does not move it in the
order of the models, and no provider is without models, so that nothing is given away for want of a
price.
-/

namespace ChatGateway

namespace PriceTable

/-- The built-in prices, one after the other. -/
def listed : List PriceEntry :=
  builtin.flatMap fun entry => entry.2.map fun model => ⟨entry.1, model.1, model.2⟩

/-- The price of a model that was set last. -/
def lastPrice? (sets : List PriceEntry) (provider model : String) : Option Price :=
  (sets.filter fun e => e.provider = provider ∧ e.model = model).getLast?.map (·.price)

/-- The model for which a price of the provider was set first. -/
def firstModel? (sets : List PriceEntry) (provider : String) : Option String :=
  (sets.find? fun e => e.provider = provider).map (·.model)

/-- The models of a provider with their prices. -/
def models (t : PriceTable) (provider : String) : InsertionMap Price :=
  (InsertionMap.get? t provider).getD []

variable {t : PriceTable} {sets : List PriceEntry} {e : PriceEntry} {provider model : String}

/-! ## Lists of prices -/

theorem lastPrice?_append (sets others : List PriceEntry) (provider model : String) :
    lastPrice? (sets ++ others) provider model =
      (lastPrice? others provider model).or (lastPrice? sets provider model) := by
  simp only [lastPrice?, List.filter_append, List.getLast?_append]
  cases (others.filter fun e => e.provider = provider ∧ e.model = model).getLast? <;> rfl

theorem firstModel?_append (sets others : List PriceEntry) (provider : String) :
    firstModel? (sets ++ others) provider =
      (firstModel? sets provider).or (firstModel? others provider) := by
  simp only [firstModel?, List.find?_append]
  cases sets.find? fun e => e.provider = provider <;> rfl

theorem lastPrice?_singleton (e : PriceEntry) (provider model : String) :
    lastPrice? [e] provider model =
      if e.provider = provider ∧ e.model = model then some e.price else none := by
  by_cases h : e.provider = provider ∧ e.model = model <;> simp [lastPrice?, h]

theorem firstModel?_singleton (e : PriceEntry) (provider : String) :
    firstModel? [e] provider = if e.provider = provider then some e.model else none := by
  by_cases h : e.provider = provider <;> simp [firstModel?, h]

theorem mem_of_lastPrice? {p : Price} (h : lastPrice? sets provider model = some p) :
    ∃ e ∈ sets, e.provider = provider ∧ e.price = p := by
  obtain ⟨e, he, rfl⟩ := Option.map_eq_some_iff.1 h
  obtain ⟨hmem, hname⟩ := List.mem_filter.1 (List.mem_of_getLast? he)
  exact ⟨e, hmem, (of_decide_eq_true hname).1, rfl⟩

/-- The model that comes first has a price. -/
theorem lastPrice?_of_firstModel? (h : firstModel? sets provider = some model) :
    ∃ p, lastPrice? sets provider model = some p := by
  obtain ⟨e, he, hmodel⟩ := Option.map_eq_some_iff.1 h
  have hprovider := List.find?_some he
  have hmem : e ∈ sets.filter fun e => e.provider = provider ∧ e.model = model := by
    rw [List.mem_filter]
    exact ⟨List.mem_of_find?_eq_some he, by simpa [hmodel] using hprovider⟩
  obtain ⟨last, hlast⟩ := Option.isSome_iff_exists.1
    (List.getLast?_isSome.2 (List.ne_nil_of_mem hmem))
  exact ⟨last.price, by rw [lastPrice?, hlast]; rfl⟩

theorem firstModel?_eq_none_iff :
    firstModel? sets provider = none ↔ ∀ e ∈ sets, e.provider ≠ provider := by
  simp [firstModel?]

/-! ## One price is set -/

theorem get?_set (t : PriceTable) (name model : String) (price : Price) (provider : String) :
    InsertionMap.get? (t.set name model price) provider =
      if name = provider then some (InsertionMap.put (t.models name) model price)
      else InsertionMap.get? t provider := by
  rw [set, InsertionMap.get?_put]
  rfl

theorem models_set (t : PriceTable) (name model : String) (price : Price) (provider : String) :
    (t.set name model price).models provider =
      if name = provider then InsertionMap.put (t.models name) model price
      else t.models provider := by
  rw [models, get?_set]
  split <;> rfl

/-- Setting a price puts no model before the first. -/
theorem head?_names_put (m : InsertionMap Price) (name : String) (price : Price) :
    (InsertionMap.put m name price).names.head? = m.names.head?.or (some name) := by
  rw [InsertionMap.names_put]
  cases m with
  | nil => simp [InsertionMap.names]
  | cons entry rest => split <;> simp [InsertionMap.names]

theorem put_ne_nil (m : InsertionMap Price) (name : String) (price : Price) :
    InsertionMap.put m name price ≠ [] := by
  intro hnil
  have hhead := head?_names_put m name price
  rw [hnil] at hhead
  cases m.names.head? <;> simp [InsertionMap.names] at hhead

/-- The table is what setting these prices in this order makes of an empty one. -/
structure Keeps (sets : List PriceEntry) (t : PriceTable) : Prop where
  own_price : ∀ provider model,
    InsertionMap.get? (t.models provider) model = lastPrice? sets provider model
  first_model : ∀ provider, (t.models provider).names.head? = firstModel? sets provider
  models_ne_nil : ∀ entry ∈ t, entry.2 ≠ []

namespace Keeps

theorem empty : Keeps [] [] where
  own_price _ _ := rfl
  first_model _ := rfl
  models_ne_nil := by simp

/-- One more price comes last for its model, and its model last for its provider if it is new. -/
theorem set (hk : Keeps sets t) (e : PriceEntry) :
    Keeps (sets ++ [e]) (t.set e.provider e.model e.price) where
  own_price provider model := by
    have hown := hk.own_price provider model
    rw [models_set, lastPrice?_append, lastPrice?_singleton]
    by_cases hprovider : e.provider = provider
    · subst hprovider
      rw [if_pos rfl, InsertionMap.get?_put, hown]
      by_cases hmodel : e.model = model <;> simp [hmodel]
    · rw [if_neg hprovider, hown]
      simp [hprovider]
  first_model provider := by
    have hfirst := hk.first_model provider
    rw [models_set, firstModel?_append, firstModel?_singleton]
    by_cases hprovider : e.provider = provider
    · subst hprovider
      rw [if_pos rfl, if_pos rfl, head?_names_put, hfirst]
    · rw [if_neg hprovider, if_neg hprovider, hfirst, Option.or_none]
  models_ne_nil := by
    rintro ⟨name, entries⟩ hentry
    obtain ⟨-, hput⟩ | hold := InsertionMap.mem_put hentry
    · rw [hput]
      exact put_ne_nil _ e.model e.price
    · exact hk.models_ne_nil _ hold

theorem setAll (hk : Keeps sets t) (entries : List PriceEntry) :
    Keeps (sets ++ entries) (t.setAll entries) := by
  induction entries generalizing sets t with
  | nil => simpa [PriceTable.setAll] using hk
  | cons e rest ih =>
    have hrest := ih (hk.set e)
    rwa [List.append_assoc] at hrest

/-- **A price is looked up**: the own price of the model, or that of the provider's first. -/
theorem price?_eq (hk : Keeps sets t) (provider model : String) :
    t.price? provider model =
      (lastPrice? sets provider model).or
        ((firstModel? sets provider).bind (lastPrice? sets provider)) := by
  have hown := hk.own_price provider
  have hfirst := hk.first_model provider
  unfold price?
  cases hget : InsertionMap.get? t provider with
  | none =>
    rw [← hown, ← hfirst, models, hget]
    rfl
  | some entries =>
    have hne := hk.models_ne_nil _ (InsertionMap.mem_of_get? hget)
    rw [models, hget] at hown hfirst
    cases entries with
    | nil => exact absurd rfl hne
    | cons entry rest =>
      obtain ⟨first, price⟩ := entry
      have hprice : lastPrice? sets provider first = some price := by
        rw [← hown first]
        simp [InsertionMap.get?]
      have hname : firstModel? sets provider = some first := hfirst.symm
      rw [← hown model, hname, Option.bind_some, hprice]
      simp only [Option.getD_some]
      cases InsertionMap.get? ((first, price) :: rest) model <;> rfl

theorem price?_eq_none_iff (hk : Keeps sets t) (provider model : String) :
    t.price? provider model = none ↔ ∀ e ∈ sets, e.provider ≠ provider := by
  rw [hk.price?_eq, Option.or_eq_none_iff, ← firstModel?_eq_none_iff]
  constructor
  · rintro ⟨-, hnone⟩
    cases hfirst : firstModel? sets provider with
    | none => rfl
    | some first =>
      obtain ⟨p, hp⟩ := lastPrice?_of_firstModel? hfirst
      rw [hfirst, Option.bind_some, hp] at hnone
      cases hnone
  · intro hfirst
    refine ⟨?_, by rw [hfirst]; rfl⟩
    rw [firstModel?_eq_none_iff] at hfirst
    rw [Option.eq_none_iff_forall_ne_some]
    intro p hp
    obtain ⟨e, hmem, hprovider, -⟩ := mem_of_lastPrice? hp
    exact hfirst e hmem hprovider

/-- A price that is found was set for the provider. -/
theorem mem_of_price? (hk : Keeps sets t) {p : Price} (h : t.price? provider model = some p) :
    ∃ e ∈ sets, e.provider = provider ∧ e.price = p := by
  rw [hk.price?_eq, Option.or_eq_some_iff] at h
  obtain h | ⟨-, h⟩ := h
  · exact mem_of_lastPrice? h
  · obtain ⟨first, -, hp⟩ := Option.bind_eq_some_iff.1 h
    exact mem_of_lastPrice? hp

end Keeps

/-- Setting a price of one provider leaves those of the others. -/
theorem price?_set_of_ne (t : PriceTable) {name : String} (hne : name ≠ provider) (own : String)
    (price : Price) (model : String) :
    (t.set name own price).price? provider model = t.price? provider model := by
  simp only [price?, get?_set, if_neg hne]

/-- The built-in prices are set like others. -/
theorem keeps_builtin : Keeps listed builtin := by
  have hbuiltin : PriceTable.setAll [] listed = builtin := by decide
  rw [← hbuiltin]
  exact Keeps.empty.setAll listed

/-! ## All that is set -/

/-- The price of a model after these were set: the last of them, or else the built-in one. -/
def current? (sets : List PriceEntry) (provider model : String) : Option Price :=
  (lastPrice? sets provider model).or (lastPrice? listed provider model)

/-- The table answers as if it looked its answers up in what is built in and what was set. -/
structure Mirrors (sets : List PriceEntry) (t : PriceTable) : Prop where
  /-- A model without a price has that of the provider's first model, as it is by now. -/
  price?_eq : ∀ provider model, t.price? provider model =
    (current? sets provider model).or
      ((firstModel? (listed ++ sets) provider).bind (current? sets provider))
  /-- Only a provider for which nothing is built in and nothing was set has no prices. -/
  price?_eq_none_iff : ∀ provider model,
    t.price? provider model = none ↔ ∀ e ∈ listed ++ sets, e.provider ≠ provider
  /-- There is always a first model, so that no price is made up. -/
  models_ne_nil : ∀ entry ∈ t, entry.2 ≠ []
  mem_of_price? : ∀ provider model p, t.price? provider model = some p →
    ∃ e ∈ listed ++ sets, e.provider = provider ∧ e.price = p
  /-- One more price of a provider changes none of the others. -/
  others_unchanged : ∀ (e : PriceEntry) (provider model : String), e.provider ≠ provider →
    (t.set e.provider e.model e.price).price? provider model = t.price? provider model

theorem Keeps.mirrors (hk : Keeps (listed ++ sets) t) : Mirrors sets t where
  price?_eq provider model := by
    have hcurrent : current? sets provider = lastPrice? (listed ++ sets) provider := by
      funext model
      rw [lastPrice?_append, current?]
    rw [hk.price?_eq, hcurrent]
  price?_eq_none_iff := hk.price?_eq_none_iff
  models_ne_nil := hk.models_ne_nil
  mem_of_price? _ _ _ := hk.mem_of_price?
  others_unchanged e _ model hne := t.price?_set_of_ne hne e.model e.price model

/-- **A price table mirrors what was set**, when it was made and since then, in any order and
however often. -/
theorem ofEntries_mirrors (overrides updates : List PriceEntry) :
    Mirrors (overrides ++ updates) ((ofEntries overrides).setAll updates) := by
  have hk := (keeps_builtin.setAll overrides).setAll updates
  rw [List.append_assoc] at hk
  exact hk.mirrors

/-- The first model keeps its place when it is given another price. -/
example : ((ofEntries [⟨"openai", "gpt-5", ⟨9.0, 9.0⟩⟩]).setAll
    [⟨"openai", "gpt-4o", ⟨2.5, 10.0⟩⟩]).price? "openai" "gpt-6" = some ⟨2.5, 10.0⟩ := by
  decide

end PriceTable

end ChatGateway
