/-!
# Maps in insertion order

A map from names to values as the list of its entries in the order in which the names were first
put in. Putting a name again replaces its value where it stands.
-/

namespace ChatGateway

/-- The entries of a map, in the order of their first insertion. -/
abbrev InsertionMap (α : Type) := List (String × α)

namespace InsertionMap

variable {α : Type}

/-- The value under a name. -/
def get? : InsertionMap α → String → Option α
  | [], _ => none
  | (key, value) :: rest, name => if key = name then some value else get? rest name

/-- The map with a value under a name: in place of the value there, or at the end. -/
def put : InsertionMap α → String → α → InsertionMap α
  | [], name, value => [(name, value)]
  | (key, old) :: rest, name, value =>
    if key = name then (key, value) :: rest else (key, old) :: put rest name value

/-- The names, in order. -/
def names (m : InsertionMap α) : List String := m.map (·.1)

/-- The values, in order. -/
def values (m : InsertionMap α) : List α := m.map (·.2)

theorem get?_put (m : InsertionMap α) (name other : String) (value : α) :
    get? (put m name value) other = if name = other then some value else get? m other := by
  induction m with
  | nil => simp [put, get?]
  | cons entry rest ih =>
    obtain ⟨key, old⟩ := entry
    by_cases h : key = name <;> by_cases h' : key = other <;> simp_all [put, get?]
    intro hn
    exact absurd hn.symm h

theorem names_put (m : InsertionMap α) (name : String) (value : α) :
    names (put m name value) = if name ∈ names m then names m else names m ++ [name] := by
  induction m with
  | nil => simp [put, names]
  | cons entry rest ih =>
    obtain ⟨key, old⟩ := entry
    by_cases h : key = name
    · simp [put, names, h]
    · have h' : name ≠ key := fun e => h e.symm
      have hp : names (put ((key, old) :: rest) name value) =
          key :: names (put rest name value) := by
        simp [put, h, names]
      have hn : names ((key, old) :: rest) = key :: names rest := rfl
      rw [hp, hn, ih]
      by_cases hm : name ∈ names rest <;> simp [hm, h']

/-- An entry of a map with a value put in is the new one, or was there before. -/
theorem mem_put {m : InsertionMap α} {name other : String} {value v : α}
    (h : (other, v) ∈ put m name value) : (other = name ∧ v = value) ∨ (other, v) ∈ m := by
  induction m with
  | nil => exact .inl (by simpa [put] using h)
  | cons entry rest ih =>
    obtain ⟨key, old⟩ := entry
    unfold put at h
    split at h
    · rename_i hkey
      rcases List.mem_cons.1 h with h | h
      · cases h
        exact .inl ⟨hkey, rfl⟩
      · exact .inr (List.mem_cons_of_mem _ h)
    · rcases List.mem_cons.1 h with h | h
      · exact .inr (h ▸ List.mem_cons_self)
      · exact (ih h).imp_right (List.mem_cons_of_mem _)

/-- What is found under a name stands there. -/
theorem mem_of_get? {m : InsertionMap α} {name : String} {value : α}
    (h : get? m name = some value) : (name, value) ∈ m := by
  induction m with
  | nil => cases h
  | cons entry rest ih =>
    obtain ⟨key, old⟩ := entry
    unfold get? at h
    split at h
    · rename_i hkey
      cases h
      exact hkey ▸ List.mem_cons_self
    · exact List.mem_cons_of_mem _ (ih h)

/-- Where no name stands twice, every entry is found under its name. -/
theorem get?_of_mem {m : InsertionMap α} (hm : (names m).Nodup) {name : String} {value : α}
    (h : (name, value) ∈ m) : get? m name = some value := by
  induction m with
  | nil => cases h
  | cons entry rest ih =>
    obtain ⟨key, old⟩ := entry
    obtain ⟨hkey, hrest⟩ := List.nodup_cons.1 hm
    rcases List.mem_cons.1 h with h | h
    · cases h
      simp [get?]
    · have hne : key ≠ name := fun heq => hkey (heq ▸ List.mem_map_of_mem (f := (·.1)) h)
      rw [get?, if_neg hne, ih hrest h]

end InsertionMap

end ChatGateway
