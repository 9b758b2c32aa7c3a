import Mathlib.Data.List.Nodup
import ChatGateway.Chat.Wire
import ChatGateway.InsertionMap
import ChatGateway.Proofs.Binary64.Magnitude

/-!
# Records that are written and read

A record is written as an object with one member for every field that is there. Read as a record
again, the object gives every field back (`Fields.ofJson?_membersOf`), and from there a field is
read as it was written. What is read from a tree is a tree, so its numbers are finite
(`IsTree.isFinite_of_asFloat?`). `RoundTrips` says of a written form that it can be read back.
-/

namespace ChatGateway.Json

variable {α : Type} {members : List (String × Json)} {names : List String} {key name : String}
  {j : Json} {f : Fields}

/-! ## Trees -/

/-- The value is made of what documents are made of: whole numbers of 64 bits, finite doubles, and
nothing that cannot be read. -/
inductive IsTree : Json → Prop where
  | null : IsTree .null
  | bool (b : Bool) : IsTree (.bool b)
  | int {n : Int} (low : -0x8000000000000000 ≤ n) (high : n < 0x10000000000000000) :
    IsTree (.int n)
  | real {x : Float} (finite : x.isFinite) : IsTree (.real x)
  | str (s : String) : IsTree (.str s)
  | arr {items : List Json} (items_tree : ∀ j ∈ items, IsTree j) : IsTree (.arr items)
  | obj {members : List (String × Json)} (members_tree : ∀ m ∈ members, IsTree m.2) :
    IsTree (.obj members)

theorem isTree_ofFloat (x : Float) : IsTree (.ofFloat x) := by
  unfold ofFloat
  split
  · exact .real (by assumption)
  · exact .null

theorem isTree_uint32 (n : UInt32) : IsTree (.int n.toNat) := by
  have hn := n.toNat_lt
  exact .int (by omega) (by omega)

theorem isTree_uint64 (n : UInt64) : IsTree (.int n.toNat) := by
  have hn := n.toNat_lt
  exact .int (by omega) (by omega)

/-- A number in a tree is finite. -/
theorem IsTree.isFinite_of_asFloat? (hj : IsTree j) {x : Float} (h : asFloat? j = some x) :
    x.isFinite := by
  cases hj with
  | int low high =>
    cases h
    exact Binary64.isFinite_ofWhole (by omega)
  | real finite =>
    cases h
    exact finite
  | _ => cases h

/-! ## Members by their keys -/

theorem mem_of_mem_valuesOf (h : j ∈ valuesOf members key) : (key, j) ∈ members := by
  obtain ⟨⟨k, v⟩, hfilter, rfl⟩ := List.mem_map.1 h
  obtain ⟨hmem, hkey⟩ := List.mem_filter.1 hfilter
  obtain rfl : k = key := of_decide_eq_true hkey
  exact hmem

theorem valuesOf_append (members others : List (String × Json)) (key : String) :
    valuesOf (members ++ others) key = valuesOf members key ++ valuesOf others key := by
  simp [valuesOf]

theorem valuesOf_optionalMember (name key : String) (o : Option Json) :
    valuesOf (optionalMember name o) key = if name = key then o.toList else [] := by
  cases o <;> by_cases h : name = key <;> simp [optionalMember, valuesOf, h]

/-- Every field of a tree is a tree. -/
theorem IsTree.of_field {dialect : Dialect} {extra : Extra} (hj : IsTree j)
    (hf : Fields.ofJson? dialect names extra j = some f) {v : Json} (hv : f name = some v) :
    IsTree v := by
  cases hj with
  | arr items_tree =>
    simp only [Fields.ofJson?, Option.ite_none_right_eq_some, Option.some.injEq] at hf
    obtain ⟨-, rfl⟩ := hf
    dsimp only at hv
    split at hv
    · exact items_tree _ (List.mem_of_getElem? hv)
    · cases hv
  | obj members_tree =>
    simp only [Fields.ofJson?, Option.ite_none_right_eq_some, Option.some.injEq] at hf
    obtain ⟨-, rfl⟩ := hf
    dsimp only at hv
    split at hv
    · exact members_tree _ (mem_of_mem_valuesOf (List.mem_of_head? hv))
    · cases hv
  | _ => cases hf

/-! ## Fields that are written -/

/-- The members for fields of which some may be absent. -/
def membersOf (fields : InsertionMap (Option Json)) : List (String × Json) :=
  fields.flatMap fun field => optionalMember field.1 field.2

variable {fields : InsertionMap (Option Json)}

theorem isTree_membersOf (h : ∀ field ∈ fields, ∀ j ∈ field.2, IsTree j) :
    IsTree (.obj (membersOf fields)) := by
  refine .obj fun m hm => ?_
  obtain ⟨⟨name, o⟩, hfield, hm⟩ := List.mem_flatMap.1 hm
  cases o with
  | none => cases hm
  | some j =>
    obtain rfl : m = (name, j) := List.mem_singleton.1 hm
    exact h _ hfield j rfl

/-- Where no key stands twice, there is one value for a field that is there. -/
theorem valuesOf_membersOf (hkeys : fields.names.Nodup) (key : String) :
    valuesOf (membersOf fields) key = (fields.get? key).join.toList := by
  induction fields with
  | nil => rfl
  | cons field rest ih =>
    obtain ⟨name, o⟩ := field
    obtain ⟨hname, hrest⟩ := List.nodup_cons.1 hkeys
    change valuesOf (optionalMember name o ++ membersOf rest) key = _
    rw [valuesOf_append, valuesOf_optionalMember, ih hrest, InsertionMap.get?]
    split
    · rename_i heq
      have hnone : InsertionMap.get? rest key = none :=
        Option.eq_none_iff_forall_ne_some.2 fun o' ho' =>
          hname (heq ▸ List.mem_map_of_mem (f := (·.1)) (InsertionMap.mem_of_get? ho'))
      rw [hnone]
      exact List.append_nil _
    · rfl

/-- **Fields are read as they were written.** -/
theorem Fields.ofJson?_membersOf (names : List String) (fields : InsertionMap (Option Json))
    (hnames : fields.names = names) (hdistinct : names.Nodup) :
    ∃ f, Fields.ofJson? .json names .ignored (.obj (membersOf fields)) = some f ∧
      ∀ name o, (name, o) ∈ fields → f name = o := by
  subst hnames
  have honce : declaredOnce fields.names (membersOf fields) := by
    refine List.all_eq_true.2 fun name _ => ?_
    rw [valuesOf_membersOf hdistinct]
    cases (fields.get? name).join <;> rfl
  refine ⟨_, if_pos ⟨honce, nofun⟩, fun name o hmem => ?_⟩
  have hdeclared : name ∈ fields.names := List.mem_map_of_mem (f := (·.1)) hmem
  rw [if_pos hdeclared, valuesOf_membersOf hdistinct, InsertionMap.get?_of_mem hdistinct hmem]
  cases o <;> rfl

variable {read : Json → Option α}

theorem Fields.required_of_eq {v : Json} {a : α} (hf : f name = some v) (hread : read v = some a) :
    f.required name read = some a := by
  rw [required, hf]
  exact hread

theorem Fields.orElse_of_eq {v : Json} {default a : α} (hf : f name = some v)
    (hread : read v = some a) : f.orElse name default read = some a := by
  rw [orElse, hf]
  exact hread

/-- What is written of an option is not taken for nothing. -/
theorem Fields.optional_of_eq (write : α → Json) {o : Option α} (hf : f name = o.map write)
    (hread : ∀ a ∈ o, write a ≠ .null ∧ read (write a) = some a) :
    f.optional name read = some o := by
  cases o with
  | none => rw [optional, hf]; rfl
  | some a =>
    obtain ⟨hnull, ha⟩ := hread a rfl
    simp only [optional, hf, Option.map_some, ha]

/-- An option that is there was read from a field. -/
theorem Fields.field_of_optional {a : α} (h : f.optional name read = some (some a)) :
    ∃ v, f name = some v ∧ read v = some a := by
  unfold optional at h
  split at h
  · cases h
  · cases h
  · rename_i v _ hv
    obtain ⟨a', ha', heq⟩ := Option.map_eq_some_iff.1 h
    cases heq
    exact ⟨v, hv, ha'⟩

/-- An optional number that was read from a tree is finite. -/
theorem Fields.isFinite_of_optional {dialect : Dialect} {extra : Extra} (hj : IsTree j)
    (hf : Fields.ofJson? dialect names extra j = some f) {x : Float}
    (h : f.optional name asFloat? = some (some x)) : x.isFinite := by
  obtain ⟨v, hv, hread⟩ := field_of_optional h
  exact (hj.of_field hf hv).isFinite_of_asFloat? hread

/-! ## Lists -/

theorem asList?_map (write : α → Json) {as : List α} (hread : ∀ a, read (write a) = some a) :
    asList? read (.arr (as.map write)) = some as := by
  change (as.map write).mapM read = some as
  induction as with
  | nil => rfl
  | cons a as ih => simp [hread, ih]

theorem isTree_map {write : α → Json} (hwrite : ∀ a, IsTree (write a)) (as : List α) :
    IsTree (.arr (as.map write)) :=
  .arr (List.forall_mem_map.2 fun a _ => hwrite a)

/-! ## Written forms -/

/-- What is written is a tree, and it is read back if and only if its numbers are finite, as those
are that were read from a tree. So a tree that was read and written again is left as it is by
another round. -/
structure RoundTrips (write : α → Json) (read : Json → Option α) (finite : α → Prop) : Prop where
  isTree_write : ∀ a, IsTree (write a)
  read_write_iff : ∀ a, read (write a) = some a ↔ finite a
  finite_of_read : ∀ j a, IsTree j → read j = some a → finite a
  again : ∀ j j', IsTree j → (read j).map write = some j' → (read j').map write = some j'

theorem RoundTrips.of_read_write {write : α → Json} {finite : α → Prop}
    (isTree_write : ∀ a, IsTree (write a)) (read_write : ∀ a, finite a → read (write a) = some a)
    (finite_of_read : ∀ j a, IsTree j → read j = some a → finite a) :
    RoundTrips write read finite where
  isTree_write := isTree_write
  read_write_iff a := ⟨finite_of_read _ a (isTree_write a), read_write a⟩
  finite_of_read := finite_of_read
  again j j' hj h := by
    obtain ⟨a, ha, rfl⟩ := Option.map_eq_some_iff.1 h
    rw [read_write a (finite_of_read j a hj ha), Option.map_some]

/-- Where there are no numbers but whole ones, everything is read back. -/
theorem RoundTrips.of_always {write : α → Json} (isTree_write : ∀ a, IsTree (write a))
    (read_write : ∀ a, read (write a) = some a) : RoundTrips write read fun _ => True :=
  .of_read_write isTree_write (fun a _ => read_write a) fun _ _ _ _ => trivial

end ChatGateway.Json
