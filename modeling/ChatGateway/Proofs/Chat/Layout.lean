import Mathlib.Data.List.Perm.Basic
import Mathlib.Logic.Relation
import ChatGateway.Proofs.Chat.Places
import ChatGateway.Proofs.Json.Records

/-!
# The layout of a document does not matter

A document may list the members of its records in any order, and add members that nobody asks for.
`Rearranges` changes one record of a document so, however deep it stands; several of its steps, back
and forth, change the whole layout. What is read is the same then, and what cannot be read cannot be
read then either. A record that gives a declared key more than once (`Repeats`) is not read at all,
and neither is anything that it is nested in (`reading_ignores_layout`).
-/

namespace ChatGateway

open Json

namespace Place

/-- One record of the value at a place is laid out differently. -/
inductive Rearranges : Place → Json → Json → Prop where
  /-- The members stand in another order. -/
  | order {p : Place} {members members' : List (String × Json)} (record : p.isRecord = true)
    (perm : members.Perm members') : Rearranges p (.obj members) (.obj members')
  /-- There is one more member, which is not declared and can be followed to its end. -/
  | extra {p : Place} {members : List (String × Json)} {key : String} {v : Json}
    (record : p.isRecord = true) (undeclared : key ∉ (p.fields (.obj members)).map (·.1))
    (usable : v.usable = true) : Rearranges p (.obj members) (.obj ((key, v) :: members))
  /-- It is a record within a declared member. -/
  | member {p q : Place} {before after : List (String × Json)} {key : String} {v v' : Json}
    (declared : (key, q) ∈ p.fields (.obj (before ++ (key, v) :: after)))
    (inner : Rearranges q v v') :
    Rearranges p (.obj (before ++ (key, v) :: after)) (.obj (before ++ (key, v') :: after))
  /-- It is a record within an item of an array. -/
  | item {p q : Place} {before after : List Json} {v v' : Json}
    (place : p.item? (.arr (before ++ v :: after)) before.length = some q)
    (inner : Rearranges q v v') :
    Rearranges p (.arr (before ++ v :: after)) (.arr (before ++ v' :: after))

/-- Some record of the value at a place gives a declared key more than once. -/
inductive Repeats : Place → Json → Prop where
  | here {p : Place} {members : List (String × Json)} {key : String}
    (declared : key ∈ (p.fields (.obj members)).map (·.1))
    (twice : 1 < (valuesOf members key).length) : Repeats p (.obj members)
  | member {p q : Place} {members : List (String × Json)} {key : String} {v : Json}
    (declared : (key, q) ∈ p.fields (.obj members)) (mem : (key, v) ∈ members)
    (inner : Repeats q v) : Repeats p (.obj members)
  | item {p q : Place} {items : List Json} {i : Nat} {v : Json}
    (place : p.item? (.arr items) i = some q) (found : items[i]? = some v)
    (inner : Repeats q v) : Repeats p (.arr items)

variable {p q : Place} {j j' v v' : Json} {key name : String}
  {members members' : List (String × Json)} {items before after : List Json}
  {decl : List (String × Place)}

/-! ## Members by their keys -/

/-- What a reader of records can tell of the values of one key: that there is none, what the only
one reads as, or that there are several. -/
inductive AlikeValues (q : Place) : List Json → List Json → Prop where
  | absent : AlikeValues q [] []
  | single {v v' : Json} (alike : Alike q v v') : AlikeValues q [v] [v']
  | several {vs vs' : List Json} (h : 1 < vs.length) (h' : 1 < vs'.length) : AlikeValues q vs vs'

theorem AlikeValues.of_perm {vs vs' : List Json} (h : vs.Perm vs') : AlikeValues q vs vs' := by
  match vs with
  | [] =>
    rw [List.nil_perm.1 h]
    exact .absent
  | [v] =>
    rw [List.perm_singleton.1 h.symm]
    exact .single (.refl q v)
  | _ :: _ :: _ =>
    have hlen := h.length_eq
    simp only [List.length_cons] at hlen
    exact .several (by simp) (by omega)

theorem AlikeValues.replace (hv : Alike q v v') (vs ws : List Json) :
    AlikeValues q (vs ++ v :: ws) (vs ++ v' :: ws) := by
  match vs, ws with
  | [], [] => exact .single hv
  | _ :: _, _ | [], _ :: _ => exact .several (by simp) (by simp)

theorem AlikeValues.once_iff {vs vs' : List Json} (h : AlikeValues q vs vs') :
    vs.length ≤ 1 ↔ vs'.length ≤ 1 := by
  cases h with
  | absent | single => rfl
  | several h h' => omega

/-- The values of every declared key are alike. -/
def AlikeMembers (decl : List (String × Place)) (members members' : List (String × Json)) : Prop :=
  ∀ d ∈ decl, AlikeValues d.2 (valuesOf members d.1) (valuesOf members' d.1)

theorem perm_valuesOf (h : members.Perm members') (key : String) :
    (valuesOf members key).Perm (valuesOf members' key) :=
  (h.filter _).map _

theorem valuesOf_cons (key : String) (v : Json) (members : List (String × Json)) (name : String) :
    valuesOf ((key, v) :: members) name =
      if key = name then v :: valuesOf members name else valuesOf members name := by
  by_cases h : key = name <;> simp [valuesOf, h]

/-- The tag is not among the values of what a part holds. -/
theorem valuesOf_filter (h : name ≠ key) (members : List (String × Json)) :
    valuesOf (members.filter fun m => m.1 ≠ key) name = valuesOf members name := by
  unfold valuesOf
  rw [List.filter_filter]
  congr 1
  refine List.filter_congr fun m _ => ?_
  by_cases hm : m.1 = name <;> simp [hm, h]

theorem alikeMembers_of_perm (h : members.Perm members') : AlikeMembers decl members members' :=
  fun d _ => .of_perm (perm_valuesOf h d.1)

theorem alikeMembers_cons (h : key ∉ decl.map (·.1)) (v : Json) (members : List (String × Json)) :
    AlikeMembers decl members ((key, v) :: members) := fun d hd => by
  have hkey : key ≠ d.1 := fun heq => h (heq ▸ List.mem_map_of_mem hd)
  rw [valuesOf_cons, if_neg hkey]
  exact .of_perm (.refl _)

/-- Where keys are declared once, one value for a declared key may be replaced by one that is alike
at its place. -/
theorem alikeMembers_replace (hnames : (decl.map (·.1)).Nodup) (hq : (key, q) ∈ decl)
    (hv : Alike q v v') (before after : List (String × Json)) :
    AlikeMembers decl (before ++ (key, v) :: after) (before ++ (key, v') :: after) := by
  intro d hd
  rw [valuesOf_append, valuesOf_append, valuesOf_cons, valuesOf_cons]
  split
  · rename_i heq
    obtain rfl : (key, q) = d := List.inj_on_of_nodup_map hnames hq hd heq
    exact .replace hv _ _
  · exact .of_perm (.refl _)

/-! ## Fields -/

/-- A declared key is given at most one value, which is the field. -/
theorem valuesOf_of_fields {names : List String} {f : Fields}
    (hf : Fields.ofJson? .json names .ignored (.obj members) = some f) (hname : name ∈ names) :
    valuesOf members name = (f name).toList := by
  simp only [Fields.ofJson?, Option.ite_none_right_eq_some, Option.some.injEq] at hf
  obtain ⟨⟨honce, -⟩, rfl⟩ := hf
  have hle : (valuesOf members name).length ≤ 1 :=
    of_decide_eq_true (List.all_eq_true.1 honce name hname)
  dsimp only
  rw [if_pos hname]
  generalize valuesOf members name = vs at hle ⊢
  rcases vs with _ | ⟨v, _ | ⟨w, vs⟩⟩
  · rfl
  · rfl
  · simp at hle

/-- A field is the item at the position of its key. -/
theorem item_of_fields {names : List String} {f : Fields}
    (hf : Fields.ofJson? .json names .ignored (.arr items) = some f) (hname : name ∈ names) :
    f name = items[names.idxOf name]? := by
  simp only [Fields.ofJson?, Option.ite_none_right_eq_some, Option.some.injEq] at hf
  obtain ⟨-, rfl⟩ := hf
  exact if_pos hname

/-- Alike members give alike fields, or none in both. -/
theorem alikeFields_obj (h : AlikeMembers decl members members') :
    Option.Rel (AlikeFields decl)
      (Fields.ofJson? .json (decl.map (·.1)) .ignored (.obj members))
      (Fields.ofJson? .json (decl.map (·.1)) .ignored (.obj members')) := by
  have honce : declaredOnce (decl.map (·.1)) members = declaredOnce (decl.map (·.1)) members' := by
    unfold declaredOnce
    rw [Bool.eq_iff_iff, List.all_eq_true, List.all_eq_true, List.forall_mem_map,
      List.forall_mem_map]
    exact forall₂_congr fun d hd => by
      rw [decide_eq_true_iff, decide_eq_true_iff, (h d hd).once_iff]
  simp only [Fields.ofJson?, reduceCtorEq, false_implies, and_true, honce]
  split
  · rename_i honce'
    refine .some fun d hd => ?_
    have hmem : d.1 ∈ decl.map (·.1) := List.mem_map_of_mem hd
    have hle : (valuesOf members' d.1).length ≤ 1 :=
      of_decide_eq_true (List.all_eq_true.1 honce' _ hmem)
    rw [if_pos hmem, if_pos hmem]
    have hd := h d hd
    generalize valuesOf members d.1 = vs at hd
    generalize valuesOf members' d.1 = vs' at hd hle
    cases hd with
    | absent => exact .none
    | single alike => exact .some alike
    | several h h' => omega
  · exact .none

theorem getElem?_replace {i : Nat} (h : i ≠ before.length) (v v' : Json) (after : List Json) :
    (before ++ v :: after)[i]? = (before ++ v' :: after)[i]? := by
  rw [List.getElem?_append, List.getElem?_append]
  split
  · rfl
  · obtain ⟨k, hk⟩ : ∃ k, i - before.length = k + 1 := ⟨i - before.length - 1, by omega⟩
    rw [hk, List.getElem?_cons_succ, List.getElem?_cons_succ]

/-- The position of a key that is declared once. -/
theorem idxOf_declared (hnames : (decl.map (·.1)).Nodup) {i : Nat} {d : String × Place}
    (hd : decl[i]? = some d) : (decl.map (·.1)).idxOf d.1 = i := by
  obtain ⟨hi, rfl⟩ := List.getElem?_eq_some_iff.1 hd
  have h := hnames.idxOf_getElem i (by rwa [List.length_map])
  rwa [List.getElem_map] at h

/-- Where keys are declared once, an array may have an item at a declared position replaced by one
that is alike at its place. -/
theorem alikeFields_arr (hnames : (decl.map (·.1)).Nodup)
    (hq : (decl[before.length]?).map (·.2) = some q) (hv : Alike q v v') (after : List Json) :
    Option.Rel (AlikeFields decl)
      (Fields.ofJson? .json (decl.map (·.1)) .ignored (.arr (before ++ v :: after)))
      (Fields.ofJson? .json (decl.map (·.1)) .ignored (.arr (before ++ v' :: after))) := by
  simp only [Fields.ofJson?, reduceCtorEq, false_or, List.length_append, List.length_cons]
  split
  · refine .some fun d hd => ?_
    obtain ⟨i, hi⟩ := List.mem_iff_getElem?.1 hd
    have hmem : d.1 ∈ decl.map (·.1) := List.mem_map_of_mem hd
    rw [if_pos hmem, if_pos hmem, idxOf_declared hnames hi]
    by_cases heq : i = before.length
    · subst heq
      obtain rfl : d.2 = q := by rwa [hi, Option.map_some, Option.some_inj] at hq
      simpa using hv
    · rw [getElem?_replace heq v v' after]
      cases (before ++ v' :: after)[i]? with
      | none => exact .none
      | some w => exact .some (.refl _ w)
  · exact .none

/-! ## Readers of records -/

section

variable {α : Type} {read : Json → Option α}

theorem ReadsRecord.eq_of_alike (h : ReadsRecord read decl)
    (hf : Option.Rel (AlikeFields decl) (Fields.ofJson? .json (decl.map (·.1)) .ignored j)
      (Fields.ofJson? .json (decl.map (·.1)) .ignored j')) : read j = read j' := by
  obtain ⟨build, hbuild, hread⟩ := h
  rw [hread, hread]
  generalize Fields.ofJson? .json (decl.map (·.1)) .ignored j = o at hf ⊢
  generalize Fields.ofJson? .json (decl.map (·.1)) .ignored j' = o' at hf ⊢
  cases hf with
  | none => rfl
  | some h => exact hbuild.congr _ _ h

/-- A record with a repeated key has no fields. -/
theorem ReadsRecord.eq_none_of_repeated (h : ReadsRecord read decl) (hkey : key ∈ decl.map (·.1))
    (twice : 1 < (valuesOf members key).length) : read (.obj members) = none := by
  obtain ⟨build, -, hread⟩ := h
  rw [hread, Option.bind_eq_none_iff]
  intro f hf
  rw [valuesOf_of_fields hf hkey] at twice
  exact absurd twice (Nat.not_lt.2 Option.length_toList_le)

/-- A record with a member that cannot be read cannot be read. -/
theorem ReadsRecord.eq_none_of_member (h : ReadsRecord read decl) (hkey : (key, q) ∈ decl)
    (hmem : (key, v) ∈ members) (hnull : v ≠ .null) (hv : q.read? v = none) :
    read (.obj members) = none := by
  obtain ⟨build, hbuild, hread⟩ := h
  rw [hread, Option.bind_eq_none_iff]
  intro f hf
  refine hbuild.fails f _ hkey v ?_ hnull hv
  have hvalue : v ∈ valuesOf members key :=
    List.mem_map.2 ⟨_, List.mem_filter.2 ⟨hmem, decide_eq_true rfl⟩, rfl⟩
  rw [valuesOf_of_fields hf (List.mem_map_of_mem (f := (·.1)) hkey)] at hvalue
  exact Option.mem_toList.1 hvalue

/-- A record with an item that cannot be read cannot be read. -/
theorem ReadsRecord.eq_none_of_item (h : ReadsRecord read decl) (hnames : (decl.map (·.1)).Nodup)
    {i : Nat} (hq : (decl[i]?).map (·.2) = some q) (hitem : items[i]? = some v)
    (hnull : v ≠ .null) (hv : q.read? v = none) : read (.arr items) = none := by
  obtain ⟨d, hd, rfl⟩ := Option.map_eq_some_iff.1 hq
  have hmem := List.mem_of_getElem? hd
  obtain ⟨build, hbuild, hread⟩ := h
  rw [hread, Option.bind_eq_none_iff]
  intro f hf
  refine hbuild.fails f d hmem v ?_ hnull hv
  rw [item_of_fields hf (List.mem_map_of_mem hmem), idxOf_declared hnames hd, hitem]

end

/-! ## What places declare -/

theorem fields_of_ne_part (h : p ≠ .part) (j : Json) : p.fields j = p.declares := by
  unfold fields
  split
  · exact absurd rfl h
  · rfl

theorem fields_part {k : PartKind} (hk : kindOf? j = some k) :
    fields .part j = [("type", .plain), (k.name, k.place)] := by
  simp [fields, hk]

theorem fields_part_of_no_kind (hk : kindOf? j = none) : fields .part j = [("type", .plain)] := by
  simp [fields, hk]

/-- No place declares a key twice. -/
theorem nodup_declares (p : Place) : (p.declares.map (·.1)).Nodup := by
  cases p with
  | list => exact List.nodup_nil
  | _ => decide

theorem nodup_fields (p : Place) (j : Json) : ((p.fields j).map (·.1)).Nodup := by
  by_cases h : p = .part
  · subst h
    cases hk : kindOf? j with
    | none => rw [fields_part_of_no_kind hk]; exact List.nodup_singleton _
    | some k => rw [fields_part hk]; simp [k.name_ne_type.symm]
  · rw [fields_of_ne_part h]
    exact nodup_declares p

theorem item?_of_isRecord (h : p.isRecord = true) (j : Json) (i : Nat) :
    p.item? j i = ((p.fields j)[i]?).map (·.2) := by
  cases p with
  | content | list => cases h
  | _ => rfl

theorem isRecord_of_mem_fields {d : String × Place} (h : d ∈ p.fields j) : p.isRecord = true := by
  cases p with
  | plain | content | list => cases h
  | _ => rfl

/-! ## Objects and arrays at a place -/

theorem usable_obj (members : List (String × Json)) :
    (Json.obj members).usable = members.all (·.2.usable) := by
  change allMembersUsable members = _
  induction members with
  | nil => rfl
  | cons m members ih => rw [allMembersUsable, ih, List.all_cons]

theorem usable_arr (items : List Json) : (Json.arr items).usable = items.all usable := by
  change allUsable items = _
  induction items with
  | nil => rfl
  | cons j items ih => rw [allUsable, ih, List.all_cons]

/-- A list cannot be read if one of its items cannot. -/
theorem mapM_eq_none {α : Type} {read : Json → Option α} (hmem : v ∈ items) (hv : read v = none) :
    items.mapM read = none := by
  obtain ⟨before, after, rfl⟩ := List.append_of_mem hmem
  rw [List.mapM_append, List.mapM_cons, hv]
  cases before.mapM read <;> rfl

/-! ## Parts -/

theorem tag?_obj_eq
    (h : AlikeValues .plain (valuesOf members "type") (valuesOf members' "type")) :
    ContentPart.tag? (.obj members) = ContentPart.tag? (.obj members') := by
  dsimp only [ContentPart.tag?]
  generalize valuesOf members "type" = vs at h
  generalize valuesOf members' "type" = vs' at h
  cases h with
  | absent => rfl
  | single alike => rw [alike.eq_of_plain]
  | several h h' =>
    match vs, vs', h, h' with
    | _ :: _ :: _, _ :: _ :: _, _, _ => rfl

theorem tag?_eq_of_alikeMembers
    (h : AlikeMembers (fields .part (.obj members)) members members') :
    ContentPart.tag? (.obj members) = ContentPart.tag? (.obj members') :=
  tag?_obj_eq (h ("type", .plain) List.mem_cons_self)

theorem kindOf?_of_repeated (twice : 1 < (valuesOf members "type").length) :
    kindOf? (.obj members) = none := by
  dsimp only [kindOf?, ContentPart.tag?]
  generalize valuesOf members "type" = vs at twice
  match vs, twice with
  | _ :: _ :: _, _ => rfl

theorem partObj_eq (h : AlikeMembers (fields .part (.obj members)) members members') :
    ContentPart.ofItem? (.obj members) = ContentPart.ofItem? (.obj members') := by
  have htag : kindOf? (.obj members) = kindOf? (.obj members') :=
    congrArg (·.bind PartKind.ofTag?) (tag?_eq_of_alikeMembers h)
  rw [ContentPart.ofItem?_eq, ContentPart.ofItem?_eq, ← htag]
  cases hk : kindOf? (.obj members) with
  | none => rfl
  | some k =>
    refine k.readsRecord.eq_of_alike (alikeFields_obj fun d hd => ?_)
    obtain rfl := List.mem_singleton.1 hd
    rw [valuesOf_filter k.name_ne_type, valuesOf_filter k.name_ne_type]
    exact h _ (by simp [fields_part hk])

/-- The tag of an array is its first item, in which nothing is nested. -/
theorem tag?_arr_eq (place : item? .part (.arr (before ++ v :: after)) before.length = some q)
    (hv : Alike q v v') :
    ContentPart.tag? (.arr (before ++ v :: after)) =
      ContentPart.tag? (.arr (before ++ v' :: after)) := by
  cases before with
  | nil =>
    obtain rfl : Place.plain = q := Option.some.inj place
    rw [hv.eq_of_plain]
  | cons tag before => rfl

theorem partArr_eq (place : item? .part (.arr (before ++ v :: after)) before.length = some q)
    (hv : Alike q v v') :
    ContentPart.ofItem? (.arr (before ++ v :: after)) =
      ContentPart.ofItem? (.arr (before ++ v' :: after)) := by
  have htag : kindOf? (.arr (before ++ v :: after)) = kindOf? (.arr (before ++ v' :: after)) :=
    congrArg (·.bind PartKind.ofTag?) (tag?_arr_eq place hv)
  rw [ContentPart.ofItem?_eq, ContentPart.ofItem?_eq, ← htag]
  cases hk : kindOf? (.arr (before ++ v :: after)) with
  | none => rfl
  | some k =>
    cases before with
    | nil => rfl
    | cons tag before =>
      rw [item?_of_isRecord rfl, fields_part hk, List.length_cons, List.getElem?_cons_succ] at place
      refine k.readsRecord.eq_of_alike (alikeFields_arr ?_ place hv after)
      exact List.nodup_singleton _

/-- A part with a repeated key is not read: without a single tag it has no kind. -/
theorem partObj_eq_none_of_repeated
    (declared : key ∈ (fields .part (.obj members)).map (·.1))
    (twice : 1 < (valuesOf members key).length) : ContentPart.ofItem? (.obj members) = none := by
  rw [ContentPart.ofItem?_eq, Option.bind_eq_none_iff]
  intro k hk
  rw [fields_part hk] at declared
  obtain rfl | hkey := List.mem_cons.1 declared
  · rw [kindOf?_of_repeated twice] at hk
    cases hk
  · obtain rfl : key = k.name := List.mem_singleton.1 hkey
    exact k.readsRecord.eq_none_of_repeated hkey (by rwa [valuesOf_filter k.name_ne_type])

theorem partObj_eq_none_of_member (declared : (key, q) ∈ fields .part (.obj members))
    (hplain : q ≠ .plain) (mem : (key, v) ∈ members) (hnull : v ≠ .null)
    (hv : q.read? v = none) : ContentPart.ofItem? (.obj members) = none := by
  rw [ContentPart.ofItem?_eq, Option.bind_eq_none_iff]
  intro k hk
  rw [fields_part hk] at declared
  obtain heq | hkey := List.mem_cons.1 declared
  · cases heq
    exact absurd rfl hplain
  · refine k.readsRecord.eq_none_of_member hkey (List.mem_filter.2 ⟨mem, ?_⟩) hnull hv
    cases List.mem_singleton.1 hkey
    exact decide_eq_true k.name_ne_type

theorem partArr_eq_none_of_item {i : Nat} (place : item? .part (.arr items) i = some q)
    (hplain : q ≠ .plain) (found : items[i]? = some v) (hnull : v ≠ .null)
    (hv : q.read? v = none) : ContentPart.ofItem? (.arr items) = none := by
  rw [ContentPart.ofItem?_eq, Option.bind_eq_none_iff]
  intro k hk
  rw [item?_of_isRecord rfl, fields_part hk] at place
  cases i with
  | zero => exact absurd (Option.some.inj place).symm hplain
  | succ i =>
    refine k.readsRecord.eq_none_of_item ?_ place (List.getElem?_tail.trans found) hnull hv
    exact List.nodup_singleton _

/-! ## Rearranging -/

/-- An object with alike members is read alike. -/
theorem read?_obj_eq (record : p.isRecord = true)
    (h : AlikeMembers (p.fields (.obj members)) members members') :
    p.read? (.obj members) = p.read? (.obj members') := by
  by_cases hpart : p = .part
  · subst hpart
    exact partObj_eq h
  · rw [fields_of_ne_part hpart] at h
    exact (readsRecord record hpart).eq_of_alike (alikeFields_obj h)

/-- An array in which an item is replaced by one that is alike at its place is read alike. -/
theorem read?_arr_eq (place : p.item? (.arr (before ++ v :: after)) before.length = some q)
    (hv : Alike q v v') :
    p.read? (.arr (before ++ v :: after)) = p.read? (.arr (before ++ v' :: after)) := by
  by_cases h : p.isRecord = true ∧ p ≠ .part
  · rw [item?_of_isRecord h.1, fields_of_ne_part h.2] at place
    exact (readsRecord h.1 h.2).eq_of_alike (alikeFields_arr (nodup_declares p) place hv after)
  cases p with
  | plain => cases place
  | part => exact partArr_eq place hv
  | content =>
    obtain rfl : Place.part = q := Option.some.inj place
    have hread : ContentPart.ofItem? v = ContentPart.ofItem? v' := hv.read?_eq
    change Content.ofJson? _ = Content.ofJson? _
    simp only [Content.ofJson?, usable_arr, List.all_append, List.all_cons, hv.usable_eq,
      List.mapM_append, List.mapM_cons, hread]
  | list item =>
    obtain rfl : item = q := Option.some.inj place
    change asList? item.read? _ = asList? item.read? _
    simp only [asList?, List.mapM_append, List.mapM_cons, hv.read?_eq]
  | _ => exact absurd ⟨rfl, nofun⟩ h

/-- What is rearranged reads as before. -/
theorem Rearranges.alike (h : Rearranges p j j') : Alike p j j' := by
  -- Equal readings alone would not carry the induction: a list of parts is followed to its end
  -- before any part is read, and an optional record that is null is not read at all.
  induction h with
  | order record perm =>
    refine ⟨read?_obj_eq record (alikeMembers_of_perm perm), iff_of_false nofun nofun, ?_⟩
    rw [usable_obj, usable_obj, perm.all_eq]
  | extra record undeclared usable =>
    refine ⟨read?_obj_eq record (alikeMembers_cons undeclared _ _), iff_of_false nofun nofun, ?_⟩
    rw [usable_obj, usable_obj, List.all_cons, usable, Bool.true_and]
  | member declared inner ih =>
    refine ⟨read?_obj_eq (isRecord_of_mem_fields declared)
      (alikeMembers_replace (nodup_fields _ _) declared ih _ _), iff_of_false nofun nofun, ?_⟩
    simp only [usable_obj, List.all_append, List.all_cons, ih.usable_eq]
  | item place inner ih =>
    refine ⟨read?_arr_eq place ih, iff_of_false nofun nofun, ?_⟩
    simp only [usable_arr, List.all_append, List.all_cons, ih.usable_eq]

/-! ## Repeating -/

theorem Repeats.ne_null (h : Repeats p j) : j ≠ .null := by
  cases h <;> nofun

theorem Repeats.ne_plain (h : Repeats p j) : p ≠ .plain := by
  rintro rfl
  cases h with
  | here declared => cases declared
  | member declared => cases declared
  | item place => cases place

/-- Where a key is repeated nothing is read. -/
theorem Repeats.read?_eq_none (h : Repeats p j) : p.read? j = none := by
  induction h with
  | @here p members key declared twice =>
    by_cases hpart : p = .part
    · subst hpart
      exact partObj_eq_none_of_repeated declared twice
    · obtain ⟨d, hd, -⟩ := List.mem_map.1 declared
      rw [fields_of_ne_part hpart] at declared
      exact (readsRecord (isRecord_of_mem_fields hd) hpart).eq_none_of_repeated declared twice
  | @member p q members key v declared mem inner ih =>
    by_cases hpart : p = .part
    · subst hpart
      exact partObj_eq_none_of_member declared inner.ne_plain mem inner.ne_null ih
    · have hrecord := isRecord_of_mem_fields declared
      rw [fields_of_ne_part hpart] at declared
      exact (readsRecord hrecord hpart).eq_none_of_member declared mem inner.ne_null ih
  | @item p q items i v place found inner ih =>
    by_cases h : p.isRecord = true ∧ p ≠ .part
    · rw [item?_of_isRecord h.1, fields_of_ne_part h.2] at place
      exact (readsRecord h.1 h.2).eq_none_of_item (nodup_declares p) place found inner.ne_null ih
    cases p with
    | plain => cases place
    | part => exact partArr_eq_none_of_item place inner.ne_plain found inner.ne_null ih
    | content =>
      obtain rfl : Place.part = q := Option.some.inj place
      have hnone : items.mapM ContentPart.ofItem? = none :=
        mapM_eq_none (List.mem_of_getElem? found) ih
      change Content.ofJson? _ = none
      rw [Content.ofJson?, hnone]
      exact ite_self _
    | list item =>
      obtain rfl : item = q := Option.some.inj place
      exact mapM_eq_none (List.mem_of_getElem? found) ih
    | _ => exact absurd ⟨rfl, nofun⟩ h

/-! ## Reading -/

/-- A reader does not tell values apart that come from one another by rearranging, and reads nothing
where a key is repeated. -/
structure IgnoresLayout {α : Type} (p : Place) (read : Json → Option α) : Prop where
  rearranged : ∀ j j', Relation.EqvGen (Rearranges p) j j' → read j = read j'
  repeated : ∀ j, Repeats p j → read j = none

/-- What one rearrangement does not change, several do not change. -/
theorem eq_of_rearranged {β : Type} {f : Json → β} (hf : ∀ j j', Rearranges p j j' → f j = f j')
    (h : Relation.EqvGen (Rearranges p) j j') : f j = f j' := by
  induction h with
  | rel _ _ h => exact hf _ _ h
  | refl => rfl
  | symm _ _ _ ih => exact ih.symm
  | trans _ _ _ _ _ ih ih' => exact ih.trans ih'

theorem ignoresLayout_read? (p : Place) : IgnoresLayout p p.read? where
  rearranged _ _ := eq_of_rearranged fun _ _ h => h.alike.read?_eq
  repeated _ h := h.read?_eq_none

/-- A rearranged part keeps its tag. -/
theorem Rearranges.tag?_eq (h : Rearranges .part j j') :
    ContentPart.tag? j = ContentPart.tag? j' := by
  cases h with
  | order record perm => exact tag?_eq_of_alikeMembers (alikeMembers_of_perm perm)
  | extra record undeclared usable =>
    exact tag?_eq_of_alikeMembers (alikeMembers_cons undeclared _ _)
  | member declared inner =>
    exact tag?_eq_of_alikeMembers
      (alikeMembers_replace (nodup_fields _ _) declared inner.alike _ _)
  | item place inner => exact tag?_arr_eq place inner.alike

/-- A part that stands alone has to be tagged with a name and to be read to its end besides, which
rearranging does not change. -/
theorem ignoresLayout_part : IgnoresLayout .part ContentPart.ofJson? where
  rearranged _ _ := eq_of_rearranged fun j j' h => by
    have hitem : ContentPart.ofItem? j = ContentPart.ofItem? j' := h.alike.read?_eq
    unfold ContentPart.ofJson?
    rw [h.tag?_eq, h.alike.usable_eq, hitem]
  repeated j h := by
    have hitem : ContentPart.ofItem? j = none := h.read?_eq_none
    unfold ContentPart.ofJson?
    rw [hitem]
    split
    · exact ite_self _
    · rfl

/-- **The layout of a document does not matter.** Requests, messages, content parts, responses,
choices, usage and chunks are read the same in whatever order the members of the records in them
stand and whatever members nobody asks for are there besides; and they are not read if a record in
them gives a declared key more than once, the tag of a part among them. -/
theorem reading_ignores_layout :
    IgnoresLayout .request ChatRequest.ofJson? ∧ IgnoresLayout .message Message.ofJson? ∧
      IgnoresLayout .part ContentPart.ofJson? ∧ IgnoresLayout .response ChatResponse.ofJson? ∧
      IgnoresLayout .choice Choice.ofJson? ∧ IgnoresLayout .usage Usage.ofJson? ∧
      IgnoresLayout .chunk StreamChunk.ofJson? :=
  ⟨ignoresLayout_read? .request, ignoresLayout_read? .message, ignoresLayout_part,
    ignoresLayout_read? .response, ignoresLayout_read? .choice, ignoresLayout_read? .usage,
    ignoresLayout_read? .chunk⟩

/-- The part comes before the role, its tag comes last, and there is a note that nobody asks for. -/
example : Message.ofJson? (.obj [("content", .arr [.obj [("text", .str "hi"), ("note", .int 7),
    ("type", .str "text")]]), ("role", .str "user")]) = some ⟨.user, .parts [.text "hi"]⟩ := by
  rfl

end Place

end ChatGateway
