import ClassDocs.Doc.Serialize
import Mathlib.Data.List.Forall2
import Mathlib.Data.List.Nodup

/-!
# What the JSON form of a record tells

A JSON form leaves unset texts and empty lists out. It still tells all of a record, whatever the
order of the members: each field has a member name of its own, and what stands under it tells the
value of the field, where a missing member is a value of its own.

## Main definitions

* `Json.Same`: values that differ at most in the order of members.
* `Json.Determines`: JSON forms that tell what they are the form of.
* `Json.ofFields`: the members of an object, given the values under each name.
* `Parameter.fields`, `Record.fields`: the values under each name in the JSON form.

## Main results

* `Json.Same.of_perm`: the order of distinct members does not matter.
* `Json.Same.fields`: objects made from fields are the same only if each field is.
* `Parameter.ofJson?_of_same`: a documented value is read back from its JSON form in any order.
* `Record.determines_toJson`: the JSON form of a record tells the record.
* `Record.json_tells_record`: all of this for records and documented values.
-/

namespace ClassDocs

namespace Json

/-! ### The same up to the order of members -/

/-- The values that stand under a name, in the order in which they are given. -/
def valuesOf (key : String) (members : List (String × Json)) : List Json :=
  (members.filter (·.1 == key)).map (·.2)

/-- Values that differ at most in the order of members: two objects have the same values under
every name. -/
inductive Same : Json → Json → Prop
  | null : Same .null .null
  | bool (value : Bool) : Same (.bool value) (.bool value)
  | num (value : Nat) : Same (.num value) (.num value)
  | str (text : String) : Same (.str text) (.str text)
  | arr {xs ys : List Json} (h : List.Forall₂ Same xs ys) : Same (.arr xs) (.arr ys)
  | obj {ms ns : List (String × Json)}
      (h : ∀ key, List.Forall₂ Same (valuesOf key ms) (valuesOf key ns)) :
      Same (.obj ms) (.obj ns)

theorem sizeOf_lt_of_mem_valuesOf {key : String} {value : Json} {members : List (String × Json)}
    (h : value ∈ valuesOf key members) : sizeOf value < sizeOf members := by
  obtain ⟨m, hm, rfl⟩ := List.mem_map.1 h
  obtain ⟨k, v⟩ := m
  have hlt := List.sizeOf_lt_of_mem (List.mem_of_mem_filter hm)
  simp only [Prod.mk.sizeOf_spec] at hlt ⊢
  omega

theorem Same.refl : (value : Json) → Same value value
  | .null => .null
  | .bool value => .bool value
  | .num value => .num value
  | .str text => .str text
  | .arr items => .arr (List.forall₂_same.2 fun item _ => Same.refl item)
  | .obj members => .obj fun key => List.forall₂_same.2 fun value _ => Same.refl value
termination_by value => sizeOf value
decreasing_by
  · have hlt := List.sizeOf_lt_of_mem ‹item ∈ items›
    simp only [arr.sizeOf_spec]
    omega
  · have hlt := sizeOf_lt_of_mem_valuesOf ‹value ∈ valuesOf key members›
    simp only [obj.sizeOf_spec]
    omega

/-- Of members with distinct names at most one has a given name. -/
theorem length_filter_name_le {members : List (String × Json)}
    (hnodup : (members.map (·.1)).Nodup) (key : String) :
    (members.filter (·.1 == key)).length ≤ 1 := by
  have hkeys : ((members.filter (·.1 == key)).map (·.1)).Nodup :=
    hnodup.sublist (List.filter_sublist.map _)
  have hall : (members.filter (·.1 == key)).map (·.1) =
      List.replicate (members.filter (·.1 == key)).length key := by
    rw [List.eq_replicate_iff, List.length_map]
    refine ⟨rfl, fun k hk => ?_⟩
    obtain ⟨m, hm, rfl⟩ := List.mem_map.1 hk
    exact eq_of_beq (List.mem_filter.1 hm).2
  rw [hall] at hkeys
  exact List.nodup_replicate.1 hkeys

/-- The order of members does not matter when their names are distinct. -/
theorem Same.of_perm {ms ns : List (String × Json)} (hnodup : (ns.map (·.1)).Nodup)
    (h : ms.Perm ns) : Same (.obj ms) (.obj ns) := by
  refine .obj fun key => ?_
  have hperm : (ms.filter (·.1 == key)).Perm (ns.filter (·.1 == key)) := h.filter _
  have heq : ms.filter (·.1 == key) = ns.filter (·.1 == key) := by
    rcases Nat.le_one_iff_eq_zero_or_eq_one.1 (length_filter_name_le hnodup key) with hzero | hone
    · rw [List.length_eq_zero_iff.1 hzero] at hperm ⊢
      exact hperm.eq_nil
    · obtain ⟨m, hm⟩ := List.length_eq_one_iff.1 hone
      rw [hm] at hperm ⊢
      exact List.perm_singleton.1 hperm
  rw [valuesOf, valuesOf, heq]
  exact List.forall₂_same.2 fun value _ => Same.refl value

/-! ### Forms that tell what they are the form of -/

/-- A JSON form that tells what it is the form of, whatever the order of members. -/
def Determines {α : Type} (f : α → Json) : Prop :=
  ∀ a b, Same (f a) (f b) → a = b

theorem determines_str : Determines str := by
  intro a b h
  cases h
  rfl

theorem determines_bool : Determines bool := by
  intro a b h
  cases h
  rfl

/-- The value of a list member, unless the list is empty. -/
def itemsOf (items : List Json) : List Json :=
  if items.isEmpty then [] else [.arr items]

theorem length_itemsOf_le (items : List Json) : (itemsOf items).length ≤ 1 := by
  cases items <;> simp [itemsOf]

namespace Determines

variable {α : Type} {f : α → Json} (hf : Determines f)
include hf

theorem single {a b : α} (h : List.Forall₂ Same [f a] [f b]) : a = b :=
  hf a b (List.forall₂_cons.1 h).1

/-- A member that is left out tells that there is no value. -/
theorem option {a b : Option α} (h : List.Forall₂ Same (a.map f).toList (b.map f).toList) :
    a = b := by
  cases a with
  | none =>
    cases b with
    | none => rfl
    | some b => cases h
  | some a =>
    cases b with
    | none => cases h
    | some b => exact congrArg some (hf.single h)

theorem list {xs ys : List α} (h : List.Forall₂ Same (xs.map f) (ys.map f)) : xs = ys := by
  rw [List.forall₂_map_left_iff, List.forall₂_map_right_iff] at h
  exact List.forall₂_eq_eq_eq ▸ h.imp hf

/-- A list member that is left out tells that the list is empty. -/
theorem items {xs ys : List α}
    (h : List.Forall₂ Same (itemsOf (xs.map f)) (itemsOf (ys.map f))) : xs = ys := by
  cases xs with
  | nil =>
    cases ys with
    | nil => rfl
    | cons y ys => cases h
  | cons x xs =>
    cases ys with
    | nil => cases h
    | cons y ys =>
      cases (List.forall₂_cons.1 h).1 with
      | arr hitems => exact hf.list hitems

end Determines

/-! ### Objects made from fields -/

/-- The members of an object, given the values under each name. -/
def ofFields (fields : List (String × List Json)) : List (String × Json) :=
  fields.flatMap fun field => field.2.map (field.1, ·)

theorem member?_eq (key : String) (value : Option Json) :
    member? key value = value.toList.map (key, ·) := by
  cases value <;> rfl

theorem items?_eq (key : String) (items : List Json) :
    items? key items = (itemsOf items).map (key, ·) := by
  cases items <;> rfl

variable {fs gs : List (String × List Json)}

theorem valuesOf_append (key : String) (ms ns : List (String × Json)) :
    valuesOf key (ms ++ ns) = valuesOf key ms ++ valuesOf key ns := by
  rw [valuesOf, List.filter_append, List.map_append]
  rfl

theorem valuesOf_field (key name : String) (values : List Json) :
    valuesOf key (values.map (name, ·)) = if name = key then values else [] := by
  split_ifs with hname <;> simp [valuesOf, List.filter_map, Function.comp_def, hname]

theorem valuesOf_ofFields_cons (key : String) (field : String × List Json) :
    valuesOf key (ofFields (field :: fs)) =
      (if field.1 = key then field.2 else []) ++ valuesOf key (ofFields fs) := by
  rw [ofFields, List.flatMap_cons, valuesOf_append, valuesOf_field]
  rfl

theorem valuesOf_ofFields_of_not_mem {key : String} (h : key ∉ fs.map (·.1)) :
    valuesOf key (ofFields fs) = [] := by
  induction fs with
  | nil => rfl
  | cons field rest ih =>
    rw [List.map_cons, List.mem_cons, not_or] at h
    obtain ⟨hfield, hrest⟩ := h
    rw [valuesOf_ofFields_cons, if_neg (Ne.symm hfield), ih hrest, List.nil_append]

/-- Under the name of a field stand its values, when no other field has the name. -/
theorem valuesOf_ofFields (hnodup : (fs.map (·.1)).Nodup) (key : String) :
    valuesOf key (ofFields fs) = (fs.lookup key).getD [] := by
  induction fs with
  | nil => rfl
  | cons field rest ih =>
    obtain ⟨hnew, hnodup⟩ := List.nodup_cons.1 hnodup
    rw [valuesOf_ofFields_cons, List.lookup_cons]
    by_cases hkey : field.1 = key
    · rw [if_pos hkey, valuesOf_ofFields_of_not_mem (hkey ▸ hnew), List.append_nil]
      simp [hkey]
    · rw [if_neg hkey, ih hnodup, List.nil_append, beq_false_of_ne (Ne.symm hkey)]

/-- Objects made from fields are the same only if each field is. -/
theorem Same.fields (h : Same (.obj (ofFields fs)) (.obj (ofFields gs)))
    (hfs : (fs.map (·.1)).Nodup) (hgs : (gs.map (·.1)).Nodup) (key : String) :
    List.Forall₂ Same ((fs.lookup key).getD []) ((gs.lookup key).getD []) := by
  cases h with
  | obj h =>
    have hvalues := h key
    rwa [valuesOf_ofFields hfs, valuesOf_ofFields hgs] at hvalues

/-- With at most one value under each name, no name comes twice among the members. -/
theorem nodup_names_ofFields (hnodup : (fs.map (·.1)).Nodup)
    (hsingle : ∀ field ∈ fs, field.2.length ≤ 1) : ((ofFields fs).map (·.1)).Nodup := by
  have hsublist : ((ofFields fs).map (·.1)).Sublist (fs.map (·.1)) := by
    clear hnodup
    induction fs with
    | nil => exact .slnil
    | cons field rest ih =>
      obtain ⟨hfield, hrest⟩ := List.forall_mem_cons.1 hsingle
      rw [ofFields, List.flatMap_cons, List.map_append, List.map_cons]
      have htail := ih hrest
      rcases Nat.le_one_iff_eq_zero_or_eq_one.1 hfield with hzero | hone
      · rw [List.length_eq_zero_iff.1 hzero]
        exact htail.cons _
      · obtain ⟨value, hvalue⟩ := List.length_eq_one_iff.1 hone
        rw [hvalue]
        exact htail.cons_cons _
  exact hnodup.sublist hsublist

end Json

/-! ### Documented values -/

namespace Parameter

/-- The values under each name in the JSON form of a documented value. -/
def fields (p : Parameter) : List (String × List Json) :=
  [("type", (p.type.map .str).toList), ("name", (p.name.map .str).toList),
    ("description", (p.description.map .str).toList)]

theorem toJson_eq (p : Parameter) : p.toJson = .obj (Json.ofFields p.fields) := by
  simp [toJson, Json.ofFields, fields, Json.member?_eq]

theorem nodup_names (p : Parameter) : (p.fields.map (·.1)).Nodup := by
  change ["type", "name", "description"].Nodup
  decide

end Parameter

/-- What is read under a name is decided by the values there. -/
theorem textMember?_eq {members : List (String × Json)} {key : String} {text : Option String}
    (h : List.Forall₂ Json.Same (Json.valuesOf key members) (text.map .str).toList) :
    textMember? members key = some text := by
  rw [textMember?]
  cases text with
  | none =>
    have hnone : members.filter (·.1 == key) = [] :=
      List.map_eq_nil_iff.1 (List.forall₂_nil_right_iff.1 h)
    rw [hnone]
  | some text =>
    obtain ⟨value, rest, hvalue, hrest, hvalues⟩ := List.forall₂_cons_right_iff.1 h
    cases hvalue
    rw [List.forall₂_nil_right_iff.1 hrest] at hvalues
    obtain ⟨m, hm, hstr⟩ := List.map_eq_singleton_iff.1 hvalues
    obtain ⟨k, v⟩ := m
    rw [hm]
    cases hstr
    rfl

namespace Parameter

variable {p : Parameter} {value : Json}

/-- A documented value is read back from its JSON form, in whatever order the members are. -/
theorem ofJson?_of_same (h : Json.Same value p.toJson) : ofJson? value = some p := by
  rw [toJson_eq] at h
  cases h with
  | @obj members _ h =>
    have hfield (key : String) :
        List.Forall₂ Json.Same (Json.valuesOf key members) ((p.fields.lookup key).getD []) := by
      rw [← Json.valuesOf_ofFields p.nodup_names]
      exact h key
    have htype : textMember? members "type" = some p.type := textMember?_eq (hfield "type")
    have hname : textMember? members "name" = some p.name := textMember?_eq (hfield "name")
    have hdescription : textMember? members "description" = some p.description :=
      textMember?_eq (hfield "description")
    rw [ofJson?, htype, hname, hdescription]
    rfl

theorem ofJson?_toJson (p : Parameter) : ofJson? p.toJson = some p :=
  ofJson?_of_same (.refl _)

theorem determines_toJson : Json.Determines toJson := by
  intro p q h
  exact Option.some.inj ((ofJson?_toJson p).symm.trans (ofJson?_of_same h))

end Parameter

/-! ### Records -/

namespace AccessLevel

theorem ofName?_name (level : AccessLevel) : ofName? level.name = some level := by
  cases level <;> rfl

theorem determines_name : Json.Determines fun level => .str (name level) := by
  intro a b h
  have hname : a.name = b.name := Json.determines_str _ _ h
  exact Option.some.inj ((ofName?_name a).symm.trans (hname ▸ ofName?_name b))

end AccessLevel

namespace Record

/-- The values under each name in the JSON form of a record. -/
def fields (r : Record) : List (String × List Json) :=
  let text (value : Option String) : List Json := (value.map .str).toList
  let values (items : List Parameter) : List Json := Json.itemsOf (items.map Parameter.toJson)
  [("description", text r.description),
    ("long_description", text r.longDescription),
    ("is_abstract", [.bool r.isAbstract]),
    ("is_static", [.bool r.isStatic]),
    ("is_deprecated", [.bool r.isDeprecated]),
    ("is_ignored", [.bool r.isIgnored]),
    ("access", (r.access.map fun level => .str level.name).toList),
    ("author", text r.author),
    ("copyright", text r.copyright),
    ("deprecated_message", text r.deprecatedMessage),
    ("example", text r.exampleText),
    ("link", text r.link),
    ("name", text r.name),
    ("package", text r.package),
    ("sub_package", text r.subPackage),
    ("see", text r.see),
    ("since", text r.since),
    ("version", text r.version),
    ("var_type", text r.varType),
    ("parameters", values r.parameters),
    ("return", (r.returnValue.map Parameter.toJson).toList),
    ("exceptions", values r.exceptions),
    ("todos", Json.itemsOf (r.todos.map .str))]

theorem toJson_eq (r : Record) : r.toJson = .obj (Json.ofFields r.fields) := by
  simp [toJson, Json.ofFields, fields, Json.member?_eq, Json.items?_eq, Function.comp_def]

theorem nodup_names (r : Record) : (r.fields.map (·.1)).Nodup := by
  change ["description", "long_description", "is_abstract", "is_static", "is_deprecated",
    "is_ignored", "access", "author", "copyright", "deprecated_message", "example", "link", "name",
    "package", "sub_package", "see", "since", "version", "var_type", "parameters", "return",
    "exceptions", "todos"].Nodup
  decide

/-- The JSON form of a record tells the record: each member tells its field. -/
theorem determines_toJson : Json.Determines toJson := by
  intro r₁ r₂ h
  rw [toJson_eq, toJson_eq] at h
  have hfield := h.fields r₁.nodup_names r₂.nodup_names
  have htext {a b : Option String}
      (h : List.Forall₂ Json.Same (a.map .str).toList (b.map .str).toList) : a = b :=
    Json.determines_str.option h
  have hflag {a b : Bool} (h : List.Forall₂ Json.Same [.bool a] [.bool b]) : a = b :=
    Json.determines_bool.single h
  cases r₁
  cases r₂
  rw [mk.injEq]
  exact ⟨htext (hfield "description"), htext (hfield "long_description"),
    hflag (hfield "is_abstract"), hflag (hfield "is_static"), hflag (hfield "is_deprecated"),
    hflag (hfield "is_ignored"), AccessLevel.determines_name.option (hfield "access"),
    htext (hfield "author"), htext (hfield "copyright"), htext (hfield "deprecated_message"),
    htext (hfield "example"), htext (hfield "link"), htext (hfield "name"),
    htext (hfield "package"), htext (hfield "sub_package"), htext (hfield "see"),
    htext (hfield "since"), htext (hfield "version"), htext (hfield "var_type"),
    Parameter.determines_toJson.items (hfield "parameters"),
    Parameter.determines_toJson.option (hfield "return"),
    Parameter.determines_toJson.items (hfield "exceptions"),
    Json.determines_str.items (hfield "todos")⟩

/-- No member of the JSON form of a record comes twice. -/
theorem nodup_members (r : Record) : ((Json.ofFields r.fields).map (·.1)).Nodup := by
  refine Json.nodup_names_ofFields r.nodup_names ?_
  simp [fields, Option.length_toList_le, Json.length_itemsOf_le]

/-- The JSON form of a record has distinct members, whose order does not matter, and tells the
record. A documented value is read back from its JSON form. -/
theorem json_tells_record :
    (∀ r₁ r₂ : Record, Json.Same r₁.toJson r₂.toJson ↔ r₁ = r₂) ∧
    (∀ r : Record, ∃ members, r.toJson = .obj members ∧ (members.map (·.1)).Nodup ∧
      ∀ others : List (String × Json), others.Perm members → Json.Same (.obj others) r.toJson) ∧
    ∀ p : Parameter, Parameter.ofJson? p.toJson = some p := by
  refine ⟨fun r₁ r₂ => ⟨determines_toJson r₁ r₂, fun h => h ▸ .refl _⟩, fun r => ?_,
    Parameter.ofJson?_toJson⟩
  refine ⟨_, r.toJson_eq, r.nodup_members, fun others hperm => ?_⟩
  rw [toJson_eq]
  exact .of_perm r.nodup_members hperm

end Record

end ClassDocs
