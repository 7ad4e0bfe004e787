import LegendReport.Json.Value
import Mathlib.Data.List.Nodup
import Mathlib.Data.List.Perm.Subperm

/-!
# Fields of JSON records

A record is read alike from an object, in whatever order its members are and whatever other
members are among them, and from the array of its values.  An object without one of the
fields is no record.  So in the values that are parsed, in which no name is repeated within
an object, what is read as a record is what has its fields.
-/

namespace LegendReport

section Traversals

variable {α β : Type}

/-- A traversal that succeeds has the results of its steps, in order. -/
theorem mapM_eq_some_iff
    {f : α → Option β}
    {xs : List α}
    {ys : List β} :
    xs.mapM f = some ys ↔ List.Forall₂ (fun x y => f x = some y) xs ys := by
  induction xs generalizing ys with
  | nil => cases ys <;> simp
  | cons x xs ih =>
      rw [List.mapM_cons, List.forall₂_cons_left_iff]
      simp only [Option.bind_eq_bind, Option.bind_eq_some_iff, Option.pure_def,
        Option.some.injEq, ← ih]
      constructor
      · rintro ⟨y, hy, rest, hrest, rfl⟩
        exact ⟨y, rest, hy, hrest, rfl⟩
      · rintro ⟨y, rest, hy, hrest, rfl⟩
        exact ⟨y, hy, rest, hrest, rfl⟩

/-- In lists that agree item by item, each item has another that it agrees with. -/
theorem exists_mem_of_forall₂
    {R : α → β → Prop}
    {xs : List α}
    {ys : List β}
    (h : List.Forall₂ R xs ys)
    {x : α}
    (hx : x ∈ xs) :
    ∃ y ∈ ys, R x y := by
  induction h with
  | nil => cases hx
  | @cons first y xs ys hfirst _ ih =>
      rcases List.mem_cons.mp hx with rfl | hx
      · exact ⟨y, List.mem_cons_self, hfirst⟩
      · obtain ⟨found, hfound, hx⟩ := ih hx
        exact ⟨found, List.mem_cons_of_mem y hfound, hx⟩

end Traversals

namespace Json

section Meaning

/-- No object in the value has two members of one name. -/
inductive DistinctNames : Json → Prop where
  | null :
      DistinctNames .null
  | bool
      (value : Bool) :
      DistinctNames (.bool value)
  | integer
      (value : Int) :
      DistinctNames (.integer value)
  | decimal
      (mantissa : Int)
      (places : Nat) :
      DistinctNames (.decimal mantissa places)
  | string
      (value : String) :
      DistinctNames (.string value)
  | array
      {items : List Json}
      (hitems : ∀ item ∈ items, DistinctNames item) :
      DistinctNames (.array items)
  | object
      {members : List (String × Json)}
      (hnames : (members.map Prod.fst).Nodup)
      (hvalues : ∀ member ∈ members, DistinctNames member.2) :
      DistinctNames (.object members)

/-- The value is a record of the named fields: an object with them in any order among other members,
or the array of their values. -/
inductive HasFields (names : List String) (values : List Json) : Json → Prop where
  | object
      {members others : List (String × Json)}
      (hlength : values.length = names.length)
      (hnames : (members.map Prod.fst).Nodup)
      (hmembers : members.Perm (names.zip values ++ others)) :
      HasFields names values (.object members)
  | array
      (hlength : values.length = names.length) :
      HasFields names values (.array values)

/-- An integer that is no count. -/
def IsOutOfRange (value : Int) : Prop :=
  value < 0 ∨ (UInt64.size : Int) ≤ value

end Meaning

section Scalars

variable {json : Json}

@[simp] theorem string?_eq_some_iff
    {value : String} :
    json.string? = some value ↔ json = .string value := by
  cases json <;> simp [string?]

@[simp] theorem bool?_eq_some_iff
    {value : Bool} :
    json.bool? = some value ↔ json = .bool value := by
  cases json <;> simp [bool?]

theorem count?_eq_some_iff
    {n : Nat} :
    json.count? = some n ↔ json = .integer n ∧ n < UInt64.size := by
  cases json with
  | integer value =>
      rw [count?, Option.ite_none_right_eq_some, Option.some.injEq, integer.injEq]
      omega
  | _ => simp [count?]

theorem not_isOutOfRange
    {n : Nat}
    (h : n < UInt64.size) :
    ¬ IsOutOfRange n := by
  rintro (hneg | hlarge)
  · omega
  · omega

end Scalars

section Lists

variable {α : Type} {read? : Json → Option α} {json : Json}

theorem list?_eq_some_iff
    {found : List α} :
    json.list? read? = some found ↔
      ∃ items, json = .array items ∧
        List.Forall₂ (fun item value => read? item = some value) items found := by
  cases json with
  | array items => simp [list?, mapM_eq_some_iff]
  | _ => simp [list?]

theorem list?_string?_eq_some_iff
    {found : List String} :
    json.list? string? = some found ↔ json = .array (found.map .string) := by
  have hitems (items : List Json) :
      List.Forall₂ (fun item text => item = string text) items found ↔
        items = found.map .string := by
    rw [← List.forall₂_eq_eq_eq, List.forall₂_map_right_iff]
  simp only [list?_eq_some_iff, string?_eq_some_iff, hitems, exists_eq_right]

end Lists

section Records

variable {names : List String} {values : List Json} {json : Json}

theorem mem_of_lookup_eq_some
    {members : List (String × Json)}
    {name : String}
    {value : Json}
    (h : members.lookup name = some value) :
    (name, value) ∈ members := by
  obtain ⟨before, after, rfl, -⟩ := List.lookup_eq_some_iff.mp h
  exact List.mem_append_right before List.mem_cons_self

/-- Where no name is repeated, each member is found under its name. -/
theorem lookup_eq_some_iff
    {members : List (String × Json)}
    (hnames : (members.map Prod.fst).Nodup)
    {name : String}
    {value : Json} :
    members.lookup name = some value ↔ (name, value) ∈ members := by
  refine ⟨mem_of_lookup_eq_some, ?_⟩
  intro hmember
  obtain ⟨before, after, rfl⟩ := List.append_of_mem hmember
  refine List.lookup_eq_some_iff.mpr ⟨before, after, rfl, ?_⟩
  intro other hother
  rw [bne_iff_ne]
  rintro rfl
  rw [List.map_append, List.nodup_append] at hnames
  exact hnames.2.2 other.1 (List.mem_map_of_mem hother) other.1 (by simp) rfl

theorem record?_object_eq_some_iff
    {members : List (String × Json)}
    (hnames : (members.map Prod.fst).Nodup) :
    (object members).record? names = some values ↔
      values.length = names.length ∧ names.zip values ⊆ members := by
  rw [record?, mapM_eq_some_iff, List.forall₂_iff_zip, eq_comm (a := names.length)]
  simp only [lookup_eq_some_iff hnames]
  exact and_congr Iff.rfl ⟨fun h _ hmember => h hmember, fun h _ _ hmember => h hmember⟩

/-- What has the fields of a record is read as their values. -/
theorem HasFields.record?_eq
    (h : HasFields names values json) :
    json.record? names = some values := by
  cases h with
  | @object members others hlength hnames hmembers =>
      rw [record?_object_eq_some_iff hnames]
      exact ⟨hlength, fun member hmember => hmembers.mem_iff.mpr (List.mem_append_left _ hmember)⟩
  | array hlength => rw [record?, if_pos hlength]

/-- What is read as the values of a record has its fields. -/
theorem hasFields_of_record?
    (hnames : names.Nodup)
    (hjson : json.DistinctNames)
    (h : json.record? names = some values) :
    HasFields names values json := by
  cases hjson with
  | @object members hmembers hvalues =>
      obtain ⟨hlength, hsubset⟩ := (record?_object_eq_some_iff hmembers).mp h
      have hzip : (names.zip values).Nodup := by
        rw [← List.map_fst_zip (Nat.le_of_eq hlength.symm)] at hnames
        exact List.Nodup.of_map Prod.fst hnames
      obtain ⟨found, hfound, hsublist⟩ := List.subperm_of_subset hzip hsubset
      obtain ⟨others, hothers⟩ := hsublist.exists_perm_append
      exact .object hlength hmembers (hothers.trans (hfound.append_right others))
  | @array items hitems =>
      rw [record?, Option.ite_none_right_eq_some] at h
      obtain ⟨hlength, h⟩ := h
      obtain rfl := Option.some.inj h
      exact .array hlength
  | _ => cases h

theorem HasFields.distinctNames
    (h : HasFields names values json)
    (hjson : json.DistinctNames) :
    ∀ value ∈ values, value.DistinctNames := by
  cases h with
  | @object members others hlength _ hmembers =>
      cases hjson with
      | object _ hvalues =>
          intro value hvalue
          obtain ⟨name, hmember⟩ : ∃ name, (name, value) ∈ names.zip values := by
            rw [← List.map_snd_zip (Nat.le_of_eq hlength)] at hvalue
            obtain ⟨⟨name, _⟩, hmember, rfl⟩ := List.mem_map.mp hvalue
            exact ⟨name, hmember⟩
          exact hvalues (name, value) (hmembers.mem_iff.mpr (List.mem_append_left _ hmember))
  | array _ =>
      cases hjson with
      | array hitems => exact hitems

/-- An object that has just the fields of a record, in order. -/
theorem hasFields_object
    (hnames : names.Nodup)
    (hlength : values.length = names.length) :
    HasFields names values (.object (names.zip values)) := by
  refine .object hlength ?_ (List.Perm.of_eq (List.append_nil _).symm)
  rwa [List.map_fst_zip (Nat.le_of_eq hlength.symm)]

theorem record?_of_lacking
    {members : List (String × Json)}
    {name : String}
    (hname : name ∈ names)
    (hlacking : name ∉ members.map Prod.fst) :
    (object members).record? names = none := by
  rw [Option.eq_none_iff_forall_ne_some]
  intro found hfound
  obtain ⟨value, -, hvalue⟩ := exists_mem_of_forall₂ (mapM_eq_some_iff.mp hfound) hname
  exact hlacking (List.mem_map_of_mem (mem_of_lookup_eq_some hvalue))

/-- A member that is looked up is the only field of a record. -/
theorem member?_eq_some_iff
    {name : String}
    {value : Json} :
    json.member? name = some value ↔
      ∃ members, json = .object members ∧ (object members).record? [name] = some [value] := by
  cases json with
  | object members => simp [member?, record?, Option.bind_eq_some_iff]
  | _ => simp [member?]

end Records

end Json

end LegendReport
