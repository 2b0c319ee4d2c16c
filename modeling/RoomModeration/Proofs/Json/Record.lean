import Mathlib.Data.List.Nodup
import RoomModeration.Json.Record

/-!
# Records in JSON are read as they are written

A record gives its fields by their names, as an object, or in their order, as an array. What its
object gives is what it was written from: the fields that are there, and nothing for those that are
not. What a field holds is settled by its written form, since each reader accepts the written forms
of its values and nothing else.

## Main definitions

* `Json.Gives` : what a value gives for the fields of a record.
* `Fields.Holds` : what a field holds that has a default.

## Main results

* `Fields.lookup_normal` : of several fields with one name the last is found.
* `Json.fields?_eq_some_iff` : which values are read as records, and what is read.
* `Json.fields?_ofOptionalFields` : the object of a record gives its fields back.
-/

namespace RoomModeration

/-! ### Fields -/

namespace Fields

variable {α β : Type}

theorem lookup_append (name : String) (fields others : List (String × α)) :
    lookup name (fields ++ others) = (lookup name fields).or (lookup name others) := by
  induction fields with
  | nil => rfl
  | cons field rest ih =>
    by_cases hname : name = field.1 <;> simp [lookup, hname, ih]

/-- Of several fields with one name the last is found. -/
theorem lookup_normal (name : String) (fields : List (String × α)) :
    lookup name (normal fields) = lookup name fields.reverse := by
  have hfold : ∀ done,
      lookup name (fields.foldl (fun done field => insert field.1 field.2 done) done) =
        (lookup name fields.reverse).or (lookup name done) := by
    induction fields with
    | nil => exact fun _ => rfl
    | cons field rest ih =>
      intro done
      rw [List.foldl_cons, ih, List.reverse_cons, lookup_append, Option.or_assoc]
      congr 1
      by_cases hname : name = field.1
      · simp [lookup, hname]
      · rw [lookup_insert_of_ne hname]
        simp [lookup, hname]
  exact (hfold []).trans (Option.or_none ..)

/-- Fields that all have names of their own are found under them. -/
theorem lookup_eq_some_iff {name : String} {value : α} {fields : List (String × α)}
    (h : (fields.map Prod.fst).Nodup) :
    lookup name fields = some value ↔ (name, value) ∈ fields := by
  induction fields with
  | nil => simp [lookup]
  | cons field rest ih =>
    obtain ⟨n, v⟩ := field
    obtain ⟨hfresh, hrest⟩ := List.nodup_cons.1 h
    by_cases hname : name = n
    · subst hname
      have habsent : (name, value) ∉ rest := fun hmem =>
        hfresh (List.mem_map.2 ⟨_, hmem, rfl⟩)
      simp [lookup, habsent, eq_comm]
    · simp [lookup, hname, ih hrest]

/-- A field holds a value in its written form; a field that is missing holds its default. -/
def Holds (write : α → β) (default a : α) : Option β → Prop
  | none => a = default
  | some v => v = write a

section

variable {read : β → Option α} {write : α → β} (hread : ∀ {v a}, read v = some a ↔ v = write a)
include hread

theorem required?_eq_some_iff {field : Option β} {a : α} :
    required? read field = some a ↔ field = some (write a) := by
  cases field with
  | none => simp [required?]
  | some v => simp [required?, hread]

theorem orDefault?_eq_some_iff {default a : α} {field : Option β} :
    orDefault? default read field = some a ↔ Holds write default a field := by
  cases field with
  | none => simp [orDefault?, Holds, eq_comm]
  | some v => exact hread

end

end Fields

namespace Json

/-! ### What a field may hold -/

theorem asString?_eq_some_iff {v : Json} {s : String} : v.asString? = some s ↔ v = .string s := by
  cases v <;> simp [asString?]

theorem memberId?_eq_some_iff {v : Json} {m : MemberId} :
    v.memberId? = some m ↔ v = .string m.text := by
  rw [memberId?, Option.map_eq_map, Option.map_eq_some_iff]
  constructor
  · rintro ⟨s, hs, rfl⟩
    exact asString?_eq_some_iff.1 hs
  · rintro rfl
    exact ⟨m.text, rfl, rfl⟩

/-- Only an integer that fits is read, and it is read exactly. -/
theorem int64?_eq_some_iff {v : Json} {n : Int64} : v.int64? = some n ↔ v = .int n.toInt := by
  constructor
  · intro h
    unfold int64? at h
    split at h
    · split at h
      · next hfits =>
        cases h
        rw [Int64.toInt_ofInt_of_le hfits.1 (Int.lt_of_le_sub_one hfits.2)]
        rfl
      · cases h
    · cases h
  · rintro rfl
    rw [int, int64?, if_pos ⟨n.minValue_le_toInt, n.toInt_le⟩, Int64.ofInt_toInt]

/-- A text that may be absent is missing or the absent value when it is absent. -/
theorem orDefault?_optionalString?_eq_some_iff {field : Option Json} {s : Option String} :
    Fields.orDefault? none optionalString? field = some s ↔
      field = s.map .string ∨ field = some .null ∧ s = none := by
  cases field with
  | none => cases s <;> simp [Fields.orDefault?]
  | some v => cases v <;> cases s <;> simp [Fields.orDefault?, optionalString?]

/-! ### The fields of a record -/

/-- What a value gives for the fields of a record with these names. An object gives each field
under its name. An array gives the fields in their order; it may end early, but holds no more values
than there are fields. -/
inductive Gives (names : List String) : Json → (String → Option Json) → Prop where
  /-- The fields by their names. -/
  | object (fields : List (String × Json)) :
    Gives names (.object fields) fun name => Fields.lookup name fields
  /-- The fields in their order. -/
  | array {items : List Json} (short : items.length ≤ names.length) :
    Gives names (.array items) fun name => items[names.idxOf name]?

theorem fields?_eq_some_iff {names : List String} (hnames : names.Nodup) {v : Json}
    {fields : List (Option Json)} :
    v.fields? names = some fields ↔ ∃ field, v.Gives names field ∧ fields = names.map field := by
  have hplaces : ∀ items : List Json, (names.mapIdx fun i _ => items[i]?) =
      names.map fun name => items[names.idxOf name]? := by
    intro items
    refine List.ext_getElem (by simp) fun i hi _ => ?_
    rw [List.length_mapIdx] at hi
    simp [hnames.idxOf_getElem i hi]
  constructor
  · intro h
    unfold fields? at h
    split at h
    · next given => exact ⟨_, .object given, (Option.some.inj h).symm⟩
    · next items =>
      split at h
      · next hshort => exact ⟨_, .array hshort, (hplaces items ▸ Option.some.inj h).symm⟩
      · cases h
    · cases h
  · rintro ⟨field, ⟨given⟩ | ⟨hshort⟩, rfl⟩
    · rfl
    · rw [fields?, if_pos hshort, hplaces]

/-- A record that is written as an object gives its fields back, each one if it is there. -/
theorem fields?_ofOptionalFields {fields : List (String × Option Json)}
    (h : (fields.map Prod.fst).Nodup) :
    (ofOptionalFields fields).fields? (fields.map Prod.fst) = some (fields.map Prod.snd) := by
  let given := fields.filterMap fun field => field.2.map fun v => (field.1, v)
  have hmem : ∀ {name v}, (name, v) ∈ given ↔ (name, some v) ∈ fields := by
    intro name v
    simp [given, List.mem_filterMap]
  have hgiven : (given.reverse.map Prod.fst).Nodup := by
    rw [List.map_reverse, List.nodup_reverse, List.Nodup, List.pairwise_map,
      List.pairwise_filterMap]
    refine (List.pairwise_map.1 h).imp fun hne => ?_
    simp only [Option.map_eq_some_iff, forall_exists_index, and_imp]
    rintro _ _ - rfl _ _ - rfl
    exact hne
  change some ((fields.map Prod.fst).map fun name => Fields.lookup name (Fields.normal given)) = _
  rw [List.map_map]
  congr 1
  refine List.map_congr_left fun field hfield => Option.ext fun v => ?_
  obtain ⟨name, value⟩ := field
  change Fields.lookup name _ = _ ↔ value = _
  rw [Fields.lookup_normal, Fields.lookup_eq_some_iff hgiven, List.mem_reverse, hmem,
    ← Fields.lookup_eq_some_iff h, (Fields.lookup_eq_some_iff h).2 hfield, Option.some.injEq]

end Json

end RoomModeration
