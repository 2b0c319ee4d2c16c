import Mathlib.Data.List.Induction
import Mathlib.Data.List.Nodup
import RoomModeration.Id

/-!
# Ordered sets and maps

A map keeps its entries in the order of their keys, so the first entry is the one under the least
key, and the last entry the one under the greatest. Put together out of a row of entries a map
gives, of several entries with one key, the last; and a new value under an old key takes the place
of the old value in the row.

## Main results

* `head?_toList_eq_some_iff`, `getLast?_toList_eq_some_iff` : the first entry and the last.
* `ofList_toList_set`, `ofList_reverse_toList` : a set and a map are put together again.
* `getElem?_ofList` : what a map that is put together out of entries gives for a key.
* `toList_insert` : the entries of a map in which a key has a new value.
-/

namespace RoomModeration

variable {α β : Type} [Ord α] [Std.TransOrd α] [Std.LawfulEqOrd α]
variable {m : Std.ExtTreeMap α β} {key : α} {value old : β}

/-! ### Entries -/

/-- No name stands for two keys of a map. -/
theorem nodup_map_toList {γ : Type} {name : α → γ} (hname : ∀ {a b}, name a = name b → a = b)
    (m : Std.ExtTreeMap α β) : (m.toList.map fun entry => name entry.1).Nodup := by
  rw [List.Nodup, List.pairwise_map]
  refine m.distinct_keys_toList.imp fun hdistinct hsame => hdistinct ?_
  rw [hname hsame]
  exact Std.ReflOrd.compare_self

theorem getElem?_of_toList {before after : List (α × β)}
    (h : m.toList = before ++ (key, value) :: after) : m[key]? = some value := by
  rw [← Std.ExtTreeMap.mem_toList_iff_getElem?_eq_some, h]
  exact List.mem_append_right _ List.mem_cons_self

/-! ### The first entry and the last -/

/-- Whoever has found the key of an entry has found the entry. -/
theorem eq_some_entry_iff {found : Option (α × β)}
    (h : ∀ entry, found = some entry → entry ∈ m.toList) :
    found = some (key, value) ↔ found.map Prod.fst = some key ∧ m[key]? = some value := by
  cases found with
  | none => simp
  | some entry =>
    obtain ⟨k, v⟩ := entry
    have hv := Std.ExtTreeMap.mem_toList_iff_getElem?_eq_some.1 (h _ rfl)
    simp only [Option.some.injEq, Prod.mk.injEq, Option.map_some]
    refine and_congr_right fun hkey => ?_
    rw [← hkey, hv, Option.some.injEq]

/-- The first entry is the one under the least key. -/
theorem head?_toList_eq_some_iff : m.toList.head? = some (key, value) ↔
    m[key]? = some value ∧ ∀ other ∈ m, (compare key other).isLE = true := by
  rw [eq_some_entry_iff fun _ => List.mem_of_head?, ← List.head?_map,
    Std.ExtTreeMap.map_fst_toList_eq_keys, ← Std.ExtTreeMap.minKey?_eq_head?_keys,
    Std.ExtTreeMap.minKey?_eq_some_iff_mem_and_forall, and_comm]
  exact and_congr_right fun hvalue => and_iff_right (getElem?_eq_some_iff.1 hvalue).1

/-- The last entry is the one under the greatest key. -/
theorem getLast?_toList_eq_some_iff : m.toList.getLast? = some (key, value) ↔
    m[key]? = some value ∧ ∀ other ∈ m, (compare other key).isLE = true := by
  rw [eq_some_entry_iff fun _ => List.mem_of_getLast?, ← List.getLast?_map,
    Std.ExtTreeMap.map_fst_toList_eq_keys, ← Std.ExtTreeMap.maxKey?_eq_getLast?_keys,
    Std.ExtTreeMap.maxKey?_eq_some_iff_mem_and_forall, and_comm]
  exact and_congr_right fun hvalue => and_iff_right (getElem?_eq_some_iff.1 hvalue).1

/-! ### Put together again -/

section

variable [BEq α] [Std.LawfulBEqOrd α]

/-- A set is put together again out of its members. -/
theorem ofList_toList_set (s : Std.ExtTreeSet α) : Std.ExtTreeSet.ofList s.toList = s := by
  refine Std.ExtTreeSet.ext_contains fun x => ?_
  rw [Std.ExtTreeSet.contains_ofList, Std.ExtTreeSet.contains_toList]

/-- A map is put together again out of its entries, also if the last one comes first. -/
theorem ofList_reverse_toList (m : Std.ExtTreeMap α β) :
    Std.ExtTreeMap.ofList m.toList.reverse = m := by
  have hdistinct : m.toList.reverse.Pairwise fun a b => ¬compare a.1 b.1 = .eq :=
    List.pairwise_reverse.2 (m.distinct_keys_toList.imp fun h => h ∘ Std.OrientedCmp.eq_symm)
  refine Std.ExtTreeMap.ext_getElem? fun key => ?_
  cases hkey : m[key]? with
  | none =>
    refine Std.ExtTreeMap.getElem?_ofList_of_contains_eq_false ?_
    rw [List.contains_eq_mem, decide_eq_false_iff_not]
    rintro hmem
    obtain ⟨⟨_, value⟩, hentry, rfl⟩ := List.mem_map.1 hmem
    rw [List.mem_reverse, Std.ExtTreeMap.mem_toList_iff_getElem?_eq_some, hkey] at hentry
    cases hentry
  | some value =>
    refine Std.ExtTreeMap.getElem?_ofList_of_mem Std.ReflOrd.compare_self hdistinct ?_
    rw [List.mem_reverse, Std.ExtTreeMap.mem_toList_iff_getElem?_eq_some, hkey]

end

/-! ### New values -/

theorem getElem?_insert_of_ne {other : α} (h : other ≠ key) :
    (m.insert key value)[other]? = m[other]? := by
  rw [Std.ExtTreeMap.getElem?_insert, if_neg]
  exact fun hsame => h (Std.compare_eq_iff_eq.1 hsame).symm

theorem getElem?_erase_of_ne {other : α} (h : other ≠ key) :
    (m.erase key)[other]? = m[other]? := by
  rw [Std.ExtTreeMap.getElem?_erase, if_neg]
  exact fun hsame => h (Std.compare_eq_iff_eq.1 hsame).symm

/-- Of two values that are put under one key the later one stays. -/
theorem insert_insert (m : Std.ExtTreeMap α β) (key : α) (old new : β) :
    (m.insert key old).insert key new = m.insert key new := by
  refine Std.ExtTreeMap.ext_getElem? fun other => ?_
  simp only [Std.ExtTreeMap.getElem?_insert]
  split <;> rfl

variable [DecidableEq α]

/-- Of several entries with one key the last one stays. -/
theorem getElem?_ofList (entries : List (α × β)) (key : α) :
    (Std.ExtTreeMap.ofList entries)[key]? =
      ((entries.filter (·.1 = key)).getLast?).map Prod.snd := by
  rw [Std.ExtTreeMap.ofList_eq_insertMany_empty]
  induction entries using List.reverseRecOn with
  | nil => simp
  | append_singleton entries entry ih =>
    obtain ⟨k, v⟩ := entry
    rw [Std.ExtTreeMap.insertMany_append, Std.ExtTreeMap.insertMany_list_singleton,
      Std.ExtTreeMap.getElem?_insert, ih, List.filter_append]
    by_cases hkey : k = key
    · rw [if_pos (Std.compare_eq_iff_eq.2 hkey)]
      simp [hkey]
    · rw [if_neg (mt Std.compare_eq_iff_eq.1 hkey)]
      simp [hkey]

/-- To give an old key a new value is to change its value. -/
theorem insert_eq_map (hkey : m[key]? = some old) (new : β) :
    m.insert key new = m.map fun other v => if other = key then new else v := by
  refine Std.ExtTreeMap.ext_getElem? fun other => ?_
  rw [Std.ExtTreeMap.getElem?_map]
  by_cases hother : other = key
  · rw [hother, Std.ExtTreeMap.getElem?_insert_self, hkey, Option.map_some, if_pos rfl]
  · rw [getElem?_insert_of_ne hother]
    simp [hother]

/-- A new value under an old key stands where the old value stood. -/
theorem toList_insert {before after : List (α × β)}
    (h : m.toList = before ++ (key, old) :: after) (new : β) :
    (m.insert key new).toList = before ++ (key, new) :: after := by
  have hdistinct : (m.toList.map Prod.fst).Nodup := nodup_map_toList id m
  rw [h, List.map_append, List.map_cons, List.nodup_middle, List.nodup_cons, ← List.map_append]
    at hdistinct
  have hkept : ∀ entries : List (α × β), entries ⊆ before ++ after →
      entries.map (fun entry => (entry.1, if entry.1 = key then new else entry.2)) = entries := by
    intro entries hentries
    refine (List.map_congr_left fun entry hentry => ?_).trans (List.map_id _)
    have hmem := List.mem_map_of_mem (f := Prod.fst) (hentries hentry)
    rw [if_neg fun hsame : entry.1 = key => hdistinct.1 (hsame ▸ hmem)]
    rfl
  rw [insert_eq_map (getElem?_of_toList h), Std.ExtTreeMap.toList_map, h, List.map_append,
    List.map_cons, if_pos rfl, hkept _ (List.subset_append_left _ _),
    hkept _ (List.subset_append_right _ _)]

end RoomModeration
