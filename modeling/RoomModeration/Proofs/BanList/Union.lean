import RoomModeration.Bot.BanList
import RoomModeration.Proofs.Room.Lookup

/-!
# The united ban list

The rooms that share their bans have one ban list in common, the union of theirs. A target misses a
ban if the union lists a member whom the target does not list. The bans that the bot finds missing
are exactly those, each of them once, and the reason for each is one that a sharing room gives.

## Main definitions

* `RoomStore.Unites` : a member is on the united list.
* `RoomStore.Misses` : a room misses the ban of a member.

## Main results

* `RoomStore.exists_missing_iff`, `RoomStore.nodup_missingBans` : the missing bans are those that
  are missed, each once.
* `RoomStore.reason_of_mem_missingBans` : where the reasons come from.
-/

namespace RoomModeration

namespace RoomStore

variable {s : RoomStore} {room : RoomId} {member : MemberId} {reason : String}

/-- A member is on the united list: some record that shares its bans lists them. -/
def Unites (s : RoomStore) (member : MemberId) : Prop :=
  ∃ r ∈ s.records, r.syncsBans = true ∧ r.lists member = true

/-- A room misses the ban of a member: it is a target, and it does not list a member of the united
list. -/
def Misses (s : RoomStore) (room : RoomId) (member : MemberId) : Prop :=
  ∃ r, s.find? room = some r ∧ r.isBanTarget = true ∧ r.lists member = false ∧ s.Unites member

/-- Which bans are missed is no matter of the order of the records. -/
theorem misses_iff_of_perm {t : RoomStore} (h : s.records.Perm t.records) :
    s.Misses room member ↔ t.Misses room member := by
  simp only [Misses, Unites, find?_eq_some_iff, h.mem_iff]

/-! ### The union -/

private theorem getElem?_foldl_insertIfNew (l : List (MemberId × String))
    (union : MemberMap String) (member : MemberId) :
    (l.foldl (fun union (m, reason) => union.insertIfNew m reason) union)[member]? =
      union[member]?.or ((l.find? (·.1 = member)).map (·.2)) := by
  induction l generalizing union with
  | nil => simp
  | cons entry l ih =>
    rw [List.foldl_cons, ih, Std.ExtTreeMap.getElem?_insertIfNew, List.find?_cons]
    by_cases hentry : entry.1 = member
    · subst hentry
      by_cases hmem : entry.1 ∈ union
      · simp [hmem]
      · simp [hmem]
    · simp [hentry]

private theorem find?_toList (entries : MemberMap String) (member : MemberId) :
    (entries.toList.find? (·.1 = member)).map (·.2) = entries[member]? := by
  cases hfind : entries.toList.find? (·.1 = member) with
  | none =>
    symm
    rw [Option.map_none, Option.eq_none_iff_forall_ne_some]
    intro reason hreason
    have hmem := Std.ExtTreeMap.mem_toList_iff_getElem?_eq_some.2 hreason
    simpa using List.find?_eq_none.1 hfind _ hmem
  | some entry =>
    have hmem := Std.ExtTreeMap.mem_toList_iff_getElem?_eq_some.1 (List.mem_of_find?_eq_some hfind)
    have hkey : entry.1 = member := by simpa using List.find?_some hfind
    rw [← hkey, hmem]
    rfl

private theorem getElem?_foldl_union (records : List RoomRecord) (union : MemberMap String)
    (member : MemberId) :
    (records.foldl (fun union r =>
        r.banned.toList.foldl (fun union (m, reason) => union.insertIfNew m reason) union)
      union)[member]? = union[member]?.or (records.findSome? (·.banned[member]?)) := by
  induction records generalizing union with
  | nil => simp
  | cons r records ih =>
    rw [List.foldl_cons, ih, getElem?_foldl_insertIfNew, find?_toList, Option.or_assoc,
      List.findSome?_cons]
    cases r.banned[member]? <;> rfl

/-- The reason in the union is the first that a sharing room gives. -/
theorem getElem?_banUnion (s : RoomStore) (member : MemberId) :
    s.banUnion[member]? = (s.recordsWhere (·.syncsBans)).findSome? (·.banned[member]?) := by
  rw [banUnion, getElem?_foldl_union, Std.ExtTreeMap.getElem?_empty, Option.none_or]

theorem exists_reason_iff_unites :
    (∃ reason, s.banUnion[member]? = some reason) ↔ s.Unites member := by
  rw [getElem?_banUnion, ← Option.isSome_iff_exists, List.isSome_findSome?, List.any_eq_true]
  simp only [recordsWhere, List.mem_filter, Unites, RoomRecord.lists_eq_isSome, and_assoc]

/-- A reason in the union is the reason of a sharing room. -/
theorem exists_record_of_banUnion (h : s.banUnion[member]? = some reason) :
    ∃ r ∈ s.records, r.syncsBans = true ∧ r.banned[member]? = some reason := by
  rw [getElem?_banUnion] at h
  obtain ⟨r, hr, hreason⟩ := List.exists_of_findSome?_eq_some h
  obtain ⟨hmem, hsyncs⟩ := List.mem_filter.1 hr
  exact ⟨r, hmem, hsyncs, hreason⟩

/-! ### The missing bans -/

theorem mem_missingBans_iff :
    ⟨room, member, reason⟩ ∈ s.missingBans ↔
      ∃ r, s.find? room = some r ∧ r.isBanTarget = true ∧ r.lists member = false ∧
        s.banUnion[member]? = some reason := by
  simp only [missingBans, List.mem_flatMap, List.mem_filterMap, recordsWhere, List.mem_filter]
  constructor
  · rintro ⟨r, ⟨hmem, htarget⟩, ⟨m, reason'⟩, hentry, hmissing⟩
    cases hlists : r.lists m with
    | true => simp [hlists] at hmissing
    | false =>
      simp only [hlists, Bool.false_eq_true, if_false, Option.some.injEq, MissingBan.mk.injEq]
        at hmissing
      obtain ⟨rfl, rfl, rfl⟩ := hmissing
      exact ⟨r, find?_of_mem_records hmem, htarget, hlists,
        Std.ExtTreeMap.mem_toList_iff_getElem?_eq_some.1 hentry⟩
  · rintro ⟨r, hfind, htarget, hlists, hreason⟩
    obtain ⟨hmem, rfl⟩ := find?_eq_some_iff.1 hfind
    exact ⟨r, ⟨hmem, htarget⟩, (member, reason),
      Std.ExtTreeMap.mem_toList_iff_getElem?_eq_some.2 hreason, by simp [hlists]⟩

/-- The missing bans are those that are missed. -/
theorem exists_missing_iff :
    (∃ missing ∈ s.missingBans, missing.room = room ∧ missing.member = member) ↔
      s.Misses room member := by
  constructor
  · rintro ⟨⟨_, _, reason⟩, hmem, rfl, rfl⟩
    obtain ⟨r, hfind, htarget, hlists, hreason⟩ := mem_missingBans_iff.1 hmem
    exact ⟨r, hfind, htarget, hlists, exists_reason_iff_unites.1 ⟨reason, hreason⟩⟩
  · rintro ⟨r, hfind, htarget, hlists, hunites⟩
    obtain ⟨reason, hreason⟩ := exists_reason_iff_unites.2 hunites
    exact ⟨⟨room, member, reason⟩, mem_missingBans_iff.2 ⟨r, hfind, htarget, hlists, hreason⟩,
      rfl, rfl⟩

theorem reason_of_mem_missingBans {missing : MissingBan} (h : missing ∈ s.missingBans) :
    ∃ r ∈ s.records, r.syncsBans = true ∧ r.banned[missing.member]? = some missing.reason := by
  obtain ⟨_, _, _, _, hreason⟩ := mem_missingBans_iff.1 h
  exact exists_record_of_banUnion hreason

/-- No ban is found missing twice, whatever the rows it is found in. -/
theorem nodup_missingBans (s : RoomStore) :
    (s.missingBans.map fun missing => (missing.room, missing.member)).Nodup := by
  rw [missingBans, List.map_flatMap, List.nodup_flatMap]
  constructor
  · -- In one room the members differ, because the union lists each member once.
    intro r _
    refine List.Pairwise.map _ (fun _ _ h => h) (List.Pairwise.filterMap _ ?_
      s.banUnion.distinct_keys_toList)
    intro a b hab x hx y hy heq
    refine hab ?_
    simp only [Option.ite_none_left_eq_some, Option.some.injEq] at hx hy
    obtain ⟨-, rfl⟩ := hx
    obtain ⟨-, rfl⟩ := hy
    simpa using (Prod.mk.inj heq).2
  · -- Between two rooms the rooms differ.
    have hids : (s.recordsWhere (·.isBanTarget)).Pairwise fun r t => r.id ≠ t.id :=
      List.Pairwise.filter _ (List.pairwise_map.1 s.distinct)
    refine hids.imp fun {r t} hne => ?_
    simp only [Function.onFun, List.disjoint_left, List.mem_map, List.mem_filterMap]
    rintro _ ⟨x, ⟨_, _, hx⟩, rfl⟩ ⟨y, ⟨_, _, hy⟩, heq⟩
    refine hne ?_
    simp only [Option.ite_none_left_eq_some, Option.some.injEq] at hx hy
    obtain ⟨-, rfl⟩ := hx
    obtain ⟨-, rfl⟩ := hy
    exact (Prod.mk.inj heq).1.symm

theorem missingBans_eq_nil (h : ∀ room member, ¬ s.Misses room member) : s.missingBans = [] := by
  rw [List.eq_nil_iff_forall_not_mem]
  intro missing hmem
  exact h missing.room missing.member (exists_missing_iff.1 ⟨missing, hmem, rfl, rfl⟩)

end RoomStore

end RoomModeration
