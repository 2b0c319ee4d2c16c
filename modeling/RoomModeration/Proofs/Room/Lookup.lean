import RoomModeration.Room.Store
import Mathlib.Data.List.Nodup

/-!
# Looking records up

A store is a row of records, and the bot asks for records by their rooms. Both views say the same,
because no two records are of one room.

## Main results

* `RoomStore.find?_eq_some_iff` : the record of a room is the one record of that room in the row.
* `RoomStore.find?_put` : putting a record shows in its room only.
-/

namespace RoomModeration

namespace RoomRecord

theorem lists_eq_isSome (r : RoomRecord) (member : MemberId) :
    r.lists member = r.banned[member]?.isSome := by
  simp [lists]

theorem syncsBans_of_isBanTarget {r : RoomRecord} (h : r.isBanTarget = true) :
    r.syncsBans = true :=
  (Bool.and_eq_true _ _ ▸ h).1

theorem canBan_of_isBanTarget {r : RoomRecord} (h : r.isBanTarget = true) : r.canBan = true :=
  (Bool.and_eq_true _ _ ▸ h).2

end RoomRecord

namespace RoomStore

theorem mem_records_of_find? {s : RoomStore} {room : RoomId} {r : RoomRecord}
    (h : s.find? room = some r) : r ∈ s.records :=
  List.mem_of_find?_eq_some h

/-- Records of one room in the row are one record. -/
theorem eq_of_mem_records {s : RoomStore} {r t : RoomRecord} (hr : r ∈ s.records)
    (ht : t ∈ s.records) (hid : r.id = t.id) : r = t :=
  List.inj_on_of_nodup_map s.distinct hr ht hid

theorem find?_eq_some_iff {s : RoomStore} {room : RoomId} {r : RoomRecord} :
    s.find? room = some r ↔ r ∈ s.records ∧ r.id = room := by
  constructor
  · intro h
    exact ⟨mem_records_of_find? h, find?_id h⟩
  · rintro ⟨hr, rfl⟩
    cases hfind : s.find? r.id with
    | none =>
      have hno := find?_eq_none_iff.1 hfind
      rw [isTracked_iff.2 ⟨r, hr, rfl⟩] at hno
      cases hno
    | some t => rw [eq_of_mem_records (mem_records_of_find? hfind) hr (find?_id hfind)]

theorem find?_of_mem_records {s : RoomStore} {r : RoomRecord} (hr : r ∈ s.records) :
    s.find? r.id = some r :=
  find?_eq_some_iff.2 ⟨hr, rfl⟩

/-- A record after a change in one room is the changed record of that room, or one from before. -/
theorem mem_records_modify {s : RoomStore} {room : RoomId} {f : RoomRecord → RoomRecord}
    {hf : ∀ r, (f r).id = r.id} {r' : RoomRecord} (h : r' ∈ (s.modify room f hf).records) :
    r' ∈ s.records ∨ ∃ r, s.find? room = some r ∧ r' = f r := by
  obtain ⟨r, hr, rfl⟩ := List.mem_map.1 h
  by_cases hid : r.id = room
  · rw [if_pos hid]
    exact .inr ⟨r, find?_eq_some_iff.2 ⟨hr, hid⟩, rfl⟩
  · rw [if_neg hid]
    exact .inl hr

/-- Nothing changes if the record of the room does not. -/
theorem modify_eq_self {s : RoomStore} {room : RoomId} {f : RoomRecord → RoomRecord}
    {hf : ∀ r, (f r).id = r.id} (h : ∀ r, s.find? room = some r → f r = r) :
    s.modify room f hf = s := by
  refine ext' ((List.map_congr_left fun r hr => ?_).trans (List.map_id s.records))
  split
  · next hid => exact h r (find?_eq_some_iff.2 ⟨hr, hid⟩)
  · rfl

/-- Putting a record shows in its room only. -/
theorem find?_put (s : RoomStore) (record : RoomRecord) (room : RoomId) :
    (s.put record).find? room = if room = record.id then some record else s.find? room := by
  unfold put
  split
  · next htracked =>
    -- The record takes the place of an earlier one.
    have hmodify := find?_modify s record.id room (fun r => if r.id = record.id then record else r)
      (fun r => by split <;> simp_all)
    have hsame : (fun r : RoomRecord => if r.id = record.id then
        if r.id = record.id then record else r else r) =
        fun r => if r.id = record.id then record else r := by
      funext r
      split <;> simp_all
    simp only [modify, hsame] at hmodify
    rw [hmodify]
    split
    · obtain ⟨r, hr, hid⟩ := isTracked_iff.1 htracked
      rw [← hid, find?_of_mem_records hr]
      simp [hid]
    · rfl
  · next huntracked =>
    simp only [Bool.not_eq_true] at huntracked
    simp only [find?, List.find?_append, List.find?_cons, List.find?_nil]
    by_cases hroom : room = record.id
    · subst hroom
      have hnone : s.records.find? (·.id == record.id) = none := find?_eq_none_iff.2 huntracked
      simp [hnone]
    · have hne : (record.id == room) = false := by simpa using Ne.symm hroom
      simp [hroom, hne]

/-! ### Tracked rooms -/

theorem isTracked_eq_isSome (s : RoomStore) (room : RoomId) :
    s.isTracked room = (s.find? room).isSome := by
  rw [Bool.eq_iff_iff, isTracked, find?, List.find?_isSome, List.any_eq_true]

theorem isTracked_of_isTracked_modify {s : RoomStore} {room other : RoomId}
    {f : RoomRecord → RoomRecord} (hf : ∀ r, (f r).id = r.id)
    (h : (s.modify room f hf).isTracked other = true) : s.isTracked other = true := by
  rw [isTracked_eq_isSome, find?_modify] at h
  rw [isTracked_eq_isSome]
  split at h
  · next hother => rwa [Option.isSome_map, ← hother] at h
  · exact h

theorem isTracked_of_isTracked_drop {s : RoomStore} {room other : RoomId}
    (h : (s.drop room).isTracked other = true) : s.isTracked other = true := by
  rw [isTracked_eq_isSome, find?_drop] at h
  split at h
  · cases h
  · rwa [isTracked_eq_isSome]

theorem isTracked_put_of_ne {s : RoomStore} {record : RoomRecord} {room : RoomId}
    (h : record.id ≠ room) : (s.put record).isTracked room = s.isTracked room := by
  rw [isTracked_eq_isSome, isTracked_eq_isSome, find?_put, if_neg (Ne.symm h)]

end RoomStore

end RoomModeration
