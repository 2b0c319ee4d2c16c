import RoomModeration.Homeserver.Call
import RoomModeration.Proofs.Room.Lookup

/-!
# Sanctions

A ban and the lifting of a ban are handled alike: both are a call to the homeserver and a change of
one entry in one record. A sanction is either of them, given by the reason that the entry shows
afterwards, if there is an entry at all. Of several sanctions of one member in one room the last
decides.

## Main definitions

* `Sanction` : a ban or the lifting of a ban, with its call and its effect on the records.
* `RoomStore.sanctionAll` : the store after some sanctions.

## Main results

* `RoomStore.find?_sanctionAll` : each record shows the sanctions of its own room.
* `RoomRecord.banned_sanctionAll`, `RoomRecord.members_sanctionAll` : what a record shows of a
  member after some sanctions.
-/

namespace RoomModeration

/-- A ban, or the lifting of one. -/
structure Sanction where
  /-- The room. -/
  room : RoomId
  /-- The member. -/
  member : MemberId
  /-- The reason for the ban; absent if a ban is lifted. -/
  reason? : Option String
  deriving DecidableEq, Repr

namespace Sanction

/-- The call by which the homeserver is asked for a sanction. -/
def call (a : Sanction) : Call :=
  match a.reason? with
  | some reason => .ban a.room a.member reason
  | none => .unban a.room a.member

/-- The record after a sanction. -/
def onRecord (a : Sanction) (r : RoomRecord) : RoomRecord :=
  match a.reason? with
  | some reason => r.ban a.member reason
  | none => r.unban a.member

@[simp] theorem onRecord_id (a : Sanction) (r : RoomRecord) : (a.onRecord r).id = r.id := by
  cases h : a.reason? <;> simp [onRecord, h]

@[simp] theorem onRecord_modes (a : Sanction) (r : RoomRecord) :
    (a.onRecord r).modes = r.modes := by
  cases h : a.reason? <;> simp [onRecord, h, RoomRecord.ban, RoomRecord.unban]

@[simp] theorem onRecord_params (a : Sanction) (r : RoomRecord) :
    (a.onRecord r).params = r.params := by
  cases h : a.reason? <;> simp [onRecord, h, RoomRecord.ban, RoomRecord.unban]

/-- The store after a sanction. -/
def onStore (a : Sanction) (s : RoomStore) : RoomStore :=
  s.modify a.room a.onRecord a.onRecord_id

theorem find?_onStore (a : Sanction) (s : RoomStore) (room : RoomId) :
    (a.onStore s).find? room =
      if room = a.room then (s.find? room).map a.onRecord else s.find? room := by
  rw [onStore, RoomStore.find?_modify]
  split
  · next h => rw [h]
  · rfl

/-- Afterwards the entry of the member is the one that the sanction gives. -/
theorem banned_onRecord (a : Sanction) (r : RoomRecord) (member : MemberId) :
    (a.onRecord r).banned[member]? =
      if a.member = member then a.reason? else r.banned[member]? := by
  cases h : a.reason? with
  | none =>
    simp only [onRecord, h, RoomRecord.unban, Std.ExtTreeMap.getElem?_erase,
      Std.compare_eq_iff_eq]
  | some reason =>
    simp only [onRecord, h, RoomRecord.ban, Std.ExtTreeMap.getElem?_insert,
      Std.compare_eq_iff_eq]

/-- A ban removes its member from those present, and nothing else does. -/
theorem members_onRecord (a : Sanction) (r : RoomRecord) (member : MemberId) :
    (a.onRecord r).members.contains member =
      (r.members.contains member && !(a.member == member && a.reason?.isSome)) := by
  cases h : a.reason? with
  | none => simp [onRecord, h, RoomRecord.unban]
  | some reason =>
    have hcompare : (compare a.member member == .eq) = (a.member == member) := by
      rw [Bool.eq_iff_iff]
      simp
    simp [onRecord, h, RoomRecord.ban, Std.ExtTreeSet.contains_erase, bne, hcompare,
      Bool.and_comm]

end Sanction

/-! ### Several sanctions -/

/-- The record after some sanctions. -/
def RoomRecord.sanctionAll (r : RoomRecord) (l : List Sanction) : RoomRecord :=
  l.foldl (fun r a => a.onRecord r) r

/-- The store after some sanctions. -/
def RoomStore.sanctionAll (s : RoomStore) (l : List Sanction) : RoomStore :=
  l.foldl (fun s a => a.onStore s) s

namespace RoomRecord

variable (r : RoomRecord) (l : List Sanction) (member : MemberId)

@[simp] theorem sanctionAll_modes : (r.sanctionAll l).modes = r.modes := by
  induction l generalizing r with
  | nil => rfl
  | cons a l ih => exact (ih (a.onRecord r)).trans (a.onRecord_modes r)

@[simp] theorem sanctionAll_params : (r.sanctionAll l).params = r.params := by
  induction l generalizing r with
  | nil => rfl
  | cons a l ih => exact (ih (a.onRecord r)).trans (a.onRecord_params r)

theorem sanctionAll_isBanTarget : (r.sanctionAll l).isBanTarget = r.isBanTarget := by
  simp [isBanTarget, syncsBans, hasMode, canBan]

/-- The last sanction of a member decides; without any the entry is the one it was. -/
theorem banned_sanctionAll :
    (r.sanctionAll l).banned[member]? =
      ((l.reverse.find? (·.member = member)).map Sanction.reason?).getD r.banned[member]? := by
  induction l generalizing r with
  | nil => rfl
  | cons a l ih =>
    refine (ih (a.onRecord r)).trans ?_
    rw [List.reverse_cons, List.find?_append, a.banned_onRecord]
    cases l.reverse.find? (·.member = member) with
    | some last => rfl
    | none =>
      by_cases h : a.member = member
      · simp [h]
      · simp [h]

/-- Without a sanction of the member the entry is the one it was. -/
theorem banned_sanctionAll_of_forall_ne (h : ∀ a ∈ l, a.member ≠ member) :
    (r.sanctionAll l).banned[member]? = r.banned[member]? := by
  rw [banned_sanctionAll, List.find?_eq_none.2]
  · rfl
  · intro a ha
    simpa using h a (List.mem_reverse.1 ha)

variable {l member} in
/-- With a sanction of the member the entry is the one that such a sanction gives. -/
theorem exists_banned_sanctionAll {a : Sanction} (ha : a ∈ l) (hmember : a.member = member) :
    ∃ b ∈ l, b.member = member ∧ (r.sanctionAll l).banned[member]? = b.reason? := by
  rw [banned_sanctionAll]
  cases hfind : l.reverse.find? (·.member = member) with
  | none =>
    have hne := List.find?_eq_none.1 hfind a (List.mem_reverse.2 ha)
    exact absurd hmember (by simpa using hne)
  | some b =>
    exact ⟨b, List.mem_reverse.1 (List.mem_of_find?_eq_some hfind),
      by simpa using List.find?_some hfind, rfl⟩

/-- Those who were present are still present, unless they were banned. -/
theorem members_sanctionAll :
    (r.sanctionAll l).members.contains member =
      (r.members.contains member &&
        !l.any fun a => a.member == member && a.reason?.isSome) := by
  induction l generalizing r with
  | nil => simp [sanctionAll]
  | cons a l ih =>
    refine (ih (a.onRecord r)).trans ?_
    rw [a.members_onRecord, List.any_cons, Bool.not_or, Bool.and_assoc]

end RoomRecord

namespace RoomStore

/-- Each record shows the sanctions of its own room. -/
theorem find?_sanctionAll (s : RoomStore) (l : List Sanction) (room : RoomId) :
    (s.sanctionAll l).find? room =
      (s.find? room).map (·.sanctionAll (l.filter (·.room = room))) := by
  induction l generalizing s with
  | nil => simp [sanctionAll, RoomRecord.sanctionAll]
  | cons a l ih =>
    refine (ih (a.onStore s)).trans ?_
    rw [a.find?_onStore]
    by_cases h : a.room = room
    · simp [h, Function.comp_def, RoomRecord.sanctionAll]
    · have hne : ¬ room = a.room := fun h' => h h'.symm
      simp [h, hne]

end RoomStore

end RoomModeration
