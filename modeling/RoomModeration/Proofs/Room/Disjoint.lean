import RoomModeration.Proofs.BanList.Warrant
import RoomModeration.Proofs.Room.Operation

/-!
# Nobody is both present and banned

In every record of every run no member is both present and banned. A record begins so, because those
who are reported as both count as banned, and every change of one member keeps it so.

## Main definitions

* `RoomRecord.Disjoint` : no member is both present and banned.

## Main results

* `RoomStore.Disjoint.apply`, `Change.disjoint_apply` : every operation keeps records so, and every
  change of the bot.
* `Reachable.disjoint` : the records of every run are so.
-/

namespace RoomModeration

open BotM RoomModeration.Bot

namespace RoomRecord

variable {r : RoomRecord}

/-- No member is both present and banned. -/
def Disjoint (r : RoomRecord) : Prop :=
  ∀ member, r.members.contains member = true → r.lists member = false

theorem disjoint_seeded (id : RoomId) (members : List MemberId) (banned : MemberMap String)
    (modes : ModeSet) (params : ModeMap String) :
    (seeded id members banned modes params).Disjoint := by
  intro member hpresent
  simp only [seeded, Std.ExtTreeSet.contains_ofList, List.contains_iff_mem, List.mem_filter,
    Bool.not_eq_true'] at hpresent
  exact hpresent.2

theorem Disjoint.join (h : r.Disjoint) (member : MemberId) : (r.join member).Disjoint := by
  intro m hpresent
  simp only [RoomRecord.join, RoomRecord.lists, Std.ExtTreeSet.contains_insert, Bool.or_eq_true,
    Std.ExtTreeMap.contains_erase, Bool.and_eq_false_iff] at hpresent ⊢
  rcases hpresent with hnew | hold
  · left
    simpa using hnew
  · right
    exact h m hold

theorem Disjoint.leave (h : r.Disjoint) (member : MemberId) : (r.leave member).Disjoint := by
  intro m hpresent
  simp only [RoomRecord.leave, Std.ExtTreeSet.contains_erase, Bool.and_eq_true] at hpresent
  exact h m hpresent.2

theorem Disjoint.ban (h : r.Disjoint) (member : MemberId) (reason : String) :
    (r.ban member reason).Disjoint := by
  intro m hpresent
  simp only [RoomRecord.ban, RoomRecord.lists, Std.ExtTreeSet.contains_erase, Bool.and_eq_true,
    Std.ExtTreeMap.contains_insert, Bool.or_eq_false_iff] at hpresent ⊢
  exact ⟨by simpa using hpresent.1, h m hpresent.2⟩

theorem Disjoint.unban (h : r.Disjoint) (member : MemberId) : (r.unban member).Disjoint := by
  intro m hpresent
  simp only [RoomRecord.unban, RoomRecord.lists, Std.ExtTreeMap.contains_erase,
    Bool.and_eq_false_iff] at hpresent ⊢
  exact .inr (h m hpresent)

end RoomRecord

/-- In no record is a member both present and banned. -/
def RoomStore.Disjoint (s : RoomStore) : Prop :=
  ∀ r ∈ s.records, r.Disjoint

namespace RoomStore

variable {s : RoomStore}

theorem Disjoint.modify (h : s.Disjoint) (room : RoomId) {f : RoomRecord → RoomRecord}
    (hid : ∀ r, (f r).id = r.id) (hf : ∀ r : RoomRecord, r.Disjoint → (f r).Disjoint) :
    (s.modify room f hid).Disjoint := by
  intro r' hr'
  rcases mem_records_modify hr' with hold | ⟨r, hr, rfl⟩
  · exact h r' hold
  · exact hf r (h r (mem_records_of_find? hr))

theorem Disjoint.put (h : s.Disjoint) {record : RoomRecord} (hrecord : record.Disjoint) :
    (s.put record).Disjoint := by
  intro r hr
  have hfind := find?_of_mem_records hr
  rw [find?_put] at hfind
  split at hfind
  · obtain rfl := Option.some.inj hfind
    exact hrecord
  · exact h r (mem_records_of_find? hfind)

theorem Disjoint.drop (h : s.Disjoint) (room : RoomId) : (s.drop room).Disjoint :=
  fun r hr => h r (List.mem_of_mem_filter hr)

/-- Every operation keeps members and bans disjoint. -/
theorem Disjoint.apply (h : s.Disjoint) (op : Operation) : (op.apply s).Disjoint := by
  cases op with
  | seed => exact h.put (RoomRecord.disjoint_seeded _ _ _ _ _)
  | drop room => exact h.drop room
  | join room member =>
    exact h.modify room (f := (·.join member)) (fun _ => rfl) fun r hr => hr.join member
  | leave room member =>
    exact h.modify room (f := (·.leave member)) (fun _ => rfl) fun r hr => hr.leave member
  | ban room member reason =>
    exact h.modify room (f := (·.ban member reason)) (fun _ => rfl) fun r hr => hr.ban member reason
  | unban room member =>
    exact h.modify room (f := (·.unban member)) (fun _ => rfl) fun r hr => hr.unban member
  | setModes room modes params =>
    exact h.modify room (f := (·.withModes modes params)) (fun _ => rfl) fun r hr => hr

theorem Disjoint.applyAll (h : s.Disjoint) (ops : List Operation) : (s.applyAll ops).Disjoint := by
  induction ops generalizing s with
  | nil => exact h
  | cons op ops ih => exact ih (h.apply op)

theorem disjoint_empty : (∅ : RoomStore).Disjoint :=
  fun _ hr => absurd hr List.not_mem_nil

end RoomStore

/-- Every change of the bot keeps members and bans disjoint. -/
theorem Change.disjoint_apply (c : Change) {b : Bot} (h : b.rooms.Disjoint) :
    (c.apply b).rooms.Disjoint := by
  obtain ⟨ops, hops⟩ := c.exists_operations b
  rw [hops]
  exact h.applyAll ops

/-- Every deed keeps members and bans disjoint. -/
theorem Permission.preserves_disjoint [Surroundings] (K : Permission) :
    K.Preserves fun w => w.bot.rooms.Disjoint := by
  intro w w' d _ hleads hw
  cases hleads with
  | aside bot | report _ _ bot | call _ _ bot =>
    rw [bot]
    exact hw
  | change c bot =>
    rw [bot]
    exact c.disjoint_apply hw

/-- In every run nobody is both present and banned. -/
theorem Reachable.disjoint [Surroundings] {w : World} (h : Reachable w) :
    w.bot.rooms.Disjoint :=
  h.invariant (I := fun v => v.bot.rooms.Disjoint)
    (fun _ _ _ => RoomStore.disjoint_empty)
    -- That deeds are warranted does not matter here, only that each change is a known one.
    fun x => (does_warranted x).keeps (Permission.preserves_disjoint _)

end RoomModeration
