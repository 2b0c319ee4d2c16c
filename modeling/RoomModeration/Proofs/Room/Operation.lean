import RoomModeration.Proofs.Deed
import RoomModeration.Proofs.Room.Lookup

/-!
# Operations on the records

Whatever the bot does to its records is one of seven operations. Each is about one room and leaves
the record of every other room as it is; and but for the one that begins a record, it does nothing
to a room without a record.

## Main definitions

* `RoomStore.Operation` : the operations.
* `RoomStore.applyAll` : several operations, one after the other.

## Main results

* `RoomStore.Operation.find?_apply_of_ne` : an operation leaves other rooms alone.
* `RoomStore.Operation.apply_of_untracked` : it does nothing to a room without a record.
* `Change.exists_operations` : every change of the bot comes to some operations on its records.
-/

namespace RoomModeration

namespace RoomStore

/-- An operation on the records. -/
inductive Operation where
  /-- A record is begun, in place of an earlier one. -/
  | seed (room : RoomId) (members : List MemberId) (banned : MemberMap String) (modes : ModeSet)
      (params : ModeMap String)
  /-- A member joins. -/
  | join (room : RoomId) (member : MemberId)
  /-- A member leaves. -/
  | leave (room : RoomId) (member : MemberId)
  /-- A member is banned. -/
  | ban (room : RoomId) (member : MemberId) (reason : String)
  /-- A ban is lifted. -/
  | unban (room : RoomId) (member : MemberId)
  /-- The modes and parameters are set. -/
  | setModes (room : RoomId) (modes : ModeSet) (params : ModeMap String)
  /-- The record is ended. -/
  | drop (room : RoomId)

namespace Operation

/-- The room that an operation is about. -/
def room : Operation → RoomId
  | seed room .. | join room _ | leave room _ | ban room .. | unban room _ | setModes room ..
  | drop room => room

/-- The records after an operation. -/
def apply : Operation → RoomStore → RoomStore
  | seed room members banned modes params, s => s.seed room members banned modes params
  | join room member, s => (s.applyJoin room member).2
  | leave room member, s => (s.applyLeave room member).2
  | ban room member reason, s => (s.applyBan room member reason).2
  | unban room member, s => (s.applyUnban room member).2
  | setModes room modes params, s => s.setModes room modes params
  | drop room, s => s.drop room

/-- Whether an operation begins a record. -/
def begins : Operation → Bool
  | seed .. => true
  | _ => false

/-- An operation begins the record of its room, ends it or changes it. -/
theorem apply_cases (op : Operation) :
    (op.begins = true ∧ ∃ record, record.id = op.room ∧ ∀ s, op.apply s = s.put record) ∨
      (∀ s, op.apply s = s.drop op.room) ∨
        ∃ (f : RoomRecord → RoomRecord) (hf : ∀ r, (f r).id = r.id),
          ∀ s, op.apply s = s.modify op.room f hf := by
  cases op with
  | seed room members banned modes params => exact .inl ⟨rfl, _, rfl, fun _ => rfl⟩
  | drop room => exact .inr (.inl fun _ => rfl)
  | join room member => exact .inr (.inr ⟨(·.join member), fun _ => rfl, fun _ => rfl⟩)
  | leave room member => exact .inr (.inr ⟨(·.leave member), fun _ => rfl, fun _ => rfl⟩)
  | ban room member reason =>
    exact .inr (.inr ⟨(·.ban member reason), fun _ => rfl, fun _ => rfl⟩)
  | unban room member => exact .inr (.inr ⟨(·.unban member), fun _ => rfl, fun _ => rfl⟩)
  | setModes room modes params =>
    exact .inr (.inr ⟨(·.withModes modes params), fun _ => rfl, fun _ => rfl⟩)

/-- An operation leaves the record of every other room as it is. -/
theorem find?_apply_of_ne (op : Operation) (s : RoomStore) {other : RoomId} (h : other ≠ op.room) :
    (op.apply s).find? other = s.find? other := by
  obtain ⟨-, record, hid, happly⟩ | happly | ⟨f, hf, happly⟩ := op.apply_cases
  · rw [happly, find?_put, hid, if_neg h]
  · rw [happly, find?_drop, if_neg h]
  · rw [happly, find?_modify, if_neg h]

/-- But for the beginning of a record, an operation on a room without a record does nothing. -/
theorem apply_of_untracked {op : Operation} {s : RoomStore} (hbegins : op.begins = false)
    (h : s.isTracked op.room = false) : op.apply s = s := by
  have hnone : ∀ r, s.find? op.room ≠ some r := by
    rw [find?_eq_none_iff.2 h]
    exact fun _ => nofun
  obtain ⟨hseed, -⟩ | happly | ⟨f, hf, happly⟩ := op.apply_cases
  · rw [hbegins] at hseed
    cases hseed
  · rw [happly]
    refine ext' (List.filter_eq_self.2 fun r hr => bne_iff_ne.2 fun hid => hnone r ?_)
    exact find?_eq_some_iff.2 ⟨hr, hid⟩
  · rw [happly]
    exact modify_eq_self fun r hr => absurd hr (hnone r)

end Operation

/-- The records after several operations, one after the other. -/
def applyAll (s : RoomStore) (ops : List Operation) : RoomStore :=
  ops.foldl (fun s op => op.apply s) s

theorem applyAll_append (s : RoomStore) (before after : List Operation) :
    s.applyAll (before ++ after) = (s.applyAll before).applyAll after :=
  List.foldl_append

end RoomStore

/-- Every change of the bot comes to one operation on its records, or to none. -/
theorem Change.exists_operations (c : Change) (b : Bot) :
    ∃ ops, (c.apply b).rooms = b.rooms.applyAll ops := by
  cases c with
  | stored | registered | cursorMoved | readied | shutdownAsked | measured => exact ⟨[], rfl⟩
  | unregistered room =>
    refine ⟨[], ?_⟩
    change (b.unregister room).2.rooms = b.rooms
    unfold Bot.unregister
    split <;> rfl
  | seeded room members banned config =>
    exact ⟨[.seed room members banned config.modes config.typedParams], rfl⟩
  | dropped room => exact ⟨[.drop room], rfl⟩
  | joined room member => exact ⟨[.join room member], rfl⟩
  | left room member => exact ⟨[.leave room member], rfl⟩
  | banned room member reason => exact ⟨[.ban room member reason], rfl⟩
  | unbanned room member => exact ⟨[.unban room member], rfl⟩
  | refreshed room =>
    let config := b.config.roomConfig room
    exact ⟨[.setModes room config.modes config.typedParams], rfl⟩

/-- Whatever deeds are done, they come to some operations on the records. -/
theorem Trace.exists_operations [Surroundings] {K : Permission} {w w' : World}
    (h : Trace K w w') : ∃ ops, w'.bot.rooms = w.bot.rooms.applyAll ops := by
  refine h.invariant (I := fun v => ∃ ops, v.bot.rooms = w.bot.rooms.applyAll ops)
    (fun {v v' _} _ hleads hv => ?_) ⟨[], rfl⟩
  obtain ⟨ops, hops⟩ := hv
  cases hleads with
  | aside bot | report _ _ bot | call _ _ bot => exact ⟨ops, by rw [bot, hops]⟩
  | change c bot =>
    obtain ⟨more, hmore⟩ := c.exists_operations v.bot
    exact ⟨ops ++ more, by rw [bot, hmore, hops, RoomStore.applyAll_append]⟩

end RoomModeration
