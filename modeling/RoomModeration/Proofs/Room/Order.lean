import RoomModeration.Proofs.Room.Disjoint
import RoomModeration.Proofs.Task

/-!
# Records in order

The records are in order if nobody is both present and banned, every record is found under its own
room, and no member has two entries in one ban list. They are in order after any operations
whatever, and whatever the bot does comes to such operations. That they are in order after any
operations does not depend on jobs being done to their end: the operations of several jobs, in
whatever order, are operations again.

## Main definitions

* `RoomStore.InOrder` : records in order.

## Main results

* `RoomStore.inOrder_applyAll` : operations leave the records in order.
* `records_in_order` : so does everything that the bot does.
-/

namespace RoomModeration

open RoomModeration.Bot

namespace RoomStore

/-- Nobody is both present and banned in a room, every record is the one that is found under its own
room, and no member has two entries in a ban list. -/
structure InOrder (s : RoomStore) : Prop where
  disjoint : s.Disjoint
  own : ∀ room r, s.find? room = some r ↔ r ∈ s.records ∧ r.id = room
  once : ∀ r ∈ s.records, (r.banned.toList.map Prod.fst).Nodup

theorem Disjoint.inOrder {s : RoomStore} (h : s.Disjoint) : s.InOrder where
  disjoint := h
  own _ _ := find?_eq_some_iff
  once r _ := by
    rw [Std.ExtTreeMap.map_fst_toList_eq_keys]
    exact Std.ExtTreeMap.nodup_keys

/-- Operations leave the records in order. -/
theorem inOrder_applyAll (ops : List Operation) : ((∅ : RoomStore).applyAll ops).InOrder :=
  (disjoint_empty.applyAll ops).inOrder

end RoomStore

/-- Every deed keeps the records in order, and so they were in order at every call. -/
theorem Permission.preserves_inOrder [Surroundings] (K : Permission) :
    K.Preserves fun w => w.bot.rooms.InOrder ∧ ∀ before activities c result,
      .called before activities c result ∈ w.history → before.rooms.InOrder :=
  K.preserves_of_change (P := fun b => b.rooms.InOrder) fun c _ h =>
    (c.disjoint_apply h.disjoint).inOrder

/-- After any operations the records are in order; an operation concerns its room only, and unless
it begins a record, a room that has one only; and whatever the bot does, its records are what some
operations make of none, and they were in order at every call. -/
theorem records_in_order :
    (∀ ops : List RoomStore.Operation, ((∅ : RoomStore).applyAll ops).InOrder) ∧
    (∀ (op : RoomStore.Operation) (s : RoomStore),
      (∀ other, other ≠ op.room → (op.apply s).find? other = s.find? other) ∧
      (op.begins = false → s.isTracked op.room = false → op.apply s = s)) ∧
    ∀ [Surroundings] (selfId : MemberId) (store : ConfigStore) (server : Surroundings.Server)
      (tasks : List Task),
      let w := (World.initial (Bot.initial selfId store) server).doing tasks
      (∃ ops, w.bot.rooms = (∅ : RoomStore).applyAll ops) ∧ w.bot.rooms.InOrder ∧
        ∀ before activities c result,
          .called before activities c result ∈ w.history → before.rooms.InOrder := by
  refine ⟨RoomStore.inOrder_applyAll, fun op s => ⟨fun other h => op.find?_apply_of_ne s h,
    RoomStore.Operation.apply_of_untracked⟩, fun selfId store server tasks => ?_⟩
  have htrace := trace_doing (World.initial (Bot.initial selfId store) server) tasks
  refine ⟨htrace.exists_operations, (Permission.preserves_inOrder Anything).trace htrace ?_⟩
  exact ⟨RoomStore.inOrder_applyAll [], fun _ _ _ _ hmem => absurd hmem List.not_mem_nil⟩

/-- A record that is begun with a member who is reported as present and as banned, and to which the
member then comes back, is in order, and what happens in a room without a record changes nothing. -/
theorem order_after_contradiction :
    let ops : List RoomStore.Operation :=
      [.seed Sample.lobby [Sample.mallory] (.ofList [(Sample.mallory, "spam")]) ∅ ∅,
        .join Sample.lobby Sample.mallory]
    let op : RoomStore.Operation := .leave Sample.attic Sample.mallory
    let s := (∅ : RoomStore).applyAll ops
    s.InOrder ∧ s.isMember Sample.lobby Sample.mallory = true ∧ op.begins = false ∧
      s.isTracked op.room = false ∧ op.apply s = s := by
  intro ops op s
  have huntracked : s.isTracked op.room = false := by decide
  exact ⟨records_in_order.1 ops, by decide +kernel, rfl, huntracked,
    (records_in_order.2.1 op s).2 rfl huntracked⟩

end RoomModeration
