import RoomModeration.Id

/-!
# The registry of welcome rooms

Each newcomer to a room with the mode `WELCOME` is greeted in a private room. The registry holds
the welcome rooms that are open. An entry leaves the registry only by `remove`, and whoever removed
it is the one to close the room, so that no room is closed twice.

Times count milliseconds from a common origin.

## Main definitions

* `WelcomeRoom` : an open welcome room.
* `WelcomeRegistry` : the open welcome rooms, no two of one identifier.
* `WelcomeRegistry.expired` : those that have reached an age.
-/

namespace RoomModeration

/-- A welcome room. -/
structure WelcomeRoom where
  /-- The room. -/
  id : RoomId
  /-- The member it was opened for. -/
  member : MemberId
  /-- The room that the member joined. -/
  source : RoomId
  /-- When it was opened. -/
  openedAt : Nat
  deriving DecidableEq, Repr

/-- How old a welcome room is; nothing is younger than zero. -/
def WelcomeRoom.age (w : WelcomeRoom) (now : Nat) : Nat :=
  now - w.openedAt

/-- The open welcome rooms, no two of one identifier, in any order. -/
structure WelcomeRegistry where
  /-- The entries. -/
  entries : List WelcomeRoom
  /-- No two entries have one identifier. -/
  distinct : (entries.map (·.id)).Nodup

namespace WelcomeRegistry

/-- The registry without entries. -/
def empty : WelcomeRegistry where
  entries := []
  distinct := List.nodup_nil

instance : EmptyCollection WelcomeRegistry := ⟨empty⟩

instance : Inhabited WelcomeRegistry := ⟨empty⟩

/-- The entry of a room. -/
def get? (w : WelcomeRegistry) (room : RoomId) : Option WelcomeRoom :=
  w.entries.find? (·.id == room)

/-- Whether a room is a welcome room. -/
def contains (w : WelcomeRegistry) (room : RoomId) : Bool :=
  w.entries.any (·.id == room)

/-- The number of entries. -/
def size (w : WelcomeRegistry) : Nat :=
  w.entries.length

/-- The registry without the entry of a room. -/
def erase (w : WelcomeRegistry) (room : RoomId) : WelcomeRegistry where
  entries := w.entries.filter (·.id != room)
  distinct := w.distinct.sublist (List.Sublist.map _ List.filter_sublist)

/-- Removes the entry of a room and gives it to the remover. -/
def remove (w : WelcomeRegistry) (room : RoomId) : Option WelcomeRoom × WelcomeRegistry :=
  (w.get? room, w.erase room)

/-- The registry with one more entry, in place of an earlier one of its identifier. -/
def register (w : WelcomeRegistry) (entry : WelcomeRoom) : WelcomeRegistry where
  entries := (w.erase entry.id).entries ++ [entry]
  distinct := by
    rw [List.map_append, List.nodup_append]
    refine ⟨(w.erase entry.id).distinct, by simp, ?_⟩
    intro a ha b hb
    simp only [List.map_cons, List.map_nil, List.mem_singleton] at hb
    subst hb
    obtain ⟨e, he, rfl⟩ := List.mem_map.1 ha
    simpa using (List.mem_filter.1 he).2

/-- The entries that have reached an age. -/
def expired (w : WelcomeRegistry) (now lifetime : Nat) : List WelcomeRoom :=
  w.entries.filter fun e => lifetime ≤ e.age now

end WelcomeRegistry

end RoomModeration
