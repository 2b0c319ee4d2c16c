import RoomModeration.Room.Record

/-!
# The room store

The records of all rooms the bot has joined, one record a room. Nothing is said about the order in
which the records are visited: a store is a row of records in any order, and what holds for every
store holds for every order. An operation on a room without a record does nothing, because the feed
may speak of a room that is still being joined or has just been left.

## Main definitions

* `RoomStore` : the records, no two of one room.
* `RoomStore.find?` : the record of a room.
* `RoomStore.seed`, `RoomStore.drop` : beginning and ending a record.
* `RoomStore.modify` : changing a record; `applyJoin` and its companions change one member.
-/

namespace RoomModeration

/-- The records of the joined rooms, no two of one room. -/
structure RoomStore where
  /-- The records, in any order. -/
  records : List RoomRecord
  /-- No two records are of one room. -/
  distinct : (records.map (·.id)).Nodup

/-- What a join has changed. -/
inductive JoinOutcome where
  /-- The member was not present before. -/
  | joined
  /-- The member was present already. -/
  | alreadyPresent
  /-- The room has no record. -/
  | untracked
  deriving DecidableEq, Repr

namespace RoomStore

/-- The store without records. -/
def empty : RoomStore where
  records := []
  distinct := List.nodup_nil

instance : EmptyCollection RoomStore := ⟨empty⟩

instance : Inhabited RoomStore := ⟨empty⟩

/-- The record of a room. -/
def find? (s : RoomStore) (room : RoomId) : Option RoomRecord :=
  s.records.find? (·.id == room)

/-- Whether a room has a record. -/
def isTracked (s : RoomStore) (room : RoomId) : Bool :=
  s.records.any (·.id == room)

/-- The records with a property. -/
def recordsWhere (s : RoomStore) (p : RoomRecord → Bool) : List RoomRecord :=
  s.records.filter p

/-- The rooms that have records. -/
def rooms (s : RoomStore) : List RoomId :=
  s.records.map (·.id)

/-- The number of records. -/
def size (s : RoomStore) : Nat :=
  s.records.length

/-- Whether a member is present in a room. -/
def isMember (s : RoomStore) (room : RoomId) (member : MemberId) : Bool :=
  (s.find? room).any (·.members.contains member)

/-- Whether a member is banned in a room. -/
def isBanned (s : RoomStore) (room : RoomId) (member : MemberId) : Bool :=
  (s.find? room).any (·.lists member)

/-- Whether the record of a room has a mode. -/
def hasMode (s : RoomStore) (room : RoomId) (mode : RoomMode) : Bool :=
  (s.find? room).any (·.hasMode mode)

/-- Whether the record of a room gives the bot the power to ban. -/
def canBan (s : RoomStore) (room : RoomId) : Bool :=
  (s.find? room).any (·.canBan)

/-! ### Changing records -/

theorem map_ids_of_preserves {f : RoomRecord → RoomRecord} (hf : ∀ r, (f r).id = r.id)
    (records : List RoomRecord) : (records.map f).map (·.id) = records.map (·.id) := by
  simp [Function.comp_def, hf]

/-- The store with the record of one room changed. -/
def modify (s : RoomStore) (room : RoomId) (f : RoomRecord → RoomRecord)
    (hf : ∀ r, (f r).id = r.id := by intro; rfl) : RoomStore where
  records := s.records.map fun r => if r.id = room then f r else r
  distinct := by
    rw [map_ids_of_preserves (fun r => by split <;> simp [hf])]
    exact s.distinct

/-- The store in which a room has this record, whether it had one before or not. -/
def put (s : RoomStore) (record : RoomRecord) : RoomStore :=
  if h : s.isTracked record.id then
    { records := s.records.map fun r => if r.id = record.id then record else r
      distinct := by
        rw [map_ids_of_preserves (fun r => by split <;> simp_all)]
        exact s.distinct }
  else
    { records := s.records ++ [record]
      distinct := by
        rw [List.map_append, List.nodup_append]
        refine ⟨s.distinct, by simp, ?_⟩
        intro a ha b hb
        simp only [List.map_cons, List.map_nil, List.mem_singleton] at hb
        subst hb
        rintro rfl
        obtain ⟨r, hr, he⟩ := List.mem_map.1 ha
        exact h (List.any_eq_true.2 ⟨r, hr, by simpa using he⟩) }

/-- The store without the record of a room. -/
def drop (s : RoomStore) (room : RoomId) : RoomStore where
  records := s.records.filter (·.id != room)
  distinct := s.distinct.sublist (List.Sublist.map _ List.filter_sublist)

/-- Begins the record of a room just joined, in place of an earlier one. -/
def seed (s : RoomStore) (room : RoomId) (members : List MemberId) (banned : MemberMap String)
    (modes : ModeSet) (params : ModeMap String) : RoomStore :=
  s.put (.seeded room members banned modes params)

/-- A member joins. -/
def applyJoin (s : RoomStore) (room : RoomId) (member : MemberId) : JoinOutcome × RoomStore :=
  (match s.find? room with
    | none => .untracked
    | some r => if r.members.contains member then .alreadyPresent else .joined,
    s.modify room (·.join member))

/-- A member leaves; says whether the member was present. -/
def applyLeave (s : RoomStore) (room : RoomId) (member : MemberId) : Bool × RoomStore :=
  (s.isMember room member, s.modify room (·.leave member))

/-- A member is banned; says whether the room has a record. -/
def applyBan (s : RoomStore) (room : RoomId) (member : MemberId) (reason : String) :
    Bool × RoomStore :=
  (s.isTracked room, s.modify room (·.ban member reason))

/-- A ban is lifted; says whether the member was banned. -/
def applyUnban (s : RoomStore) (room : RoomId) (member : MemberId) : Bool × RoomStore :=
  (s.isBanned room member, s.modify room (·.unban member))

/-- The configuration of a room has changed. -/
def setModes (s : RoomStore) (room : RoomId) (modes : ModeSet) (params : ModeMap String) :
    RoomStore :=
  s.modify room (·.withModes modes params)

/-! ### Small laws -/

theorem ext' {s t : RoomStore} (h : s.records = t.records) : s = t := by
  cases s; cases t; simpa using h

theorem isTracked_iff {s : RoomStore} {room : RoomId} :
    s.isTracked room = true ↔ ∃ r ∈ s.records, r.id = room := by
  simp [isTracked]

theorem find?_id {s : RoomStore} {room : RoomId} {r : RoomRecord} (h : s.find? room = some r) :
    r.id = room := by
  simpa using List.find?_some h

theorem find?_eq_none_iff {s : RoomStore} {room : RoomId} :
    s.find? room = none ↔ s.isTracked room = false := by
  simp [find?, isTracked]

/-- Changing the record of a room shows in that room only. -/
theorem find?_modify (s : RoomStore) (room other : RoomId) (f : RoomRecord → RoomRecord)
    (hf : ∀ r, (f r).id = r.id) :
    (s.modify room f hf).find? other =
      if other = room then (s.find? room).map f else s.find? other := by
  simp only [modify, find?, List.find?_map]
  split
  · next h =>
    subst h
    have : ((fun r : RoomRecord => r.id == other) ∘ fun r => if r.id = other then f r else r) =
        fun r => r.id == other := by
      funext r
      simp only [Function.comp_apply]
      split <;> simp_all
    rw [this]
    cases hfind : s.records.find? (fun r => r.id == other) with
    | none => rfl
    | some r =>
      have : r.id = other := by simpa using List.find?_some hfind
      simp [this]
  · next h =>
    have : ((fun r : RoomRecord => r.id == other) ∘ fun r => if r.id = room then f r else r) =
        fun r => r.id == other := by
      funext r
      simp only [Function.comp_apply]
      split
      · next hr => simp [hf]
      · rfl
    rw [this]
    cases hfind : s.records.find? (fun r => r.id == other) with
    | none => rfl
    | some r =>
      have hid : r.id = other := by simpa using List.find?_some hfind
      have : r.id ≠ room := fun hr => h (hid ▸ hr)
      simp [this]

/-- Ending the record of a room shows in that room only. -/
theorem find?_drop (s : RoomStore) (room other : RoomId) :
    (s.drop room).find? other = if other = room then none else s.find? other := by
  simp only [drop, find?, List.find?_filter]
  split
  · next h =>
    subst h
    simp
  · next h =>
    congr 1
    funext r
    by_cases hr : r.id = other
    · have : r.id ≠ room := fun h' => h (hr ▸ h')
      simp [hr, h]
    · simp [hr]

end RoomStore

end RoomModeration
