import RoomModeration.Proofs.Feed

/-!
# Updates of different members commute

A join, a leave, a ban and the lifting of a ban each concern one member of one room. All that a
record says of a member is whether the member is present and, if the member is banned, for what
reason; this is the member's *standing* in the room. An update answers from the standing of its own
member before it, changes this standing in its own way, and leaves every other standing alone. So
what a sequence of updates answers for a member of a room, and the standing that it leaves the
member with, is what the updates about this member alone would have answered and left
(`RoomStore.performAll_at`). Sequences that agree for every member of every room, in whatever way
they interleave, therefore answer alike and end in the same store.

## Main definitions

* `Standing` : what a record says of a member.
* `MemberUpdate`, `MemberUpdate.perform` : an update, with its answer and the store after it.
* `RoomStore.performAll` : a sequence of updates, each with its answer, and the store after them.

## Main results

* `MemberUpdate.standing?_perform`, `MemberUpdate.answer_perform` : what an update does to
  standings, and where its answer comes from.
* `RoomStore.ext_standing` : a store is its rooms with their modes and the standing of everybody.
* `RoomStore.performAll_eq_of_interleaved` : interleavings of the same updates answer and end alike.
-/

namespace RoomModeration

/-! ### Standings -/

/-- What the record of a room says of a member. -/
structure Standing where
  /-- Whether the member is present. -/
  present : Bool
  /-- The reason of the member's ban, if there is a ban. -/
  reason : Option String
  deriving DecidableEq, Repr

/-- The standing of a member in the room of a record. -/
def RoomRecord.standing (r : RoomRecord) (member : MemberId) : Standing where
  present := r.members.contains member
  reason := r.banned[member]?

/-- The standing of a member in a room, if the room has a record. -/
def RoomStore.standing? (s : RoomStore) (room : RoomId) (member : MemberId) : Option Standing :=
  (s.find? room).map (·.standing member)

/-- What a record says besides the standing of members. -/
def RoomRecord.frame (r : RoomRecord) : RoomId × ModeSet × ModeMap String :=
  (r.id, r.modes, r.params)

/-- A record is its frame and the standing of everybody. -/
theorem RoomRecord.ext_standing {r t : RoomRecord} (hframe : r.frame = t.frame)
    (h : ∀ member, r.standing member = t.standing member) : r = t := by
  have hmembers : r.members = t.members :=
    Std.ExtTreeSet.ext_contains fun m => congrArg Standing.present (h m)
  have hbanned : r.banned = t.banned :=
    Std.ExtTreeMap.ext_getElem? fun m => congrArg Standing.reason (h m)
  simp only [frame, Prod.mk.injEq] at hframe
  obtain ⟨hid, hmodes, hparams⟩ := hframe
  cases r
  cases t
  simp_all

/-- A store is the frames of its records and the standing of everybody. -/
theorem RoomStore.ext_standing {s t : RoomStore}
    (hframe : s.records.map (·.frame) = t.records.map (·.frame))
    (h : ∀ room member, s.standing? room member = t.standing? room member) : s = t := by
  refine RoomStore.ext' (List.ext_getElem (by simpa using congrArg List.length hframe) ?_)
  intro i hs ht
  have hsame : s.records[i].frame = t.records[i].frame := by
    have hi := congrArg (·[i]?) hframe
    simpa [hs, ht] using hi
  have hid : s.records[i].id = t.records[i].id := congrArg (·.1) hsame
  refine RoomRecord.ext_standing hsame fun member => ?_
  have hstanding := h s.records[i].id member
  unfold standing? at hstanding
  rw [find?_of_mem_records (List.getElem_mem hs), hid,
    find?_of_mem_records (List.getElem_mem ht)] at hstanding
  simpa using hstanding

/-! ### One update -/

/-- What may happen to a member. -/
inductive MemberChange where
  /-- The member joins. -/
  | join
  /-- The member leaves. -/
  | leave
  /-- The member is banned. -/
  | ban (reason : String)
  /-- The member's ban is lifted. -/
  | unban
  deriving DecidableEq, Repr

/-- What an update answers. -/
inductive UpdateAnswer where
  /-- A join says what it has changed. -/
  | joining (outcome : JoinOutcome)
  /-- The other updates say whether there was something to change. -/
  | changed (effective : Bool)
  deriving DecidableEq, Repr

/-- An update of the records that concerns one member of one room. -/
structure MemberUpdate where
  /-- The room. -/
  room : RoomId
  /-- The member. -/
  member : MemberId
  /-- What happens to the member. -/
  change : MemberChange
  deriving DecidableEq, Repr

namespace MemberChange

/-- The standing of the member after the change. -/
def onStanding : MemberChange → Standing → Standing
  | join, _ => ⟨true, none⟩
  | leave, standing => { standing with present := false }
  | ban reason, _ => ⟨false, some reason⟩
  | unban, standing => { standing with reason := none }

/-- The answer of an update, from the standing of its member before it. -/
def answer : MemberChange → Option Standing → UpdateAnswer
  | join, none => .joining .untracked
  | join, some standing => .joining (if standing.present then .alreadyPresent else .joined)
  | leave, standing? => .changed (standing?.any (·.present))
  | ban _, standing? => .changed standing?.isSome
  | unban, standing? => .changed (standing?.any (·.reason.isSome))

/-- The record after the change. -/
def onRecord : MemberChange → MemberId → RoomRecord → RoomRecord
  | join, member, r => r.join member
  | leave, member, r => r.leave member
  | ban reason, member, r => r.ban member reason
  | unban, member, r => r.unban member

theorem frame_onRecord (change : MemberChange) (member : MemberId) (r : RoomRecord) :
    (change.onRecord member r).frame = r.frame := by
  cases change <;> rfl

theorem id_onRecord (change : MemberChange) (member : MemberId) (r : RoomRecord) :
    (change.onRecord member r).id = r.id :=
  congrArg (·.1) (change.frame_onRecord member r)

/-- A change shows in the standing of its member only. -/
theorem standing_onRecord (change : MemberChange) (member other : MemberId) (r : RoomRecord) :
    (change.onRecord member r).standing other =
      if other = member then change.onStanding (r.standing member) else r.standing other := by
  by_cases hother : other = member
  · subst hother
    cases change <;>
      simp [onRecord, onStanding, RoomRecord.standing, RoomRecord.join, RoomRecord.leave,
        RoomRecord.ban, RoomRecord.unban]
  · have hne : member ≠ other := Ne.symm hother
    cases change <;>
      simp [onRecord, RoomRecord.standing, RoomRecord.join, RoomRecord.leave, RoomRecord.ban,
        RoomRecord.unban, hother, hne, Std.ExtTreeSet.contains_insert,
        Std.ExtTreeSet.contains_erase, Std.ExtTreeMap.getElem?_insert,
        Std.ExtTreeMap.getElem?_erase]

end MemberChange

namespace MemberUpdate

/-- Whether an update concerns this member of this room. -/
def concerns (u : MemberUpdate) (room : RoomId) (member : MemberId) : Bool :=
  u.room = room ∧ u.member = member

/-- The answer of an update and the store after it. -/
def perform (u : MemberUpdate) (s : RoomStore) : UpdateAnswer × RoomStore :=
  match u.change with
  | .join => (s.applyJoin u.room u.member).map .joining id
  | .leave => (s.applyLeave u.room u.member).map .changed id
  | .ban reason => (s.applyBan u.room u.member reason).map .changed id
  | .unban => (s.applyUnban u.room u.member).map .changed id

theorem perform_snd (u : MemberUpdate) (s : RoomStore) :
    (u.perform s).2 = s.modify u.room (u.change.onRecord u.member)
      (u.change.id_onRecord u.member) := by
  obtain ⟨room, member, change⟩ := u
  cases change <;> rfl

/-- An update answers from the standing of its member before it. -/
theorem answer_perform (u : MemberUpdate) (s : RoomStore) :
    (u.perform s).1 = u.change.answer (s.standing? u.room u.member) := by
  obtain ⟨room, member, change⟩ := u
  cases change with
  | join =>
    simp only [perform, RoomStore.applyJoin, Prod.map_fst, RoomStore.standing?]
    cases s.find? room <;> rfl
  | leave =>
    simp only [perform, RoomStore.applyLeave, Prod.map_fst, RoomStore.standing?,
      RoomStore.isMember]
    cases s.find? room <;> rfl
  | ban reason =>
    simp only [perform, RoomStore.applyBan, Prod.map_fst, RoomStore.standing?,
      RoomStore.isTracked_eq_isSome]
    cases s.find? room <;> rfl
  | unban =>
    simp only [perform, RoomStore.applyUnban, Prod.map_fst, RoomStore.standing?,
      RoomStore.isBanned, RoomRecord.lists_eq_isSome]
    cases s.find? room <;> rfl

/-- An update shows in the standing of its member only. -/
theorem standing?_perform (u : MemberUpdate) (s : RoomStore) (room : RoomId) (member : MemberId) :
    (u.perform s).2.standing? room member =
      if u.concerns room member then (s.standing? room member).map u.change.onStanding
      else s.standing? room member := by
  rw [perform_snd]
  simp only [RoomStore.standing?, RoomStore.find?_modify, concerns, decide_eq_true_eq]
  by_cases hroom : room = u.room
  · subst hroom
    rw [if_pos rfl, Option.map_map]
    by_cases hmember : member = u.member
    · subst hmember
      rw [if_pos ⟨rfl, rfl⟩, Option.map_map]
      simp [Function.comp_def, MemberChange.standing_onRecord]
    · rw [if_neg fun h => hmember h.2.symm]
      simp [Function.comp_def, MemberChange.standing_onRecord, hmember]
  · rw [if_neg hroom, if_neg fun h => hroom h.1.symm]

/-- An update leaves the rooms, their order and their modes alone. -/
theorem frame_perform (u : MemberUpdate) (s : RoomStore) :
    (u.perform s).2.records.map (·.frame) = s.records.map (·.frame) := by
  rw [perform_snd, RoomStore.modify, List.map_map]
  refine List.map_congr_left fun r _ => ?_
  simp only [Function.comp_apply]
  split
  · exact u.change.frame_onRecord u.member r
  · rfl

end MemberUpdate

/-! ### Sequences of updates -/

namespace RoomStore

/-- A sequence of updates, each with its answer, and the store after all of them. -/
def performAll (s : RoomStore) : List MemberUpdate → List (MemberUpdate × UpdateAnswer) × RoomStore
  | [] => ([], s)
  | u :: us =>
    let (answer, next) := u.perform s
    let (answers, last) := next.performAll us
    ((u, answer) :: answers, last)

theorem performAll_cons (s : RoomStore) (u : MemberUpdate) (us : List MemberUpdate) :
    s.performAll (u :: us) =
      ((u, (u.perform s).1) :: ((u.perform s).2.performAll us).1,
        ((u.perform s).2.performAll us).2) :=
  rfl

/-- What the updates of a sequence about one member of one room have answered. -/
def answersAt (s : RoomStore) (us : List MemberUpdate) (room : RoomId) (member : MemberId) :
    List (MemberUpdate × UpdateAnswer) :=
  (s.performAll us).1.filter fun a => a.1.concerns room member

theorem frame_performAll (s : RoomStore) (us : List MemberUpdate) :
    (s.performAll us).2.records.map (·.frame) = s.records.map (·.frame) := by
  induction us generalizing s with
  | nil => rfl
  | cons u us ih => rw [performAll_cons, ih, u.frame_perform]

/-- For one member of one room a sequence answers and leaves what its updates about this member do
alone, also in another store where the member has the same standing. -/
theorem performAll_at {s t : RoomStore} {room : RoomId} {member : MemberId}
    (h : s.standing? room member = t.standing? room member) (us : List MemberUpdate) :
    s.answersAt us room member = (t.performAll (us.filter (·.concerns room member))).1 ∧
      (s.performAll us).2.standing? room member =
        (t.performAll (us.filter (·.concerns room member))).2.standing? room member := by
  induction us generalizing s t with
  | nil => exact ⟨rfl, h⟩
  | cons u us ih =>
    have hs := u.standing?_perform s room member
    by_cases hu : u.concerns room member = true
    · -- Both stores take the step, from the same standing to the same standing.
      have ht := u.standing?_perform t room member
      rw [if_pos hu] at hs ht
      obtain ⟨hanswers, hlast⟩ := ih (s := (u.perform s).2) (t := (u.perform t).2)
        (by rw [hs, ht, h])
      obtain ⟨rfl, rfl⟩ : u.room = room ∧ u.member = member := by
        simpa [MemberUpdate.concerns] using hu
      have hanswer : (u.perform s).1 = (u.perform t).1 := by
        rw [u.answer_perform, u.answer_perform, h]
      rw [List.filter_cons, if_pos hu, performAll_cons]
      refine ⟨?_, hlast⟩
      rw [← hanswers, answersAt, performAll_cons, List.filter_cons, if_pos hu, hanswer]
      rfl
    · -- Only the first store takes the step, and the standing stays.
      rw [if_neg hu] at hs
      obtain ⟨hanswers, hlast⟩ := ih (s := (u.perform s).2) (t := t) (hs.trans h)
      rw [List.filter_cons, if_neg hu]
      refine ⟨?_, hlast⟩
      rw [← hanswers, answersAt, performAll_cons, List.filter_cons, if_neg hu]
      rfl

/-- Sequences of updates that hold, for every member of every room, the same updates in the same
order, end in the same store, and for every member of every room they answer the same. -/
theorem performAll_eq_of_interleaved (s : RoomStore) {us vs : List MemberUpdate}
    (h : ∀ room member,
      us.filter (·.concerns room member) = vs.filter (·.concerns room member)) :
    (s.performAll us).2 = (s.performAll vs).2 ∧
      ∀ room member, s.answersAt us room member = s.answersAt vs room member := by
  constructor
  · refine ext_standing ?_ fun room member => ?_
    · rw [frame_performAll, frame_performAll]
    · rw [(performAll_at rfl us).2, (performAll_at rfl vs).2, h]
  · intro room member
    rw [(performAll_at rfl us).1, (performAll_at rfl vs).1, h]

/-- A ban in one room may come before or after what happens to its member in another one. -/
theorem performAll_ban_interleaved :
    let ban : MemberUpdate := ⟨Sample.lobby, Sample.mallory, .ban "spam"⟩
    let leave : MemberUpdate := ⟨Sample.attic, Sample.mallory, .leave⟩
    let unban : MemberUpdate := ⟨Sample.lobby, Sample.mallory, .unban⟩
    (∀ room member, [ban, leave, unban].filter (·.concerns room member) =
        [leave, ban, unban].filter (·.concerns room member)) ∧
      (Sample.rooms.performAll [ban, leave, unban]).2 =
          (Sample.rooms.performAll [leave, ban, unban]).2 ∧
        ∀ room member, Sample.rooms.answersAt [ban, leave, unban] room member =
          Sample.rooms.answersAt [leave, ban, unban] room member := by
  intro ban leave unban
  have hsame : ∀ room member, [ban, leave, unban].filter (·.concerns room member) =
      [leave, ban, unban].filter (·.concerns room member) := by
    intro room member
    by_cases hlobby : Sample.lobby = room
    · subst hlobby
      have hleave : leave.concerns Sample.lobby member = false := by
        simp only [MemberUpdate.concerns, leave]
        exact decide_eq_false fun h => absurd h.1 (by decide)
      simp [List.filter_cons, hleave]
    · have hban : ban.concerns room member = false := decide_eq_false fun h => hlobby h.1
      have hunban : unban.concerns room member = false := decide_eq_false fun h => hlobby h.1
      simp [List.filter_cons, hban, hunban]
  exact ⟨hsame, performAll_eq_of_interleaved Sample.rooms hsame⟩

end RoomStore

end RoomModeration
