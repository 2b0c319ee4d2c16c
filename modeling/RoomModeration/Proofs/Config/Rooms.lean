import RoomModeration.Config.Store
import RoomModeration.Proofs.Ordered

/-!
# Which rooms are monitored

A change of the configuration fails and leaves it as it is, or it is made. Only one of the changes
gives a room up, and it gives up this room only. Most changes leave what is configured for rooms as
it is, and no change touches what is configured for another room.

## Main definitions

* `Config.Edit.KeepsRooms` : a change gives no room up.
* `Config.Edit.LeavesRooms` : a change leaves what is configured for rooms as it is.
* `Config.Edit.ChangesOnly` : a change leaves what is configured for all other rooms as it is.

## Main results

* `ConfigStore.update_cases` : a change fails or is made.
* `Config.isMonitored_addRoom`, `Config.isMonitored_removeRoom` : which rooms are monitored after a
  room is taken in or given up.
-/

namespace RoomModeration

/-- A change fails and leaves the configuration as it is, or it is made. -/
theorem ConfigStore.update_cases {α : Type} (edit : Config.Edit α) (s : ConfigStore) :
    (∃ e, (s.update edit).1 = .error e ∧ (s.update edit).2.config = s.config) ∨
      ∃ a c, edit s.config = .ok (a, c) ∧ (s.update edit).1 = .ok a ∧
        (s.update edit).2.config = c := by
  unfold update
  cases edit s.config with
  | error e => exact .inl ⟨e, rfl, rfl⟩
  | ok changed =>
    obtain ⟨a, c⟩ := changed
    cases s.file with
    | none => exact .inr ⟨a, c, rfl, rfl, rfl⟩
    | some file =>
      dsimp only
      rcases file.write c.toText with ⟨⟨e⟩ | ⟨⟩, file⟩
      · exact .inl ⟨e, rfl, rfl⟩
      · exact .inr ⟨a, c, rfl, rfl, rfl⟩

/-- A change gives no room up. -/
def Config.Edit.KeepsRooms {α : Type} (edit : Config.Edit α) : Prop :=
  ∀ c a c', edit c = .ok (a, c') → ∀ room, c.isMonitored room = true → c'.isMonitored room = true

/-- A change that gives no room up, whether it fails or is made. -/
theorem ConfigStore.isMonitored_update {α : Type} {edit : Config.Edit α} (h : edit.KeepsRooms)
    {s : ConfigStore} {room : RoomId} (hroom : s.config.isMonitored room = true) :
    (s.update edit).2.config.isMonitored room = true := by
  obtain ⟨e, -, hconfig⟩ | ⟨a, c, hedit, -, hconfig⟩ := s.update_cases edit
  · rwa [hconfig]
  · rw [hconfig]
    exact h _ a c hedit room hroom

/-- A change leaves what is configured for rooms as it is. -/
def Config.Edit.LeavesRooms {α : Type} (edit : Config.Edit α) : Prop :=
  ∀ c a c', edit c = .ok (a, c') → c'.rooms = c.rooms

theorem ConfigStore.rooms_update {α : Type} {edit : Config.Edit α} (h : edit.LeavesRooms)
    (s : ConfigStore) : (s.update edit).2.config.rooms = s.config.rooms := by
  obtain ⟨e, -, hconfig⟩ | ⟨a, c, hedit, -, hconfig⟩ := s.update_cases edit
  · rw [hconfig]
  · rw [hconfig]
    exact h _ a c hedit

namespace Config

variable {c c' : Config} {room : RoomId} {taken : Bool}

theorem leavesRooms_grantAdmin (member : MemberId) : (grantAdmin member).LeavesRooms :=
  fun _ _ _ h => by cases h; rfl

theorem leavesRooms_revokeAdmin (member : MemberId) : (revokeAdmin member).LeavesRooms :=
  fun _ _ _ h => by cases h; rfl

theorem leavesRooms_setVar (name payload : String) : (setVar name payload).LeavesRooms :=
  fun _ _ _ h => by cases h; rfl

theorem leavesRooms_deleteVar (name : String) : (deleteVar name).LeavesRooms :=
  fun _ _ _ h => by cases h; rfl

theorem leavesRooms_setSetting (setting : Setting) (value : String) :
    (setSetting setting value).LeavesRooms :=
  fun _ _ _ h => by cases h; rfl

/-- Changing what is decided about a room gives none up. -/
theorem keepsRooms_editRoom {α : Type} (room : RoomId) (f : RoomConfig → α × RoomConfig) :
    (editRoom room f).KeepsRooms := by
  intro c a c' hedit other hother
  unfold editRoom at hedit
  split at hedit
  · cases hedit
  · cases hedit
    simp only [isMonitored, Std.ExtTreeMap.contains_insert, Bool.or_eq_true]
    exact .inr hother

theorem keepsRooms_addMode (room : RoomId) (mode : RoomMode) : (addMode room mode).KeepsRooms :=
  keepsRooms_editRoom room _

theorem keepsRooms_removeMode (room : RoomId) (mode : RoomMode) :
    (removeMode room mode).KeepsRooms :=
  keepsRooms_editRoom room _

theorem keepsRooms_setParam (room : RoomId) (mode : RoomMode) (value : String) :
    (setParam room mode value).KeepsRooms :=
  keepsRooms_editRoom room _

/-- Afterwards a room that is taken in is monitored. -/
theorem isMonitored_addRoom (h : addRoom room c = .ok (taken, c')) :
    c'.isMonitored room = true := by
  unfold addRoom at h
  split at h
  · next hold =>
    cases h
    exact hold
  · cases h
    simp [isMonitored]

theorem keepsRooms_addRoom (room : RoomId) : (addRoom room).KeepsRooms := by
  intro c taken c' hedit other hother
  unfold addRoom at hedit
  split at hedit
  · cases hedit
    exact hother
  · cases hedit
    simp only [isMonitored, Std.ExtTreeMap.contains_insert, Bool.or_eq_true]
    exact .inr hother

/-- Afterwards a room that is given up is not monitored, and every other one is as before. -/
theorem isMonitored_removeRoom (h : removeRoom room c = .ok (taken, c')) (other : RoomId) :
    c'.isMonitored other = (c.isMonitored other && other != room) := by
  cases h
  by_cases hother : other = room
  · subst hother
    simp [isMonitored]
  · have hcompare : (compare room other == .eq) = (other == room) := by
      rw [Bool.eq_iff_iff, beq_iff_eq, beq_iff_eq, Std.compare_eq_iff_eq]
      exact eq_comm
    simp only [isMonitored, Std.ExtTreeMap.contains_erase, bne, hcompare]
    exact Bool.and_comm _ _

/-! ### Other rooms -/

theorem isMonitored_congr (h : c'.rooms[room]? = c.rooms[room]?) :
    c'.isMonitored room = c.isMonitored room := by
  rw [isMonitored, isMonitored, Std.ExtTreeMap.contains_eq_isSome_getElem?,
    Std.ExtTreeMap.contains_eq_isSome_getElem?, h]

theorem roomConfig_congr (h : c'.rooms[room]? = c.rooms[room]?) :
    c'.roomConfig room = c.roomConfig room := by
  rw [roomConfig, roomConfig, h]

/-- A change leaves what is configured for all rooms but one as it is. -/
def Edit.ChangesOnly {α : Type} (room : RoomId) (edit : Edit α) : Prop :=
  ∀ c a c', edit c = .ok (a, c') → ∀ other, other ≠ room → c'.rooms[other]? = c.rooms[other]?

theorem changesOnly_editRoom {α : Type} (room : RoomId) (f : RoomConfig → α × RoomConfig) :
    (editRoom room f).ChangesOnly room := by
  intro c a c' hedit other hother
  unfold editRoom at hedit
  split at hedit
  · cases hedit
  · cases hedit
    exact getElem?_insert_of_ne hother

theorem changesOnly_addRoom (room : RoomId) : (addRoom room).ChangesOnly room := by
  intro c a c' hedit other hother
  unfold addRoom at hedit
  split at hedit
  · cases hedit
    rfl
  · cases hedit
    exact getElem?_insert_of_ne hother

theorem changesOnly_removeRoom (room : RoomId) : (removeRoom room).ChangesOnly room := by
  intro c a c' hedit other hother
  cases hedit
  exact getElem?_erase_of_ne hother

end Config

end RoomModeration
