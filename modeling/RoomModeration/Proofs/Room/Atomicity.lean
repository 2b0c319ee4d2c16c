import RoomModeration.Proofs.BanList.Propagation
import RoomModeration.Proofs.Room.Joining

/-!
# Records show what has happened

To enter a room, to leave one, to ban a member and to lift a ban takes one call or a few, and then
one record is changed. Whichever of the calls the homeserver refuses, the records of all rooms stay
as they were, that of the room itself included; and if it refuses none, the record of one room shows
what was done and all other records stay as they were.

Nothing is assumed about the records, about the configuration, or about what the homeserver answers.

## Main definitions

* `AllOrNothing` : an action is done, or nothing is changed.
* `RecordBegun`, `RecordEnded`, `EntryChanged` : what is changed when an action is done.

## Main results

* `actions_all_or_nothing` : entering and leaving rooms, bans and the lifting of bans are done, or
  nothing is changed.
-/

namespace RoomModeration

open BotM RoomModeration.Bot

/-- A record shows what was reported of its room: those who are banned, each for the reason that was
given, and of those who are in the room all who are not banned. -/
structure RoomRecord.Reports (report : RoomReport) (r : RoomRecord) : Prop where
  id : r.id = report.room
  banned : r.banned = report.banned
  members : ∀ member, r.members.contains member =
    (report.members.contains member && !report.banned.contains member)

theorem RoomRecord.reports_seeded (report : RoomReport) (modes : ModeSet)
    (params : ModeMap String) :
    (seeded report.room report.members.keys report.banned modes params).Reports report where
  id := rfl
  banned := rfl
  members member := by
    rw [Bool.eq_iff_iff]
    simp [seeded, List.mem_filter]

/-- Only the records are changed, and the number of them that is shown to the operator. -/
def Bot.SameButRooms (b b' : Bot) : Prop :=
  b' = { b with rooms := b'.rooms, trackedGauge := b'.trackedGauge }

variable [Surroundings] {α : Type} {w w' : World}

/-- The homeserver has refused the latest call. -/
def World.IsRefused (w : World) : Prop :=
  ∃ before activities c e earlier, w.history = .called before activities c (.error e) :: earlier

/-- An action is done, or nothing is changed: if it fails, the homeserver has refused its latest
call, and the bot keeps all that it kept, the records of all rooms among it. -/
def AllOrNothing (act : ActionM α) (w : World) (done : α → World → Prop) : Prop :=
  match act.run.run w with
  | (.ok a, w') => done a w'
  | (.error _, w') => w'.bot = w.bot ∧ w'.IsRefused

/-- The record of a room has been begun, after the homeserver has let the bot in and has told who is
in the room and who is banned there. The record shows what was told, and has what is configured for
the room that was asked for; other records are as they were. -/
structure RecordBegun (w : World) (asked joined : RoomId) (w' : World) : Prop where
  told : ∃ made report, Inquiry w.bot (w.entering asked) asked made (.ok report) ∧
    w'.history = made ++ w.history ∧ report.room = joined ∧
    ∃ r, w'.bot.rooms.find? joined = some r ∧ r.Reports report ∧
      r.modes = (w.bot.config.roomConfig asked).modes ∧
      r.params = (w.bot.config.roomConfig asked).typedParams
  others : ∀ other, other ≠ joined → w'.bot.rooms.find? other = w.bot.rooms.find? other
  kept : w.bot.SameButRooms w'.bot

/-- The record of a room has been ended, if there was one, after the homeserver has let the bot
leave; other records are as they were. -/
structure RecordEnded (w : World) (room : RoomId) (w' : World) : Prop where
  history : w'.history = .called w.bot w.activities (.leave room) (.ok ()) :: w.history
  gone : w'.bot.rooms.find? room = none
  others : ∀ other, other ≠ room → w'.bot.rooms.find? other = w.bot.rooms.find? other
  kept : w.bot.SameButRooms w'.bot

/-- What the record of a room says of one member has been changed as a sanction wants it, if there
is such a record. In a dry run that is all, and otherwise the homeserver has carried the sanction
out; other records are as they were. -/
structure EntryChanged (w : World) (a : Sanction) (w' : World) : Prop where
  dry : w.bot.config.actions.dryRun = true → w'.history = w.history
  wet : w.bot.config.actions.dryRun = false → ∃ reply,
    w'.history = .called w.bot w.activities a.call (.ok reply) :: w.history
  untracked : w.bot.rooms.find? a.room = none → w'.bot.rooms.find? a.room = none
  changed : ∀ r, w.bot.rooms.find? a.room = some r →
    ∃ r', w'.bot.rooms.find? a.room = some r' ∧ RoomRecord.Shows a r r'
  others : ∀ other, other ≠ a.room → w'.bot.rooms.find? other = w.bot.rooms.find? other
  kept : w.bot.SameButRooms w'.bot

/-! ### Entering and leaving -/

omit [Surroundings] in
/-- The latest call of an inquiry that fails is the one that was refused. -/
theorem Inquiry.exists_refused {b : Bot} {activities : List Activity} {room : RoomId}
    {made : List Occurrence} {e : ActionError} (h : Inquiry b activities room made (.error e)) :
    ∃ c earlier, made = .called b activities c (.error e) :: earlier := by
  cases h with
  | barred | membersUntold | bansUntold => exact ⟨_, _, rfl⟩

theorem allOrNothing_joinRoom (room : RoomId) (w : World) :
    AllOrNothing (joinRoom room) w (RecordBegun w room) := by
  obtain ⟨made, answer, h, hresult⟩ := inquired_joinRoom room w
  rcases hrun : (joinRoom room).run.run w with ⟨result, w'⟩
  rw [hrun] at h hresult
  dsimp only at h hresult
  subst hresult
  unfold AllOrNothing
  rw [hrun]
  cases answer with
  | error e =>
    obtain ⟨c, earlier, hmade⟩ := h.inquiry.exists_refused
    refine ⟨h.bot, w.bot, w.entering room, c, e, earlier ++ w.history, ?_⟩
    rw [h.history, hmade, List.cons_append]
  | ok report =>
    let asked := w.bot.config.roomConfig room
    have hfind : ∀ other, w'.bot.rooms.find? other = if other = report.room then
        some (.seeded report.room report.members.keys report.banned asked.modes asked.typedParams)
        else w.bot.rooms.find? other := by
      intro other
      rw [h.bot]
      exact RoomStore.find?_put _ _ other
    refine ⟨⟨made, report, h.inquiry, h.history, rfl, _, (hfind _).trans (if_pos rfl), ?_, rfl,
      rfl⟩, fun other hother => (hfind other).trans (if_neg hother), ?_⟩
    · exact RoomRecord.reports_seeded report _ _
    · rw [Bot.SameButRooms, h.bot]
      rfl

theorem allOrNothing_leaveRoom (room : RoomId) (w : World) :
    AllOrNothing (leaveRoom room) w fun _ => RecordEnded w room := by
  have hleft := left_leaveRoom room w
  rcases hrun : (leaveRoom room).run.run w with ⟨result, w'⟩
  rw [hrun] at hleft
  unfold AllOrNothing
  rw [hrun]
  cases hleft with
  | refused e called => exact ⟨called.bot, _, _, _, e, _, called.history⟩
  | left bot history =>
    have hfind : ∀ other, w'.bot.rooms.find? other =
        if other = room then none else w.bot.rooms.find? other := by
      intro other
      rw [bot]
      exact RoomStore.find?_drop _ room other
    refine ⟨history, (hfind room).trans (if_pos rfl),
      fun other hother => (hfind other).trans (if_neg hother), ?_⟩
    rw [Bot.SameButRooms, bot]
    rfl

/-! ### Bans -/

omit [Surroundings] in
/-- One sanction alone shows in the record of its room. -/
theorem RoomRecord.shows_onRecord (a : Sanction) (r : RoomRecord) :
    RoomRecord.Shows a r (a.onRecord r) :=
  ⟨a.onRecord_modes r, a.onRecord_params r, a.banned_onRecord r, a.members_onRecord r⟩

theorem allOrNothing_give (a : Sanction) (w : World) :
    AllOrNothing a.give w fun _ => EntryChanged w a := by
  have hgive := a.sanctioned_give w
  rcases hrun : a.give.run.run w with ⟨e | ⟨⟩, w'⟩
  all_goals
    rw [hrun] at hgive
    unfold AllOrNothing
    rw [hrun]
  · refine ⟨hgive.bot, ?_⟩
    cases hdry : w.bot.config.actions.dryRun with
    | true => exact absurd (hgive.dry hdry).1 Bool.false_ne_true
    | false =>
      obtain ⟨result, hok, hhistory⟩ := hgive.wet hdry
      cases result with
      | ok _ => cases hok
      | error e => exact ⟨_, _, _, e, _, hhistory⟩
  · have hbot : w'.bot = w.bot.sanction a := hgive.bot
    have hfind : ∀ other, w'.bot.rooms.find? other = if other = a.room then
        (w.bot.rooms.find? other).map a.onRecord else w.bot.rooms.find? other := by
      intro other
      rw [hbot]
      exact a.find?_onStore _ other
    have hroom : w'.bot.rooms.find? a.room = (w.bot.rooms.find? a.room).map a.onRecord :=
      (hfind a.room).trans (if_pos rfl)
    refine ⟨fun hdry => (hgive.dry hdry).2, fun hwet => ?_, fun hnone => ?_, fun r hr => ?_,
      fun other hother => (hfind other).trans (if_neg hother), ?_⟩
    · obtain ⟨result, hok, hhistory⟩ := hgive.wet hwet
      cases result with
      | ok reply => exact ⟨reply, hhistory⟩
      | error e => cases hok
    · rw [hroom, hnone]
      rfl
    · rw [hroom, hr]
      exact ⟨_, rfl, r.shows_onRecord a⟩
    · rw [Bot.SameButRooms, hbot]
      rfl

/-- To enter a room, to leave one, to ban a member and to lift a ban: each of them is done, or the
homeserver has refused its latest call and the records of all rooms are as they were. -/
theorem actions_all_or_nothing (w : World) :
    (∀ room, AllOrNothing (joinRoom room) w (RecordBegun w room)) ∧
    (∀ room, AllOrNothing (leaveRoom room) w fun _ => RecordEnded w room) ∧
    (∀ room member reason, AllOrNothing (banMember room member reason) w fun _ =>
      EntryChanged w ⟨room, member, some reason⟩) ∧
    ∀ room member, AllOrNothing (unbanMember room member) w fun _ =>
      EntryChanged w ⟨room, member, none⟩ :=
  ⟨fun room => allOrNothing_joinRoom room w, fun room => allOrNothing_leaveRoom room w,
    fun room member reason => allOrNothing_give ⟨room, member, some reason⟩ w,
    fun room member => allOrNothing_give ⟨room, member, none⟩ w⟩

end RoomModeration
