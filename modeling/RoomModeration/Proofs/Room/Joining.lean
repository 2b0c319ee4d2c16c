import RoomModeration.Proofs.Room.Lookup
import RoomModeration.Proofs.Upkeep

/-!
# Entering and leaving rooms

A room is entered with three calls, and its record is begun only if all three end well; it is then
the record of the room that the homeserver has named, which need not be the one that was asked for.
A room is left with one call, and its record is ended only if that one ends well. The commands that
take a room in or give one up also change the configuration and send a reply, and each of these can
fail as well.

## Main definitions

* `Called` : what a call comes to.
* `Adds` : some occurrences are added to the history.
* `Entering` : the permission to make the calls by which a room is entered.
* `settleIn` : what is done once the bot has been let into a room.
* `RoomReport`, `Inquiry`, `Inquired` : what the homeserver tells of a room that is entered, the
  calls by which it is asked, and what they come to.
* `Joined` : what entering a room comes to.
* `Left` : what leaving a room comes to.
* `Edited` : what changing the configuration comes to.
* `ModesSet` : what setting the modes of a room comes to.
* `TakenIn`, `GivenUp` : what a command to take a room in, or to give one up, comes to.

## Main results

* `joined_joinRoom`, `left_leaveRoom`, `edited_editing`, `modesSet_handleRoom`, `called_reply` : the
  operations of the bot come to that.
* `inquired_joinRoom` : entering a room, call by call.
-/

namespace RoomModeration

open BotM RoomModeration.Bot

/-- A room is tracked anew only where its record is begun. -/
theorem Change.isTracked_of_isTracked_apply {c : Change} {b : Bot} {room : RoomId}
    (hc : ∀ members banned config, c ≠ .seeded room members banned config)
    (h : (c.apply b).rooms.isTracked room = true) : b.rooms.isTracked room = true := by
  cases c with
  | stored | registered | cursorMoved | readied | shutdownAsked | measured => exact h
  | seeded other members banned config =>
    refine (RoomStore.isTracked_put_of_ne ?_).symm.trans h
    rintro rfl
    exact hc _ _ _ rfl
  | dropped other => exact RoomStore.isTracked_of_isTracked_drop h
  | joined | left | banned | unbanned | refreshed =>
    refine RoomStore.isTracked_of_isTracked_modify ?_ h
    exact fun _ => rfl
  | unregistered other =>
    change (b.unregister other).2.rooms.isTracked room = true at h
    unfold Bot.unregister at h
    split at h
    · exact h
    · exact h

variable [Surroundings] {w w' : World}

/-- The homeserver may give a result to a call. -/
def Call.MayGive (c : Call) (result : Except ActionError c.Reply) : Prop :=
  ∃ server, (Surroundings.homeserver.answer c server).1.result = result

/-- What a call comes to: it goes into the history with what the homeserver gives, and nothing else
that matters changes. -/
structure Called (c : Call) (w w' : World) (result : Except ActionError c.Reply) : Prop where
  bot : w'.bot = w.bot
  history : w'.history = .called w.bot w.activities c result :: w.history
  activities : w'.activities = w.activities
  mayGive : c.MayGive result

theorem called_attempt (action : String) (c : Call) (w : World) :
    Called c w ((attempt action c).run.run w).2 ((attempt action c).run.run w).1 := by
  obtain ⟨counters, log, h⟩ := run_attempt action c w
  rw [h]
  exact ⟨rfl, rfl, rfl, w.server, rfl⟩

theorem Called.trace {K : Permission} {c : Call} {result : Except ActionError c.Reply}
    (h : Called c w w' result) (hK : K.Allows w (.call c)) : Trace K w w' :=
  .single hK (.call c result h.bot h.history)

/-- Some occurrences are added to the history, and the activities are the same. -/
structure Adds (w : World) (made : List Occurrence) (w' : World) : Prop where
  history : w'.history = made.reverse ++ w.history
  activities : w'.activities = w.activities

theorem Adds.of_alike (h : Alike w w') : Adds w [] w' :=
  ⟨h.history, h.activities⟩

theorem Called.adds {c : Call} {result : Except ActionError c.Reply} (h : Called c w w' result) :
    Adds w [.called w.bot w.activities c result] w' :=
  ⟨h.history, h.activities⟩

theorem Adds.trans {w₁ : World} {made made' : List Occurrence} (h : Adds w made w₁)
    (h' : Adds w₁ made' w') : Adds w (made ++ made') w' where
  history := by rw [h'.history, h.history, List.reverse_append, List.append_assoc]
  activities := h'.activities.trans h.activities

/-! ### Entering -/

/-- The activities during which a room is entered. -/
def World.entering (w : World) (room : RoomId) : List Activity :=
  w.activities ++ [.roomBootstrap room]

/-- The permission to make the calls by which a room is entered. -/
def Entering : Permission where
  Allows _
    | .aside | .call (.join ..) | .call (.listMembers _) | .call (.bannedMembers _) => True
    | .report | .call _ | .change _ => False
  aside _ := trivial

/-- These calls leave the bot as it is. -/
theorem Trace.bot_eq_of_entering (h : Trace Entering w w') : w'.bot = w.bot :=
  h.bot_eq_of_no_change fun _ _ hd => hd

/-- What entering a room comes to. -/
inductive Joined (room : RoomId) (w w' : World) : Except ActionError RoomId → Prop
  /-- A call fails, and there have only been calls. -/
  | failed (e : ActionError) (entering : Trace Entering w w') : Joined room w w' (.error e)
  /-- The homeserver names a room and tells who is in it and who is banned there; the record of this
  room is begun with what is configured for the room that was asked for. -/
  | entered (joined : RoomId) (members banned : MemberMap String)
      (bot : w'.bot = w.bot.seed joined members.keys banned (w.bot.config.roomConfig room))
      (history : w'.history =
        .called w.bot (w.entering room) (.bannedMembers joined) (.ok banned) ::
        .called w.bot (w.entering room) (.listMembers joined) (.ok members) ::
        .called w.bot (w.entering room) (.join room room.server?.toList) (.ok joined) ::
        w.history)
      (activities : w'.activities = w.activities)
      (mayGive : (Call.join room room.server?.toList).MayGive (.ok joined)) :
      Joined room w w' (.ok joined)

/-- What the bot does once it has been let into a room: it asks who is there and who is banned, and
begins the record with what is configured for the room that was asked for. -/
def settleIn (room joined : RoomId) : ActionM RoomId := do
  let members ← attempt "list_members" (.listMembers joined)
  let banned ← attempt "banned_members" (.bannedMembers joined)
  beginRecord joined members.keys banned ((← getConfig).roomConfig room)
  note (.roomJoined joined)
  return joined

/-- To enter a room is to be let in and then to settle in. -/
theorem run_joinRoom (room : RoomId) (w : World) :
    (joinRoom room).run.run w =
      match (attempt "join" (.join room room.server?.toList)).run.run
        { w with activities := w.entering room } with
      | (.error e, v) => (.error e, { v with activities := w.activities })
      | (.ok joined, v) =>
        let told := if joined ≠ room then ((note (.aliasResolved room joined)).run v).2 else v
        let settled := (settleIn room joined).run.run told
        (settled.1, { settled.2 with activities := w.activities }) := by
  let inside : World := { w with activities := w.entering room }
  let step : ActionM RoomId := do
    let joined ← attempt "join" (.join room room.server?.toList)
    if joined ≠ room then note (.aliasResolved room joined)
    settleIn room joined
  have hrun : (joinRoom room).run.run w =
      ((step.run.run inside).1, { (step.run.run inside).2 with activities := w.activities }) := rfl
  rw [hrun]
  simp only [step]
  rw [run_bind_except]
  rcases (attempt "join" (.join room room.server?.toList)).run.run inside with ⟨e | joined, v⟩
  · rfl
  · dsimp only
    split
    · rfl
    · rfl

/-- What the homeserver tells of a room that it lets the bot into. -/
structure RoomReport where
  /-- The room, which need not be the one that was asked for. -/
  room : RoomId
  /-- Who is in it, under which display names. -/
  members : MemberMap String
  /-- Who is banned there, and why. -/
  banned : MemberMap String

/-- The calls by which a bot asks its way into a room, the latest first, and what it is told. Each
of the three calls is made only if those before it ended well. -/
inductive Inquiry (b : Bot) (activities : List Activity) (room : RoomId) :
    List Occurrence → Except ActionError RoomReport → Prop
  /-- The homeserver does not let the bot in. -/
  | barred (e : ActionError) : Inquiry b activities room
      [.called b activities (.join room room.server?.toList) (.error e)] (.error e)
  /-- It does not tell who is in the room. -/
  | membersUntold (joined : RoomId) (e : ActionError) : Inquiry b activities room
      [.called b activities (.listMembers joined) (.error e),
        .called b activities (.join room room.server?.toList) (.ok joined)] (.error e)
  /-- It does not tell who is banned there. -/
  | bansUntold (joined : RoomId) (members : MemberMap String) (e : ActionError) :
      Inquiry b activities room
        [.called b activities (.bannedMembers joined) (.error e),
          .called b activities (.listMembers joined) (.ok members),
          .called b activities (.join room room.server?.toList) (.ok joined)] (.error e)
  /-- It tells everything. -/
  | allTold (joined : RoomId) (members banned : MemberMap String) : Inquiry b activities room
      [.called b activities (.bannedMembers joined) (.ok banned),
        .called b activities (.listMembers joined) (.ok members),
        .called b activities (.join room room.server?.toList) (.ok joined)]
      (.ok ⟨joined, members, banned⟩)

/-- The bot after it has asked its way into a room: it begins a record, with what is configured for
the room that was asked for, only if it has been told everything. -/
def Bot.informed (b : Bot) (room : RoomId) : Except ActionError RoomReport → Bot
  | .ok report => b.seed report.room report.members.keys report.banned (b.config.roomConfig room)
  | .error _ => b

/-- What becomes of a world in which the bot asks its way into a room. -/
structure Inquired (room : RoomId) (w w' : World) (made : List Occurrence)
    (answer : Except ActionError RoomReport) : Prop where
  inquiry : Inquiry w.bot (w.entering room) room made answer
  bot : w'.bot = w.bot.informed room answer
  history : w'.history = made ++ w.history
  activities : w'.activities = w.activities
  mayGive : ∀ report, answer = .ok report →
    (Call.join room room.server?.toList).MayGive (.ok report.room)

/-- Settling in is the rest of an inquiry. -/
private theorem inquired_settleIn {room joined : RoomId} {v : World} (hbot : v.bot = w.bot)
    (hhistory : v.history = .called w.bot (w.entering room) (.join room room.server?.toList)
      (.ok joined) :: w.history)
    (hactivities : v.activities = w.entering room)
    (hmayGive : (Call.join room room.server?.toList).MayGive (.ok joined)) :
    let settled := (settleIn room joined).run.run v
    ∃ made answer, Inquired room w { settled.2 with activities := w.activities } made answer ∧
      settled.1 = answer.map RoomReport.room := by
  unfold settleIn
  rw [run_bind_except]
  have hlist := called_attempt "list_members" (.listMembers joined) v
  rcases hmembers : (attempt "list_members" (.listMembers joined)).run.run v with
    ⟨e | members, v₁⟩
  · rw [hmembers] at hlist
    refine ⟨_, _, ⟨.membersUntold joined e, hlist.bot.trans hbot, ?_, rfl, nofun⟩, rfl⟩
    change v₁.history = _
    rw [hlist.history, hhistory, hbot, hactivities]
    rfl
  rw [hmembers] at hlist
  dsimp only
  rw [run_bind_except]
  have hbans := called_attempt "banned_members" (.bannedMembers joined) v₁
  have hbot₁ : v₁.bot = w.bot := hlist.bot.trans hbot
  have hhistory₁ := hlist.history
  rw [hhistory, hbot, hactivities] at hhistory₁
  have hactivities₁ : v₁.activities = w.entering room := hlist.activities.trans hactivities
  rcases hbanned : (attempt "banned_members" (.bannedMembers joined)).run.run v₁ with
    ⟨e | banned, v₂⟩
  · rw [hbanned] at hbans
    refine ⟨_, _, ⟨.bansUntold joined members e, hbans.bot.trans hbot₁, ?_, rfl, nofun⟩, rfl⟩
    change v₂.history = _
    rw [hbans.history, hhistory₁, hbot₁, hactivities₁]
    rfl
  · rw [hbanned] at hbans
    have hbot₂ : v₂.bot = w.bot := hbans.bot.trans hbot₁
    refine ⟨_, _, ⟨.allTold joined members banned, ?_, ?_, rfl, ?_⟩, rfl⟩
    · change v₂.bot.seed joined members.keys banned (v₂.bot.config.roomConfig room) = _
      rw [hbot₂]
      rfl
    · change v₂.history = _
      rw [hbans.history, hhistory₁, hbot₁, hactivities₁]
      rfl
    · rintro _ ⟨⟩
      exact hmayGive

/-- To enter a room is to ask one's way in. -/
theorem inquired_joinRoom (room : RoomId) (w : World) :
    ∃ made answer, Inquired room w ((joinRoom room).run.run w).2 made answer ∧
      ((joinRoom room).run.run w).1 = answer.map RoomReport.room := by
  let inside : World := { w with activities := w.entering room }
  rw [run_joinRoom]
  have hjoin := called_attempt "join" (.join room room.server?.toList) inside
  rcases hjoined : (attempt "join" (.join room room.server?.toList)).run.run inside with
    ⟨e | joined, v⟩
  · rw [hjoined] at hjoin
    exact ⟨_, _, ⟨.barred e, hjoin.bot, hjoin.history, rfl, nofun⟩, rfl⟩
  · rw [hjoined] at hjoin
    dsimp only
    split
    · exact inquired_settleIn hjoin.bot hjoin.history hjoin.activities hjoin.mayGive
    · exact inquired_settleIn hjoin.bot hjoin.history hjoin.activities hjoin.mayGive

/-- An inquiry is a row of the calls by which rooms are entered. -/
theorem Inquiry.trace {room : RoomId} {made : List Occurrence}
    {answer : Except ActionError RoomReport} (h : Inquiry w.bot w.activities room made answer) :
    Trace Entering w { w with history := made ++ w.history } := by
  have hstep : ∀ (c : Call) (result : Except ActionError c.Reply) (before : List Occurrence),
      Entering.Allows { w with history := before } (.call c) →
      Trace Entering { w with history := before }
        { w with history := .called w.bot w.activities c result :: before } :=
    fun c result _ hc => .single hc (.call c result rfl rfl)
  have hjoin := fun result => hstep (.join room room.server?.toList) result w.history trivial
  have hlist := fun joined result before => hstep (.listMembers joined) result before trivial
  have hbans := fun joined result before => hstep (.bannedMembers joined) result before trivial
  cases h with
  | barred e => exact hjoin (.error e)
  | membersUntold joined e => exact (hjoin (.ok joined)).trans (hlist joined (.error e) _)
  | bansUntold joined members e =>
    exact ((hjoin (.ok joined)).trans (hlist joined (.ok members) _)).trans
      (hbans joined (.error e) _)
  | allTold joined members banned =>
    exact ((hjoin (.ok joined)).trans (hlist joined (.ok members) _)).trans
      (hbans joined (.ok banned) _)

theorem joined_joinRoom (room : RoomId) (w : World) :
    Joined room w ((joinRoom room).run.run w).2 ((joinRoom room).run.run w).1 := by
  obtain ⟨made, answer, h, hresult⟩ := inquired_joinRoom room w
  rw [hresult]
  cases answer with
  | ok report =>
    have hgive := h.mayGive report rfl
    cases h.inquiry with
    | allTold joined members banned => exact .entered _ _ _ h.bot h.history h.activities hgive
  | error e =>
    have hbegin : Trace Entering w { w with activities := w.entering room } := .aside rfl rfl
    have hcalls : Trace Entering { w with activities := w.entering room }
        { w with activities := w.entering room, history := made ++ w.history } :=
      Inquiry.trace (w := { w with activities := w.entering room }) h.inquiry
    exact .failed e ((hbegin.trans hcalls).trans (.aside h.bot h.history))

/-! ### Leaving -/

/-- What leaving a room comes to. -/
inductive Left (room : RoomId) (w w' : World) : Except ActionError Unit → Prop
  /-- The homeserver refuses, and the record stays. -/
  | refused (e : ActionError) (called : Called (.leave room) w w' (.error e)) :
      Left room w w' (.error e)
  /-- The room is left, and its record is ended. -/
  | left (bot : w'.bot = w.bot.dropRoom room)
      (history : w'.history = .called w.bot w.activities (.leave room) (.ok ()) :: w.history)
      (activities : w'.activities = w.activities) : Left room w w' (.ok ())

/-- However it ends, leaving a room leaves the configuration as it is. -/
theorem Left.roaming {room : RoomId} {result : Except ActionError Unit}
    (h : Left room w w' result) : Trace Roaming w w' := by
  cases h with
  | refused e called => exact called.trace rfl
  | left bot history =>
    have hcall : Trace Roaming w
        { w with history := .called w.bot w.activities (.leave room) (.ok ()) :: w.history } :=
      .single (d := .call (.leave room)) rfl (.call _ (.ok ()) rfl rfl)
    exact hcall.trans (.single (d := .change (.dropped room)) trivial (.change _ bot history))

theorem run_endRecord (room : RoomId) (w : World) :
    ((endRecord room).run w).2.bot = w.bot.dropRoom room ∧
      ((endRecord room).run w).2.history = w.history ∧
      ((endRecord room).run w).2.activities = w.activities := by
  unfold endRecord
  rw [run_bind, run_getBot]
  dsimp only
  split
  · exact ⟨rfl, rfl, rfl⟩
  · exact ⟨rfl, rfl, rfl⟩

theorem left_leaveRoom (room : RoomId) (w : World) :
    Left room w ((leaveRoom room).run.run w).2 ((leaveRoom room).run.run w).1 := by
  unfold leaveRoom
  rw [run_bind_except]
  have hleave := called_attempt "leave" (.leave room) w
  cases hleft : (attempt "leave" (.leave room)).run.run w with
  | mk result v =>
    rw [hleft] at hleave
    cases result with
    | error e => exact .refused e hleave
    | ok _ =>
      obtain ⟨hbot, hhistory, hactivities⟩ := run_endRecord room v
      exact .left (hbot.trans (by rw [hleave.bot])) (hhistory.trans hleave.history)
        (hactivities.trans hleave.activities)

/-! ### Around it -/

/-- What changing the configuration as part of a command comes to. -/
inductive Edited {α : Type} (edit : Config.Edit α) (w w' : World) :
    Except HandlerError Unit → Prop
  /-- The change fails. -/
  | failed (e : ConfigError) (fails : (w.bot.store.update edit).1 = .error e)
      (bot : w'.bot = { w.bot with store := w'.bot.store }) (config : w'.bot.config = w.bot.config)
      (history : w'.history = w.history) : Edited edit w w' (.error (.config e))
  /-- The change is made. -/
  | made (a : α) (edits : edit w.bot.config = .ok (a, w'.bot.config))
      (bot : w'.bot = { w.bot with store := w'.bot.store }) (history : w'.history = w.history)
      (activities : w'.activities = w.activities) : Edited edit w w' (.ok ⟨⟩)

/-- A change that fails leaves what is configured for rooms as it is. -/
theorem Edited.minding {α : Type} {edit : Config.Edit α} {e : HandlerError}
    (h : Edited edit w w' (.error e)) : Trace Minding w w' := by
  cases h with
  | failed e fails bot config history =>
    exact .single (d := .change (.stored w'.bot.store)) (congrArg Config.rooms config)
      (.change _ bot history)

theorem Edited.activities_eq {α : Type} {edit : Config.Edit α} (h : Edited edit w w' (.ok ⟨⟩)) :
    w'.activities = w.activities := by
  cases h with
  | made a edits bot history activities => exact activities

theorem run_editing {α : Type} (edit : Config.Edit α) (w : World) :
    ∃ log, (editing edit).run.run w = ((w.bot.store.update edit).1.mapError .config,
      { w with bot := { w.bot with store := (w.bot.store.update edit).2 }, log := log }) :=
  ⟨_, rfl⟩

theorem edited_editing {α : Type} (edit : Config.Edit α) (w : World) :
    let step : HandlerM PUnit := discard (editing edit)
    Edited edit w (step.run.run w).2 (step.run.run w).1 := by
  intro step
  obtain ⟨log, hedit⟩ := run_editing edit w
  have hstep :
      step.run.run w = (editing edit >>= fun _ => pure ⟨⟩ : HandlerM PUnit).run.run w := rfl
  rw [hstep, run_bind_except, hedit]
  obtain ⟨e, hresult, hconfig⟩ | ⟨a, c, hedits, hresult, rfl⟩ := w.bot.store.update_cases edit
  · rw [hresult]
    exact .failed e hresult rfl hconfig rfl
  · rw [hresult]
    exact .made a hedits rfl rfl rfl

/-- A command that wants a room to be monitored fails where it is not, and else does nothing. -/
theorem run_requireMonitored (room : RoomId) (w : World) :
    (requireMonitored room).run.run w =
      if w.bot.config.isMonitored room = true then (.ok (), w)
      else (.error (.roomNotMonitored room), w) := by
  unfold requireMonitored
  rw [run_bind_except, run_lift, run_getConfig]
  dsimp only
  cases w.bot.config.isMonitored room <;> rfl

/-- What setting the modes of a room or their parameters comes to. -/
inductive ModesSet (room : RoomId) (w w' : World) : Prop
  /-- The room is not monitored, or the configuration cannot be changed. -/
  | failed (minding : Trace Minding w w')
  /-- What is configured for the room is changed, for all other rooms it stays as it is, and the
  record of the room is read anew before anything else is done. -/
  | made (store : ConfigStore) (monitored : store.config.isMonitored room = true)
      (others : ∀ other, other ≠ room → store.config.rooms[other]? = w.bot.config.rooms[other]?)
      (v : World) (bot : v.bot = ({ w.bot with store := store } : Bot).refreshModes room)
      (history : v.history = w.history) (minding : Trace Minding v w')

theorem modesSet_of_editRoom {α : Type} (room : RoomId) (f : RoomConfig → α × RoomConfig)
    {rest : α → HandlerM Unit} (hrest : ∀ a, Does Minding (rest a).run) (w : World) :
    let step : HandlerM Unit := do
      requireMonitored room
      let a ← editing (Config.editRoom room f)
      refresh room
      rest a
    ModesSet room w (step.run.run w).2 := by
  intro step
  let edit : Config.Edit α := Config.editRoom room f
  simp only [step]
  rw [run_bind_except, run_requireMonitored]
  cases hmonitored : w.bot.config.isMonitored room with
  | false =>
    rw [if_neg Bool.false_ne_true]
    exact .failed (.refl w)
  | true =>
  rw [if_pos rfl]
  dsimp only
  rw [run_bind_except]
  obtain ⟨log, hrun⟩ := run_editing edit w
  rw [hrun]
  obtain ⟨e, hresult, hconfig⟩ | ⟨a, c, hedits, hresult, hconfig⟩ := w.bot.store.update_cases edit
  · rw [hresult]
    have hstored : Trace Minding w
        { w with bot := { w.bot with store := (w.bot.store.update edit).2 }, log := log } :=
      .single (d := .change (.stored (w.bot.store.update edit).2))
        (congrArg Config.rooms hconfig) (.change _ rfl rfl)
    exact .failed hstored
  · rw [hresult]
    dsimp only [Except.mapError]
    rw [run_bind_except, run_lift]
    have hothers : ∀ other, other ≠ room →
        (w.bot.store.update edit).2.config.rooms[other]? = w.bot.config.rooms[other]? := by
      rw [hconfig]
      exact Config.changesOnly_editRoom room f _ a c hedits
    have hstill : (w.bot.store.update edit).2.config.isMonitored room = true := by
      rw [hconfig]
      exact Config.keepsRooms_editRoom room f _ a c hedits room hmonitored
    exact .made _ hstill hothers ((refresh room).run
      { w with bot := { w.bot with store := (w.bot.store.update edit).2 }, log := log }).2 rfl rfl
      (hrest a _)

theorem modesSet_handleRoom (origin : CommandOrigin) {action : RoomAction}
    (hsets : (Command.room action).setsModes = true) (w : World) :
    ∃ room, ModesSet room w ((handleRoom origin action).run.run w).2 := by
  cases action with
  | add | del | list | modeList => cases hsets
  | modeAdd room mode =>
    refine ⟨room, modesSet_of_editRoom room _ (fun added => ?_) w⟩
    split
    · exact .bind_except (.lift (.note _)) fun _ => does_say origin _
    · exact does_say origin _
  | modeDel room mode =>
    refine ⟨room, modesSet_of_editRoom room _ (fun removed => ?_) w⟩
    split
    · exact .bind_except (.lift (.note _)) fun _ => does_say origin _
    · exact does_say origin _
  | paramSet room mode value =>
    exact ⟨room, modesSet_of_editRoom room _ (fun _ =>
      .bind_except (.lift (.note _)) fun _ => does_say origin _) w⟩

/-- What replying comes to. -/
theorem called_reply (origin : CommandOrigin) (text : String) (w : World) :
    ∃ result, Called (.send origin.room (.plain text)) w ((reply origin text).run.run w).2 result ∧
      ((reply origin text).run.run w).1 = result.mapError .action := by
  have hsend := called_attempt "send" (.send origin.room (.plain text)) w
  have hreply : (reply origin text).run.run w =
      let sent := (attempt "send" (.send origin.room (.plain text))).run.run w
      let told := match sent.1 with
        | .ok _ => sent.2
        | .error e => ((note (.postFailed origin.room e)).run sent.2).2
      (sent.1.mapError .action, told) := by
    change ((send origin.room (.plain text)).run >>= fun result =>
      (pure (result.mapError .action) : BotM (Except HandlerError Unit))).run w = _
    rw [run_bind]
    unfold send
    rw [ExceptT.run_mk, run_bind]
    cases (attempt "send" (.send origin.room (.plain text))).run.run w with
    | mk result v => cases result <;> rfl
  rw [hreply]
  cases hsent : (attempt "send" (.send origin.room (.plain text))).run.run w with
  | mk result v =>
    rw [hsent] at hsend
    cases result with
    | ok _ => exact ⟨_, hsend, rfl⟩
    | error e => exact ⟨.error e, ⟨hsend.bot, hsend.history, hsend.activities, hsend.mayGive⟩, rfl⟩

/-! ### Taking rooms in and giving them up -/

/-- What a command to take a room in comes to. -/
inductive TakenIn (asked : RoomId) (w w' : World) : Prop
  /-- The room is monitored already. -/
  | known (minding : Trace Minding w w')
  /-- The room cannot be entered. -/
  | refused (e : ActionError) (joined : Joined asked w w' (.error e))
  /-- The room is entered, and the configuration cannot be changed accordingly. -/
  | unwritten (joined : RoomId) (v : World) (entered : Joined asked w v (.ok joined))
      (e : HandlerError) (edited : Edited (Config.addRoom joined) v w' (.error e))
  /-- The room is entered, the configuration is changed, and the record of the room is read anew
  before anything else is done. -/
  | written (joined : RoomId) (v₁ v₂ v₃ : World) (entered : Joined asked w v₁ (.ok joined))
      (edited : Edited (Config.addRoom joined) v₁ v₂ (.ok ⟨⟩))
      (bot : v₃.bot = v₂.bot.refreshModes joined) (history : v₃.history = v₂.history)
      (minding : Trace Minding v₃ w')

theorem takenIn_handleRoom (origin : CommandOrigin) (asked : RoomId) (w : World) :
    TakenIn asked w ((handleRoom origin (.add asked)).run.run w).2 := by
  unfold handleRoom
  dsimp only
  rw [run_bind_except, run_lift, run_getConfig]
  dsimp only
  split
  · exact .known (does_say origin _ w)
  have hjoined := joined_joinRoom asked w
  have hacting : (acting (joinRoom asked)).run.run w =
      (((joinRoom asked).run.run w).1.mapError .action, ((joinRoom asked).run.run w).2) := rfl
  rw [run_bind_except, hacting]
  cases hrun : (joinRoom asked).run.run w with
  | mk result v₁ =>
    rw [hrun] at hjoined
    cases result with
    | error e => exact .refused e hjoined
    | ok joined =>
      dsimp only [Except.mapError]
      rw [run_bind_except]
      have hedited := edited_editing (Config.addRoom joined) v₁
      dsimp only at hedited
      cases hedit : (discard (editing (Config.addRoom joined)) : HandlerM PUnit).run.run v₁ with
      | mk written v₂ =>
        rw [hedit] at hedited
        cases written with
        | error e => exact .unwritten joined v₁ hjoined e hedited
        | ok _ =>
          have hrest : Does Minding (do
              note (.roomAdded joined origin.sender)
              reply origin s!"Now monitoring {joined.text}" : HandlerM Unit).run :=
            .bind_except (.lift (.note _)) fun _ => does_say origin _
          exact .written joined v₁ v₂ ((refresh joined).run v₂).2 hjoined hedited rfl rfl (hrest _)

/-- The reply that confirms that a room is given up. -/
def CommandOrigin.confirmation (origin : CommandOrigin) (given : RoomId) : Call :=
  .send origin.room (.plain s!"Stopped monitoring {given.text}")

/-- What a command to give a room up comes to. -/
inductive GivenUp (origin : CommandOrigin) (given : RoomId) (w w' : World) : Prop
  /-- The room is not monitored. -/
  | unknown (minding : Trace Minding w w')
  /-- The configuration cannot be changed accordingly. -/
  | unwritten (e : HandlerError) (edited : Edited (Config.removeRoom given) w w' (.error e))
  /-- The configuration is changed, and this cannot be confirmed. -/
  | unconfirmed (v : World) (edited : Edited (Config.removeRoom given) w v (.ok ⟨⟩))
      (e : ActionError) (called : Called (origin.confirmation given) v w' (.error e))
  /-- The configuration is changed, and the homeserver is asked to let the bot leave. -/
  | parted (v₁ v₂ v₃ : World) (edited : Edited (Config.removeRoom given) w v₁ (.ok ⟨⟩))
      (called : Called (origin.confirmation given) v₁ v₂ (.ok ()))
      (result : Except ActionError Unit) (left : Left given v₂ v₃ result)
      (spoken : Trace Speaking v₃ w')

/-- Giving a room up leaves the configuration as it is, but for one change. -/
theorem GivenUp.roaming {origin : CommandOrigin} {given : RoomId} (h : GivenUp origin given w w') :
    Trace Roaming w w' ∨
      ∃ v, Edited (Config.removeRoom given) w v (.ok ⟨⟩) ∧ Trace Roaming v w' := by
  cases h with
  | unknown minding => exact .inl minding.within
  | unwritten e edited => exact .inl edited.minding.within
  | unconfirmed v edited e called => exact .inr ⟨v, edited, called.trace rfl⟩
  | parted v₁ v₂ v₃ edited called result left spoken =>
    exact .inr ⟨v₁, edited, ((called.trace rfl).trans left.roaming).trans spoken.within⟩

theorem givenUp_handleRoom (origin : CommandOrigin) (given : RoomId) (w : World) :
    GivenUp origin given w ((handleRoom origin (.del given)).run.run w).2 := by
  unfold handleRoom
  dsimp only
  rw [run_bind_except, run_requireMonitored]
  by_cases hgiven : ¬w.bot.config.isMonitored given = true
  · rw [if_neg hgiven]
    exact .unknown (.refl w)
  rw [if_pos (Decidable.not_not.1 hgiven)]
  dsimp only
  rw [run_bind_except]
  have hedited := edited_editing (Config.removeRoom given) w
  dsimp only at hedited
  cases hedit : (discard (editing (Config.removeRoom given)) : HandlerM PUnit).run.run w with
  | mk written v₁ =>
    rw [hedit] at hedited
    cases hedited with
    | failed e fails bot config history => exact .unwritten _ (.failed e fails bot config history)
    | made removed edits bot history activities =>
      dsimp only
      rw [run_bind_except, run_lift]
      dsimp only
      rw [run_bind_except]
      let noted : World := ((note (.roomRemoved given origin.sender)).run v₁).2
      have hnoted : Edited (Config.removeRoom given) w noted (.ok ⟨⟩) :=
        .made removed edits bot history activities
      obtain ⟨posted, hcalled, hposted⟩ :=
        called_reply origin s!"Stopped monitoring {given.text}" noted
      cases hreply : (reply origin s!"Stopped monitoring {given.text}").run.run noted with
      | mk result v₂ =>
        rw [hreply] at hcalled hposted
        cases posted with
        | error e =>
          cases hposted
          exact .unconfirmed noted hnoted e hcalled
        | ok _ =>
          cases hposted
          dsimp only
          rw [run_bind_except, run_lift]
          have hleft := left_leaveRoom given v₂
          cases hleave : (leaveRoom given).run.run v₂ with
          | mk result v₃ =>
            rw [hleave] at hleft
            refine .parted noted v₂ v₃ hnoted hcalled result hleft ?_
            cases result with
            | ok _ => exact .refl v₃
            | error e => exact .aside rfl rfl

end RoomModeration
