import RoomModeration.Bot.Membership
import RoomModeration.Bot.Start
import RoomModeration.Proofs.Config.Rooms
import RoomModeration.Proofs.Speaking

/-!
# Upkeep

All that the bot does besides banning and unbanning: it enters and leaves rooms, keeps its records
and its configuration, opens and closes welcome rooms, and answers questions. None of it bans
anybody or lifts a ban. Most of it only tends to what there is: it neither begins a record nor gives
a room up, and only the commands about the modes of a room change what is configured for rooms. Of
this again most stays where it is: it enters no room and leaves none.

## Main definitions

* `Upkeep` : the permission to do anything but ban and unban.
* `Tending` : the permission to do of this what neither begins a record nor gives a room up.
* `Roaming` : the permission to do of this what leaves the configuration of the rooms as it is.
* `Minding` : the permission to do of this what enters no room and leaves none.
* `Command.movesRooms`, `Command.setsModes` : the commands that do more than tend, and those that
  tend to the configuration of a room.

## Main results

* `does_joinRoom`, `does_leaveRoom`, `does_handleLeft`, `does_rejoin` : rooms.
* `does_handle`, `does_handle_of_movesRooms_eq_false`, `does_handle_of_minds` : commands.
* `does_welcomeNewcomer`, `does_evict` : welcome rooms.
-/

namespace RoomModeration

open BotM RoomModeration.Bot

/-- A command to take a room in or to give one up. -/
def Command.movesRooms : Command → Bool
  | room (.add _) | room (.del _) => true
  | _ => false

theorem Command.movesRooms_iff {command : Command} :
    command.movesRooms = true ↔ ∃ r, command = .room (.add r) ∨ command = .room (.del r) := by
  constructor
  · intro h
    unfold movesRooms at h
    split at h
    · exact ⟨_, .inl rfl⟩
    · exact ⟨_, .inr rfl⟩
    · cases h
  · rintro ⟨r, rfl | rfl⟩ <;> rfl

/-- A command to change the modes of a room or their parameters. -/
def Command.setsModes : Command → Bool
  | room (.modeAdd ..) | room (.modeDel ..) | room (.paramSet ..) => true
  | _ => false

variable [Surroundings]

/-! ### Permissions -/

/-- The permission to do anything but ban and unban. -/
def Upkeep : Permission where
  Allows _
    | .call c => c.isModeration = false
    | .aside | .report | .change _ => True
  aside _ := trivial

/-- The permission to tend to what there is: to do anything but ban, unban, begin a record and give
a room up. -/
def Tending : Permission where
  Allows w
    | .call c => c.isModeration = false
    | .change (.seeded ..) => False
    | .change (.stored store) =>
      ∀ room, w.bot.config.isMonitored room = true → store.config.isMonitored room = true
    | .aside | .report | .change _ => True
  aside _ := trivial

/-- The permission to tend to what there is and to leave what is configured for rooms as it is. -/
def Roaming : Permission where
  Allows w
    | .call c => c.isModeration = false
    | .change (.seeded ..) => False
    | .change (.stored store) => store.config.rooms = w.bot.config.rooms
    | .aside | .report | .change _ => True
  aside _ := trivial

/-- The permission to tend to what there is, to leave what is configured for rooms as it is, and to
stay where one is: to enter no room and to leave none, not even a welcome room. -/
def Minding : Permission where
  Allows w
    | .call c => c.isModeration = false ∧ c.isMove = false
    | .report | .change (.seeded ..) | .change (.registered _) => False
    | .change (.stored store) => store.config.rooms = w.bot.config.rooms
    | .aside | .change _ => True
  aside _ := trivial

instance : Tending.Within Upkeep where
  allows {_ d} h := by
    cases d with
    | call c => exact h
    | aside | report | change => trivial

instance : Roaming.Within Tending where
  allows {w d} h := by
    cases d with
    | aside | report => trivial
    | call c => exact h
    | change c =>
      cases c with
      | seeded => exact h.elim
      | stored store =>
        intro room hroom
        rwa [Config.isMonitored, show store.config.rooms = w.bot.config.rooms from h]
      | _ => trivial

instance : Minding.Within Roaming where
  allows {_ d} h := by
    cases d with
    | aside => trivial
    | report => exact h.elim
    | call c => exact h.1
    | change c =>
      cases c with
      | seeded | registered => exact h.elim
      | stored => exact h
      | _ => trivial

instance : Speaking.Within Minding where
  allows {_ d} h := by
    cases d with
    | aside => trivial
    | call c => exact h
    | report | change => exact h.elim

instance : Roaming.Within Upkeep :=
  .trans Roaming Tending Upkeep

instance : Minding.Within Tending :=
  .trans Minding Roaming Tending

instance : Minding.Within Upkeep :=
  .trans Minding Roaming Upkeep

instance : Speaking.Within Roaming :=
  .trans Speaking Minding Roaming

instance : Speaking.Within Tending :=
  .trans Speaking Minding Tending

instance : Speaking.Within Upkeep :=
  .trans Speaking Minding Upkeep

/-! ### Rooms -/

theorem does_endRecord (room : RoomId) : Does Minding (endRecord room) := by
  have hdrop : Does Minding (change (·.dropRoom room)) :=
    .change (.dropped room) (fun _ => rfl) fun _ => trivial
  exact .bind .getBot fun bot => .first_if (.note _) fun _ => hdrop

/-- Entering a room is a row of three calls, and a record is begun at the end. -/
theorem does_joinRoom_of_allows {K : Permission} {room : RoomId}
    (hjoin : ∀ w, K.Allows w (.call (.join room room.server?.toList)))
    (hmembers : ∀ w joined, K.Allows w (.call (.listMembers joined)))
    (hbanned : ∀ w joined, K.Allows w (.call (.bannedMembers joined)))
    (hseed : ∀ w joined members banned config,
      K.Allows w (.change (.seeded joined members banned config))) :
    Does K (joinRoom room).run := by
  refine .during _ (.bind_except (.attempt "join" hjoin) fun joined => ?_)
  have hbegin : ∀ members banned config, Does K (beginRecord joined members banned config) :=
    fun members banned config => .bind (.note _) fun _ =>
      .change (.seeded joined members banned config) (fun _ => rfl) fun w => hseed w _ _ _ _
  have hrest : Does K (do
      let members ← attempt "list_members" (.listMembers joined)
      let banned ← attempt "banned_members" (.bannedMembers joined)
      beginRecord joined members.keys banned ((← getConfig).roomConfig room)
      note (.roomJoined joined)
      return joined : ActionM RoomId).run :=
    .bind_except (.attempt "list_members" fun w => hmembers w joined) fun members =>
      .bind_except (.attempt "banned_members" fun w => hbanned w joined) fun banned =>
        .bind_except (.lift .getConfig) fun config =>
          .bind_except (.lift (hbegin _ banned _)) fun _ =>
            .bind_except (.lift (.note _)) fun _ => .pure_except joined
  dsimp only
  split
  · exact .bind_except (.lift (.note _)) fun _ => hrest
  · exact hrest

theorem does_joinRoom (room : RoomId) : Does Upkeep (joinRoom room).run :=
  does_joinRoom_of_allows (fun _ => rfl) (fun _ _ => rfl) (fun _ _ => rfl)
    fun _ _ _ _ _ => trivial

theorem does_leaveRoom (room : RoomId) : Does Roaming (leaveRoom room).run :=
  .bind_except (.attempt "leave" fun _ => rfl) fun _ =>
    .bind_except (.lift (does_endRecord room).within) fun _ => .lift (.note _)

theorem does_joinEach (rooms : List RoomId) : Does Upkeep (joinEach rooms) := by
  induction rooms with
  | nil => exact .pure _
  | cons room rest ih =>
    refine .bind (does_joinRoom room) fun result => ?_
    cases result with
    | ok _ => exact .bind ih fun _ => .pure _
    | error e => exact .bind (.note _) fun _ => ih

theorem does_rejoin (room : RoomId) : Does Upkeep (Bot.rejoin room) := by
  refine .bind .getConfig fun config => ?_
  split
  · exact .note _
  · refine .bind (does_joinRoom room) fun result => ?_
    cases result with
    | ok _ => exact .note _
    | error e => exact .note _

/-! ### Welcome rooms -/

/-- Taking an entry out of the registry is a change of the bot. -/
theorem trace_unregister {w : World} {room : RoomId} {removed : Option WelcomeRoom} {bot : Bot}
    (h : w.bot.unregister room = (removed, bot)) :
    Trace Minding w ((change fun _ => bot).run w).2 :=
  .single (d := .change (.unregistered room)) trivial
    (.change _ (by rw [Change.apply, h]; rfl) rfl)

theorem does_handleLeft (room : RoomId) : Does Minding (handleLeft room) := by
  intro w
  unfold handleLeft
  rw [run_bind, run_getBot]
  dsimp only
  cases hunregister : w.bot.unregister room with
  | mk removed bot =>
    cases removed with
    | none =>
      refine (Trace.refl w).step (.bind (does_endRecord room) fun _ =>
        .bind .getConfig fun config => ?_)
      split
      · exact .bind (.note _) fun _ => .bind (.spawn _) fun _ => .pure _
      · exact .bind (.note _) fun _ => .pure _
    | some entry =>
      exact (trace_unregister hunregister).step
        (.bind (.note _) fun _ => .bind (.count _) fun _ => .pure _)

theorem does_evict (room : RoomId) (why : Eviction) : Does Roaming (evict room why) := by
  intro w
  unfold evict
  rw [run_bind, run_getBot]
  dsimp only
  cases hunregister : w.bot.unregister room with
  | mk removed bot =>
    cases removed with
    | none => exact .refl w
    | some entry =>
      have hleave : Does Roaming (attempt "leave" (.leave room)).run :=
        .attempt "leave" fun _ => rfl
      dsimp only
      rw [run_bind]
      refine (trace_unregister hunregister).within.step
        (.bind (.count _) fun _ => .bind (.note _) fun _ => .bind hleave fun result => ?_)
      cases result with
      | ok _ => exact .pure _
      | error e => exact .bind (.note _) fun _ => .pure _

theorem does_createWelcome (source : RoomId) (member : MemberId) :
    Does Roaming (createWelcome source member).run :=
  .bind_except (.lift .getConfig) fun _ =>
    .bind_except (.attempt "create" fun _ => rfl) fun room =>
      .bind_except (.lift .get) fun w =>
        .bind_except (.lift (.change (.registered ⟨room, member, source, w.now⟩) (fun _ => rfl)
          fun _ => trivial)) fun _ =>
            .bind_except (.lift (.note _)) fun _ =>
              .bind_except (.lift (does_greet room source member).within) fun _ =>
                .pure_except room

theorem does_welcomeNewcomer (source : RoomId) (member : MemberId) :
    Does Roaming (welcomeNewcomer source member) := by
  refine .bind (does_createWelcome source member) fun result => ?_
  cases result with
  | ok _ => exact .pure _
  | error e => exact .note _

/-! ### Commands -/

/-- Changing the configuration is one change of the bot. -/
theorem trace_configure {K : Permission} {α : Type} (edit : Config.Edit α) {w : World}
    (hK : K.Allows w (.change (.stored (w.bot.store.update edit).2))) :
    Trace K w ((configure edit).run w).2 := by
  have hstore : Trace K w { w with bot := { w.bot with store := (w.bot.store.update edit).2 } } :=
    .single hK (.change _ rfl rfl)
  exact hstore.trans (.aside rfl rfl)

theorem does_configure {α : Type} (edit : Config.Edit α) : Does Upkeep (configure edit) :=
  fun _ => trace_configure edit trivial

theorem does_editing {α : Type} (edit : Config.Edit α) : Does Upkeep (editing edit).run :=
  fun w => does_configure edit w

/-- A change of the configuration that gives no room up is tending. -/
theorem does_editing_of_keepsRooms {α : Type} {edit : Config.Edit α} (h : edit.KeepsRooms) :
    Does Tending (editing edit).run :=
  fun w => trace_configure (w := w) edit fun _ hroom => ConfigStore.isMonitored_update h hroom

/-- A change of the configuration that leaves the rooms as they are moves the bot nowhere. -/
theorem does_editing_of_leavesRooms {α : Type} {edit : Config.Edit α} (h : edit.LeavesRooms) :
    Does Minding (editing edit).run :=
  fun w => trace_configure (w := w) edit (ConfigStore.rooms_update h w.bot.store)

theorem does_refresh (room : RoomId) : Does Minding (refresh room) :=
  .change (.refreshed room) (fun _ => rfl) fun _ => trivial

theorem does_requireMonitored (room : RoomId) : Does Minding (requireMonitored room).run := by
  refine .bind_except (.lift .getConfig) fun config => ?_
  split
  · exact .throw _
  · exact .pure_except _

theorem does_say (origin : CommandOrigin) (text : String) : Does Minding (reply origin text).run :=
  (does_reply origin text).within

theorem does_handleAdmin (origin : CommandOrigin) (action : AdminAction) :
    Does Minding (handleAdmin origin action).run := by
  cases action with
  | grant member =>
    have hedit := does_editing_of_leavesRooms (Config.leavesRooms_grantAdmin member)
    refine .bind_except hedit fun granted => ?_
    split
    · exact .bind_except (.lift (.note _)) fun _ => does_say origin _
    · exact does_say origin _
  | revoke member =>
    have hedit := does_editing_of_leavesRooms (Config.leavesRooms_revokeAdmin member)
    refine .bind_except hedit fun revoked => ?_
    split
    · exact .bind_except (.lift (.note _)) fun _ => does_say origin _
    · exact does_say origin _
  | list =>
    refine .bind_except (.lift .getConfig) fun config => ?_
    dsimp only
    split
    · exact does_say origin _
    · exact does_say origin _

/-- Taking a room in. -/
theorem does_addRoom (origin : CommandOrigin) (room : RoomId) :
    Does Upkeep (handleRoom origin (.add room)).run := by
  refine .bind_except (.lift .getConfig) fun config => ?_
  split
  · exact (does_say origin _).within
  · exact .bind_except (.acting (does_joinRoom room)) fun joined =>
      .bind_except (.discard_except (does_editing _)) fun _ =>
        .bind_except (.lift (does_refresh joined).within) fun _ =>
          .bind_except (.lift (.note _)) fun _ => (does_say origin _).within

/-- Giving a room up. -/
theorem does_delRoom (origin : CommandOrigin) (room : RoomId) :
    Does Upkeep (handleRoom origin (.del room)).run := by
  refine .bind_except (does_requireMonitored room).within fun _ =>
    .bind_except (.discard_except (does_editing _)) fun _ =>
      .bind_except (.lift (.note _)) fun _ =>
        .bind_except (does_say origin _).within fun _ =>
          .bind_except (.lift (does_leaveRoom room).within) fun result => ?_
  cases result with
  | ok _ => exact .pure_except _
  | error e => exact .lift (.note _)

/-- Setting the modes of a room or their parameters. -/
theorem does_handleRoom_of_setsModes (origin : CommandOrigin) {action : RoomAction}
    (hsets : (Command.room action).setsModes = true) :
    Does Tending (handleRoom origin action).run := by
  cases action with
  | add | del | list | modeList => cases hsets
  | modeAdd room mode =>
    have hedit := does_editing_of_keepsRooms (Config.keepsRooms_addMode room mode)
    refine .bind_except (does_requireMonitored room).within fun _ =>
      .bind_except hedit fun added => .bind_except (.lift (does_refresh room).within) fun _ => ?_
    split
    · exact .bind_except (.lift (.note _)) fun _ => (does_say origin _).within
    · exact (does_say origin _).within
  | modeDel room mode =>
    have hedit := does_editing_of_keepsRooms (Config.keepsRooms_removeMode room mode)
    refine .bind_except (does_requireMonitored room).within fun _ =>
      .bind_except hedit fun removed => .bind_except (.lift (does_refresh room).within) fun _ => ?_
    split
    · exact .bind_except (.lift (.note _)) fun _ => (does_say origin _).within
    · exact (does_say origin _).within
  | paramSet room mode value =>
    have hedit := does_editing_of_keepsRooms (Config.keepsRooms_setParam room mode value)
    exact .bind_except (does_requireMonitored room).within fun _ =>
      .bind_except hedit fun _ => .bind_except (.lift (does_refresh room).within) fun _ =>
        .bind_except (.lift (.note _)) fun _ => (does_say origin _).within

/-- Asking about rooms. -/
theorem does_handleRoom (origin : CommandOrigin) {action : RoomAction}
    (hmoves : (Command.room action).movesRooms = false)
    (hsets : (Command.room action).setsModes = false) :
    Does Minding (handleRoom origin action).run := by
  cases action with
  | add | del => cases hmoves
  | modeAdd | modeDel | paramSet => cases hsets
  | list =>
    refine .bind_except (.lift .getConfig) fun config => ?_
    dsimp only
    split
    · exact does_say origin _
    · exact .bind_except (.lift (does_displayNames _).within) fun names =>
        .bind_except (.lift .getConfig) fun _ => (does_replyMarkdown origin _).within
  | modeList room =>
    exact .bind_except (does_requireMonitored room) fun _ =>
      .bind_except (.lift .getConfig) fun _ => does_say origin _

theorem does_handleVars (origin : CommandOrigin) (action : VarsAction) :
    Does Minding (handleVars origin action).run := by
  cases action with
  | set name payload =>
    have hedit := does_editing_of_leavesRooms (Config.leavesRooms_setVar name payload)
    exact .bind_except hedit fun _ => does_say origin _
  | get name =>
    refine .bind_except (.lift .getConfig) fun config => ?_
    cases config.var? name with
    | some payload => exact does_say origin _
    | none => exact .throw _
  | del name =>
    have hedit := does_editing_of_leavesRooms (Config.leavesRooms_deleteVar name)
    refine .bind_except hedit fun deleted => ?_
    cases deleted with
    | some _ => exact does_say origin _
    | none => exact .throw _
  | list =>
    refine .bind_except (.lift .getConfig) fun config => ?_
    dsimp only
    split
    · exact does_say origin _
    · exact does_say origin _

theorem does_handleSetting (origin : CommandOrigin) (setting : Setting) (action : SettingAction) :
    Does Minding (handleSetting origin setting action).run := by
  cases action with
  | get => exact .bind_except (.lift .getConfig) fun _ => does_say origin _
  | set value =>
    have hedit := does_editing_of_leavesRooms (Config.leavesRooms_setSetting setting value)
    exact .bind_except hedit fun _ => .bind_except (.lift (.note _)) fun _ => does_say origin _

theorem does_handleReboot (origin : CommandOrigin) : Does Minding (handleReboot origin).run :=
  .bind_except (.lift .getConfig) fun _ => .bind_except (.lift (.note _)) fun _ =>
    .bind_except (does_say origin _) fun _ => .lift (.spawn _)

section

variable {command : Command}

/-- A command that neither moves rooms nor sets modes, and is neither to ban nor to unban, moves the
bot nowhere and leaves what is configured for rooms as it is. -/
theorem does_handle_of_minds (origin : CommandOrigin) (hban : command.handler ≠ .ban)
    (hunban : command.handler ≠ .unban) (hmoves : command.movesRooms = false)
    (hsets : command.setsModes = false) :
    Does Minding (handle command.handler origin command).run := by
  cases command with
  | ban => exact absurd rfl hban
  | unban => exact absurd rfl hunban
  | version => exact does_say origin _
  | help =>
    exact .bind_except (.lift does_helpText.within) fun _ => (does_replyMarkdown origin _).within
  | say room text =>
    exact .bind_except (.lift (.note _)) fun _ => .acting (does_post room text).within
  | admin action => exact does_handleAdmin origin action
  | room action => exact does_handleRoom origin hmoves hsets
  | vars action => exact does_handleVars origin action
  | setting setting action => exact does_handleSetting origin setting action
  | reboot => exact does_handleReboot origin

/-- A command that moves no rooms and is neither to ban nor to unban is tending. -/
theorem does_handle_of_movesRooms_eq_false (origin : CommandOrigin)
    (hban : command.handler ≠ .ban) (hunban : command.handler ≠ .unban)
    (hmoves : command.movesRooms = false) :
    Does Tending (handle command.handler origin command).run := by
  cases hsets : command.setsModes with
  | false => exact (does_handle_of_minds origin hban hunban hmoves hsets).within
  | true =>
    cases command with
    | room action => exact does_handleRoom_of_setsModes origin hsets
    | _ => cases hsets

/-- A command that is neither to ban nor to unban is upkeep. -/
theorem does_handle (origin : CommandOrigin) (hban : command.handler ≠ .ban)
    (hunban : command.handler ≠ .unban) :
    Does Upkeep (handle command.handler origin command).run := by
  cases hmoves : command.movesRooms with
  | false => exact (does_handle_of_movesRooms_eq_false origin hban hunban hmoves).within
  | true =>
    obtain ⟨room, rfl | rfl⟩ := Command.movesRooms_iff.1 hmoves
    · exact does_addRoom origin room
    · exact does_delRoom origin room

end

theorem does_requestShutdown : Does Minding requestShutdown :=
  .bind (.note _) fun _ => .change .shutdownAsked (fun _ => rfl) fun _ => trivial

end RoomModeration
