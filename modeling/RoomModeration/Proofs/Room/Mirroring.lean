import RoomModeration.Proofs.Abiding

/-!
# Records mirror the configuration

What is configured for a room is kept twice. The configuration has it, and by it the bot decides who
may give commands; and the record of the room has a copy of it, by which bans are carried over and
newcomers are welcomed. The copy is made when the room is entered and made anew when a command has
changed the configuration, and each of these can fail in between.

Still the copy is never out of date where it counts: a record of a monitored room shows what is
configured for this room. The homeserver must not let the bot into another room than the one it was
asked for, since the copy is made for the room that was asked for. This is said of the worlds
between the happenings of a run, each of which is done to its end before the next.

## Main definitions

* `JoinsAsAsked` : the homeserver lets the bot into the rooms it was asked for.
* `Bot.Mirrors` : the record of a room shows what is configured for the room.
* `Change.Reflects` : a change of the bot keeps them together.

## Main results

* `Change.Reflects.mirrors`, `Bot.mirrors_refreshModes` : what such changes do, and what reading the
  modes anew does.
* `record_mirrors_config` : in every run the records of monitored rooms show what is configured.
-/

namespace RoomModeration

open BotM RoomModeration.Bot

/-- A record shows the modes and the parameters that are configured. -/
structure RoomRecord.Mirrors (record : RoomRecord) (config : RoomConfig) : Prop where
  modes : record.modes = config.modes
  params : record.params = config.typedParams

/-- If a room is monitored and has a record, the record shows what is configured for the room. -/
def Bot.Mirrors (b : Bot) (room : RoomId) : Prop :=
  ∀ record, b.rooms.find? room = some record → b.config.isMonitored room = true →
    record.Mirrors (b.config.roomConfig room)

/-! ### Changes -/

/-- A change keeps the record of a room and what is configured for it together: it begins the record
with what is configured, and it changes nothing of what is configured unless it gives the room
up. -/
def Change.Reflects (room : RoomId) (b : Bot) : Change → Prop
  | seeded other _ _ config => other = room → config = b.config.roomConfig room
  | stored store =>
    store.config.isMonitored room = true → store.config.rooms[room]? = b.config.rooms[room]?
  | _ => True

namespace Bot

variable {b b' : Bot} {room : RoomId}

/-- Whether a room is mirrored can be seen from its record and what is configured for it. -/
theorem Mirrors.congr (h : b.Mirrors room) (hfind : b'.rooms.find? room = b.rooms.find? room)
    (hconfig : b'.config.isMonitored room = true →
      b'.config.rooms[room]? = b.config.rooms[room]?) : b'.Mirrors room := by
  intro record hrecord hmonitored
  have hsame := hconfig hmonitored
  rw [Config.roomConfig_congr hsame]
  refine h record (hfind ▸ hrecord) ?_
  rwa [← Config.isMonitored_congr hsame]

/-- A change of a record that leaves the modes and parameters alone. -/
theorem Mirrors.modify (h : b.Mirrors room) (other : RoomId) {f : RoomRecord → RoomRecord}
    (hf : ∀ r, (f r).id = r.id) (hmodes : ∀ r, (f r).modes = r.modes)
    (hparams : ∀ r, (f r).params = r.params) :
    ({ b with rooms := b.rooms.modify other f hf } : Bot).Mirrors room := by
  intro record hrecord hmonitored
  change (b.rooms.modify other f hf).find? room = some record at hrecord
  rw [RoomStore.find?_modify] at hrecord
  split at hrecord
  · next hroom =>
    subst hroom
    obtain ⟨before, hbefore, rfl⟩ := Option.map_eq_some_iff.1 hrecord
    obtain ⟨hm, hp⟩ := h before hbefore hmonitored
    exact ⟨(hmodes before).trans hm, (hparams before).trans hp⟩
  · exact h record hrecord hmonitored

theorem find?_refreshModes (b : Bot) (room other : RoomId) :
    (b.refreshModes room).rooms.find? other =
      if other = room then
        (b.rooms.find? room).map
          (·.withModes (b.config.roomConfig room).modes (b.config.roomConfig room).typedParams)
      else b.rooms.find? other :=
  b.rooms.find?_modify room other
    (·.withModes (b.config.roomConfig room).modes (b.config.roomConfig room).typedParams)
    fun _ => rfl

/-- A record whose modes are read anew shows what is configured. -/
theorem mirrors_refreshModes (b : Bot) (room : RoomId) : (b.refreshModes room).Mirrors room := by
  intro record hrecord _
  rw [find?_refreshModes, if_pos rfl] at hrecord
  obtain ⟨before, -, rfl⟩ := Option.map_eq_some_iff.1 hrecord
  exact ⟨rfl, rfl⟩

/-- Reading the modes of a record anew shows in this record only. -/
theorem Mirrors.refreshModes (h : b.Mirrors room) (other : RoomId) :
    (b.refreshModes other).Mirrors room := by
  by_cases hother : other = room
  · subst hother
    exact mirrors_refreshModes b other
  · refine h.congr ?_ fun _ => rfl
    rw [find?_refreshModes, if_neg (Ne.symm hother)]

/-- Where only one room is configured anew and its record is read anew then, all rooms stay
mirrored. -/
theorem Mirrors.reconfigured (h : b.Mirrors room) {changed : RoomId} {store : ConfigStore}
    (hothers : ∀ other, other ≠ changed → store.config.rooms[other]? = b.config.rooms[other]?) :
    (({ b with store := store } : Bot).refreshModes changed).Mirrors room := by
  by_cases hroom : room = changed
  · subst hroom
    exact mirrors_refreshModes _ room
  · have hstored : ({ b with store := store } : Bot).Mirrors room :=
      h.congr rfl fun _ => hothers room hroom
    exact hstored.refreshModes changed

end Bot

/-- A change that keeps the record of a room and what is configured for it together preserves that
the room is mirrored. -/
theorem Change.Reflects.mirrors {c : Change} {b : Bot} {room : RoomId} (hc : c.Reflects room b)
    (h : b.Mirrors room) : (c.apply b).Mirrors room := by
  cases c with
  | stored store => exact h.congr rfl hc
  | seeded other members banned config =>
    intro record hrecord hmonitored
    change (b.rooms.put (.seeded other members banned config.modes config.typedParams)).find? room =
      some record at hrecord
    rw [RoomStore.find?_put] at hrecord
    split at hrecord
    · next hroom =>
      obtain rfl := Option.some.inj hrecord
      rw [hc hroom.symm]
      exact ⟨rfl, rfl⟩
    · exact h record hrecord hmonitored
  | dropped other =>
    intro record hrecord hmonitored
    change (b.rooms.drop other).find? room = some record at hrecord
    rw [RoomStore.find?_drop] at hrecord
    split at hrecord
    · cases hrecord
    · exact h record hrecord hmonitored
  | joined other member =>
    exact h.modify other (f := (·.join member)) (fun _ => rfl) (fun _ => rfl) fun _ => rfl
  | left other member =>
    exact h.modify other (f := (·.leave member)) (fun _ => rfl) (fun _ => rfl) fun _ => rfl
  | banned other member reason =>
    exact h.modify other (f := (·.ban member reason)) (fun _ => rfl) (fun _ => rfl) fun _ => rfl
  | unbanned other member =>
    exact h.modify other (f := (·.unban member)) (fun _ => rfl) (fun _ => rfl) fun _ => rfl
  | refreshed other => exact h.refreshModes other
  | unregistered other =>
    change (b.unregister other).2.Mirrors room
    unfold Bot.unregister
    split
    · exact h
    · exact h
  | registered | cursorMoved | readied | shutdownAsked | measured => exact h

/-! ### Steps -/

section

variable [Surroundings] {w w' : World} {room : RoomId}

/-- The homeserver lets the bot into the rooms it is asked for, and into no others. -/
def JoinsAsAsked : Prop :=
  ∀ room via joined, (Call.join room via).MayGive (.ok joined) → joined = room

/-- The permission to do what keeps the record of a room and what is configured for it together. -/
def Reflecting (room : RoomId) : Permission where
  Allows w
    | .change c => c.Reflects room w.bot
    | .aside | .report | .call _ => True
  aside _ := trivial

instance : Roaming.Within (Reflecting room) where
  allows {w d} h := by
    cases d with
    | aside | report | call => trivial
    | change c =>
      cases c with
      | seeded => exact h.elim
      | stored store =>
        intro _
        rw [show store.config.rooms = w.bot.config.rooms from h]
      | _ => trivial

theorem preserves_mirrors (room : RoomId) : (Reflecting room).Preserves (·.bot.Mirrors room) := by
  intro w w' d hallows hleads hw
  cases hleads with
  | aside bot | report _ _ bot | call _ _ bot => exact bot ▸ hw
  | change c bot =>
    rw [bot]
    exact Change.Reflects.mirrors hallows hw

theorem Trace.mirrors {K : Permission} [K.Within Roaming] (h : Trace K w w')
    (hw : w.bot.Mirrors room) : w'.bot.Mirrors room :=
  (preserves_mirrors room).trace (h.within : Trace Roaming w w').within hw

/-- Sanctions leave modes and parameters alone. -/
theorem Series.mirrors {l : List (Sanction × Bool)} (h : Series w l w')
    (hw : w.bot.Mirrors room) : w'.bot.Mirrors room := by
  refine (preserves_mirrors room).trace (h.trace (fun _ _ => trivial) fun v a => ?_) hw
  obtain ⟨other, member, reason?⟩ := a
  cases reason? with
  | some reason => trivial
  | none => trivial

/-- The record of a room is begun with what is configured for the room that was asked for. -/
theorem Joined.mirrors {asked : RoomId} {result : Except ActionError RoomId}
    (h : Joined asked w w' result) (hjoins : JoinsAsAsked) (hw : w.bot.Mirrors room) :
    w'.bot.Mirrors room := by
  cases h with
  | failed e entering => rwa [entering.bot_eq_of_entering]
  | entered joined members banned bot history activities mayGive =>
    obtain rfl : joined = asked := hjoins _ _ _ mayGive
    rw [bot]
    have hseeded : (Change.seeded joined members.keys banned
        (w.bot.config.roomConfig joined)).Reflects room w.bot :=
      fun hroom => congrArg w.bot.config.roomConfig hroom
    exact hseeded.mirrors hw

theorem ModesSet.mirrors {set : RoomId} (h : ModesSet set w w') (hw : w.bot.Mirrors room) :
    w'.bot.Mirrors room := by
  cases h with
  | failed minding => exact minding.mirrors hw
  | made store monitored others v bot history minding =>
    refine minding.mirrors ?_
    rw [bot]
    exact hw.reconfigured others

/-- Between entering a room and reading its record anew the room can be configured and its record
not show it; but this is never the end. -/
theorem TakenIn.mirrors {asked : RoomId} (h : TakenIn asked w w') (hjoins : JoinsAsAsked)
    (hw : w.bot.Mirrors room) : w'.bot.Mirrors room := by
  cases h with
  | known minding => exact minding.mirrors hw
  | refused e joined => exact joined.mirrors hjoins hw
  | unwritten joined v entered e edited =>
    exact edited.minding.mirrors (entered.mirrors hjoins hw)
  | written joined v₁ v₂ v₃ entered edited bot history minding =>
    refine minding.mirrors ?_
    cases edited with
    | made taken edits bot₂ =>
      rw [bot, bot₂]
      refine (entered.mirrors hjoins hw).reconfigured ?_
      exact Config.changesOnly_addRoom joined _ taken _ edits

theorem GivenUp.mirrors {origin : CommandOrigin} {given : RoomId} (h : GivenUp origin given w w')
    (hw : w.bot.Mirrors room) : w'.bot.Mirrors room := by
  obtain hroaming | ⟨v, hedited, hroaming⟩ := h.roaming
  · exact hroaming.mirrors hw
  · refine hroaming.mirrors ?_
    cases hedited with
    | made removed edits bot history =>
      have hreflects : (Change.stored v.bot.store).Reflects room w.bot := by
        intro hmonitored
        refine Config.changesOnly_removeRoom given _ removed _ edits room ?_
        rintro rfl
        have hgivenUp := Config.isMonitored_removeRoom edits room
        rw [bne_self_eq_false, Bool.and_false] at hgivenUp
        exact Bool.false_ne_true (hgivenUp.symm.trans hmonitored)
      rw [bot]
      exact hreflects.mirrors hw

/-! ### Runs -/

theorem abides_mirrors (hjoins : JoinsAsAsked) (room : RoomId) : Abides (·.bot.Mirrors room) where
  minding _ _ _ hd hleads := (Trace.single hd hleads).mirrors
  series h := h.mirrors
  modesSet h := h.mirrors
  takenIn _ _ h := h.mirrors hjoins
  givenUp _ _ h := h.mirrors

/-- That a room is mirrored lasts. -/
theorem lasts_mirrors (hjoins : JoinsAsAsked) (room : RoomId) : Lasts (·.bot.Mirrors room) := by
  have h : Abides (·.bot.Mirrors room) := abides_mirrors hjoins room
  have hjoin : ∀ asked, Keeps (·.bot.Mirrors room) (joinRoom asked).run :=
    fun asked w => (joined_joinRoom asked w).mirrors hjoins
  have hspeaking : Speaking.Preserves (·.bot.Mirrors room) := h.minding.within
  refine .of_roaming (fun _ _ _ hd hleads => (Trace.single hd hleads).mirrors) h.chat h.event
    h.reconcile ?_ fun asked => keeps_rejoin hspeaking.undisturbed asked fun w _ => hjoin asked w
  exact .bind (Does.getConfig.keeps hspeaking) fun config =>
    keeps_joinEach hspeaking.undisturbed fun asked _ => hjoin asked

/-- If the homeserver lets the bot into no other rooms than it was asked for, then in every run,
each of its happenings done to its end before the next, and whatever fails, the record of each
monitored room has the modes and the parameters that are configured for the room. -/
theorem record_mirrors_config (hjoins : JoinsAsAsked) (h : Reachable w) {record : RoomRecord}
    (htracked : w.bot.rooms.find? room = some record)
    (hmonitored : w.bot.config.isMonitored room = true) :
    record.modes = (w.bot.config.roomConfig room).modes ∧
      record.params = (w.bot.config.roomConfig room).typedParams := by
  have hmirrors : w.bot.Mirrors room :=
    h.invariant (fun _ _ _ _ hrecord => by cases hrecord) (lasts_mirrors hjoins room).happening
  obtain ⟨hmodes, hparams⟩ := hmirrors record htracked hmonitored
  exact ⟨hmodes, hparams⟩

end

/-! ### A room that is taken in and configured -/

namespace Sample

/-- A configuration that monitors the lobby, in which the moderator gives commands. The fourth
attempt to write it to its file fails. -/
def scribe : ConfigStore where
  config :=
    { Config.ofHomeserver ⟨"", "", "", none, none, none⟩ with
      admins := .ofList [alice]
      rooms := .ofList [(lobby, RoomConfig.mk (.ofList [RoomMode.administration]) ∅)] }
  file := some ⟨"", "", 0, fun attempt => if attempt = 3 then some "" else none⟩

/-- The bot starts. Then the attic is taken in, it gets a mode and a parameter, and a second mode
cannot be written down. -/
def furnishing : List Happening :=
  [.start 0, .chat lobby alice "!room add !attic:x",
    .chat lobby alice "!room !attic:x mode add WELCOME",
    .chat lobby alice "!room !attic:x params WELCOME set hello",
    .chat lobby alice "!room !attic:x mode add TEST"]

end Sample

section

attribute [local instance] Sample.surroundings

/-- The world after this. -/
def Sample.furnished : World :=
  (World.initial (Bot.initial ⟨"@warden:x"⟩ Sample.scribe) ()).after Sample.furnishing

/-- The record of the attic shows the one mode and the parameter. -/
theorem attic_mirrors_config : JoinsAsAsked ∧ Reachable Sample.furnished ∧
    ∃ record, Sample.furnished.bot.rooms.find? Sample.attic = some record ∧
      Sample.furnished.bot.config.isMonitored Sample.attic = true ∧
      record.modes.toList = [.welcome] ∧ record.params.toList = [(.welcome, "hello")] := by
  have hjoins : JoinsAsAsked := by
    rintro room via joined ⟨server, h⟩
    exact (Except.ok.inj h).symm
  have hreachable : Reachable Sample.furnished := (Reachable.initial _ _ _).after _
  -- Everything at once, since each question runs the bot again.
  have hrun : (Sample.furnished.bot.rooms.find? Sample.attic).isSome = true ∧
      Sample.furnished.bot.config.isMonitored Sample.attic = true ∧
      (Sample.furnished.bot.config.roomConfig Sample.attic).modes.toList = [.welcome] ∧
      (Sample.furnished.bot.config.roomConfig Sample.attic).typedParams.toList =
        [(.welcome, "hello")] := by
    decide +kernel
  obtain ⟨hsome, hmonitored, hmodes, hparams⟩ := hrun
  obtain ⟨record, hrecord⟩ := Option.isSome_iff_exists.1 hsome
  have hmirrors := record_mirrors_config hjoins hreachable hrecord hmonitored
  exact ⟨hjoins, hreachable, record, hrecord, hmonitored, by rw [hmirrors.1, hmodes],
    by rw [hmirrors.2, hparams]⟩

end

end RoomModeration
