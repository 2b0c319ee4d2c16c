import RoomModeration.Proofs.Abiding

/-!
# Tracked rooms are monitored or stranded

The bot begins the record of a room when it enters the room, and ends it when it leaves; which rooms
it enters and leaves is a matter of its configuration. Still there can be a record of a room that is
not monitored, because the record and the configuration change in separate steps: a monitored alias
leads to a room of another name, and a command that takes a room in or gives one up can fail half
way. Nothing else leads there, and whoever finds such a record finds in the history by what it was
stranded.

All of it is said of one room at a time. Whatever neither begins the record of this room nor gives
the room up preserves it, so that only the steps that do have to be looked at.

In a run each happening is done to its end before the next. So nothing is said of a command that
gives a room up while a job waits for the homeserver between its joining the room and its beginning
the record.

## Main definitions

* `Strands`, `Stranded` : what strands a room, and that something has.
* `World.Accounts` : a room that is tracked is monitored or stranded.
* `Sparing` : the permission to do anything but begin the record of a room and give this room up.

## Main results

* `lasts_accounts` : that a world accounts for a room lasts.
* `monitored_or_stranded` : in every run a tracked room is monitored or stranded.
* `tracked_unmonitored` : each of the ways in which a room is stranded occurs.
-/

namespace RoomModeration

open BotM RoomModeration.Bot

/-! ### Stranded rooms -/

/-- Something by which a room comes to have a record without being monitored. -/
inductive Strands (room : RoomId) : Occurrence → Prop
  /-- A monitored room is entered, and the homeserver says that it is this one. -/
  | otherName (before : Bot) (activities : List Activity) (asked : RoomId) (via : List String)
      (monitored : before.config.isMonitored asked = true) (ne : asked ≠ room) :
      Strands room (.called before activities (.join asked via) (.ok room))
  /-- A command takes the room in, and the configuration cannot be changed accordingly. -/
  | unwritten (before : Bot) (activities : List Activity) (asked : RoomId) (via : List String)
      (sender : MemberId) (origin : RoomId) (e : ConfigError)
      (command : .command "room" sender origin ∈ activities)
      (fails : (before.store.update (Config.addRoom room)).1 = .error e) :
      Strands room (.called before activities (.join asked via) (.ok room))
  /-- A command has given the room up, and the homeserver refuses to let the bot leave. -/
  | refused (before : Bot) (activities : List Activity) (sender : MemberId) (origin : RoomId)
      (e : ActionError) (command : .command "room" sender origin ∈ activities)
      (givenUp : before.config.isMonitored room = false) :
      Strands room (.called before activities (.leave room) (.error e))
  /-- A command has given the room up, and this cannot be confirmed. -/
  | unconfirmed (before : Bot) (activities : List Activity) (sender : MemberId) (origin : RoomId)
      (e : ActionError) (command : .command "room" sender origin ∈ activities)
      (givenUp : before.config.isMonitored room = false) :
      Strands room (.called before activities
        (.send origin (.plain s!"Stopped monitoring {room.text}")) (.error e))

/-- An occurrence is no call that the bot has made while it monitored a room. -/
def Occurrence.NotMonitoring (room : RoomId) : Occurrence → Prop
  | called before _ _ _ => before.config.isMonitored room = false
  | polled .. | answered _ | applied _ => True

/-- A room is stranded: something has stranded it, and in all calls since then it was not
monitored. -/
def Stranded (room : RoomId) (history : List Occurrence) : Prop :=
  ∃ newer o older, history = newer ++ o :: older ∧ Strands room o ∧
    ∀ o ∈ newer, o.NotMonitoring room

section

variable {room : RoomId} {o : Occurrence} {history : List Occurrence}

theorem Strands.stranded (h : Strands room o) (older : List Occurrence) :
    Stranded room (o :: older) :=
  ⟨[], o, older, rfl, h, fun _ hmem => absurd hmem List.not_mem_nil⟩

theorem Stranded.cons (h : Stranded room history) (ho : o.NotMonitoring room) :
    Stranded room (o :: history) := by
  obtain ⟨newer, p, older, rfl, hp, hnewer⟩ := h
  exact ⟨o :: newer, p, older, rfl, hp, List.forall_mem_cons.2 ⟨ho, hnewer⟩⟩

theorem Occurrence.notMonitoring_of_call?_eq_none (h : o.call? = none) : o.NotMonitoring room := by
  cases o with
  | called => cases h
  | polled | answered | applied => trivial

end

/-! ### Changes -/

section

variable [Surroundings] {w w' : World} {room asked : RoomId}
  {result : Except ActionError RoomId} {l : List (Sanction × Bool)}

/-- A world accounts for a room: if the room is tracked, it is monitored or stranded. -/
def World.Accounts (w : World) (room : RoomId) : Prop :=
  w.bot.rooms.isTracked room = true →
    w.bot.config.isMonitored room = true ∨ Stranded room w.history

/-- The permission to do anything but begin the record of a room and give this room up. -/
def Sparing (room : RoomId) : Permission where
  Allows w
    | .change (.seeded other ..) => other ≠ room
    | .change (.stored store) =>
      w.bot.config.isMonitored room = true → store.config.isMonitored room = true
    | .aside | .report | .call _ | .change _ => True
  aside _ := trivial

/-- Tending spares every room. -/
instance : Tending.Within (Sparing room) where
  allows {_ d} h := by
    cases d with
    | aside | report | call => trivial
    | change c =>
      cases c with
      | seeded => exact h.elim
      | stored store => exact h room
      | _ => trivial

/-- The calls by which a room is entered spare every room. -/
instance : Entering.Within (Sparing room) where
  allows {_ d} h := by
    cases d with
    | aside | report | call => trivial
    | change => exact h.elim

theorem Trace.sparing {K : Permission} [K.Within Tending] (h : Trace K w w') :
    Trace (Sparing room) w w' :=
  (h.within : Trace Tending w w').within

/-- A permitted change does not track the room anew. -/
theorem isTracked_of_sparing {c : Change} {b : Bot} (hallows : (Sparing room).Allows w (.change c))
    (h : (c.apply b).rooms.isTracked room = true) : b.rooms.isTracked room = true := by
  refine Change.isTracked_of_isTracked_apply ?_ h
  rintro members banned config rfl
  exact hallows rfl

/-- A permitted change does not give the room up. -/
theorem isMonitored_of_sparing {c : Change} (hallows : (Sparing room).Allows w (.change c))
    (h : w.bot.config.isMonitored room = true) :
    (c.apply w.bot).config.isMonitored room = true := by
  cases c with
  | stored store => exact hallows h
  | unregistered other =>
    change (w.bot.unregister other).2.config.isMonitored room = true
    unfold Bot.unregister
    split
    · exact h
    · exact h
  | _ => exact h

/-- What spares a room preserves that it is accounted for. -/
theorem preserves_accounts (room : RoomId) : (Sparing room).Preserves (·.Accounts room) := by
  intro w w' d hallows hleads hw htracked
  cases hleads with
  | aside bot history =>
    rw [bot] at htracked
    rw [bot, history]
    exact hw htracked
  | report o noCall bot history =>
    rw [bot] at htracked
    rw [bot, history]
    exact (hw htracked).imp_right (·.cons (Occurrence.notMonitoring_of_call?_eq_none noCall))
  | call c result bot history =>
    rw [bot] at htracked
    rw [bot, history]
    cases hmonitored : w.bot.config.isMonitored room with
    | true => exact .inl rfl
    | false =>
      have hstranded : Stranded room w.history :=
        (hw htracked).resolve_left (by rw [hmonitored]; exact Bool.false_ne_true)
      exact .inr (hstranded.cons hmonitored)
  | change c bot history =>
    rw [bot] at htracked
    rw [bot, history]
    exact (hw (isTracked_of_sparing hallows htracked)).imp_left (isMonitored_of_sparing hallows)

/-- Tending accounts for every room. -/
theorem Trace.accounts {K : Permission} [K.Within Tending] (h : Trace K w w')
    (hw : w.Accounts room) : w'.Accounts room :=
  (preserves_accounts room).trace h.sparing hw

/-- Sanctions account for every room. -/
theorem Series.accounts (h : Series w l w') (hw : w.Accounts room) : w'.Accounts room := by
  refine (preserves_accounts room).trace (h.trace (fun _ _ => trivial) fun v a => ?_) hw
  obtain ⟨other, member, reason?⟩ := a
  cases reason? with
  | some reason => trivial
  | none => trivial

/-! ### Entering rooms -/

/-- Entering a room leaves the configuration as it is. -/
theorem Joined.store_eq (h : Joined asked w w' result) : w'.bot.store = w.bot.store := by
  cases h with
  | failed e entering => rw [entering.bot_eq_of_entering]
  | entered joined members banned bot => rw [bot]; rfl

theorem Joined.config_eq (h : Joined asked w w' result) : w'.bot.config = w.bot.config :=
  congrArg ConfigStore.config h.store_eq

/-- Entering another room spares this one. -/
theorem Joined.trace_of_ne (h : Joined asked w w' result) (hne : result ≠ .ok room) :
    Trace (Sparing room) w w' := by
  cases h with
  | failed e entering => exact entering.within
  | entered joined members banned bot history =>
    have hother : joined ≠ room := fun h => hne (congrArg Except.ok h)
    have hcalls : ∀ (c : Call) (r : Except ActionError c.Reply) (older : List Occurrence),
        Trace (Sparing room) { w with activities := w.entering asked, history := older }
          { w with activities := w.entering asked
                   history := .called w.bot (w.entering asked) c r :: older } :=
      fun c r _ => .single (d := .call c) trivial (.call c r rfl rfl)
    have henter : Trace (Sparing room) w { w with activities := w.entering asked } :=
      .aside rfl rfl
    have hasked := ((henter.trans (hcalls (.join asked asked.server?.toList) (.ok joined) _)).trans
      (hcalls (.listMembers joined) (.ok members) _)).trans
      (hcalls (.bannedMembers joined) (.ok banned) _)
    exact hasked.trans (.single (d := .change (.seeded joined members.keys banned _)) hother
      (.change _ bot history))

/-- A room that is entered and not monitored is stranded, if entering it strands it. -/
theorem Joined.stranded (h : Joined asked w w' (.ok room))
    (hmonitored : w.bot.config.isMonitored room = false)
    (hstrands : Strands room (.called w.bot (w.entering asked)
      (.join asked asked.server?.toList) (.ok room))) : Stranded room w'.history := by
  cases h with
  | entered _ members banned bot history =>
    rw [history]
    have hlist : Stranded room
        (.called w.bot (w.entering asked) (.listMembers room) (.ok members) ::
        .called w.bot (w.entering asked) (.join asked asked.server?.toList) (.ok room) ::
        w.history) :=
      (hstrands.stranded w.history).cons hmonitored
    exact hlist.cons hmonitored

/-- Entering a monitored room accounts for every room. -/
theorem Joined.accounts (h : Joined asked w w' result)
    (hasked : w.bot.config.isMonitored asked = true) (hw : w.Accounts room) :
    w'.Accounts room := by
  by_cases hresult : result = .ok room
  · subst hresult
    intro _
    rw [h.config_eq]
    cases hmonitored : w.bot.config.isMonitored room with
    | true => exact .inl rfl
    | false =>
      have hne : asked ≠ room := by
        rintro rfl
        rw [hasked] at hmonitored
        cases hmonitored
      exact .inr (h.stranded hmonitored (.otherName _ _ _ _ hasked hne))
  · exact (preserves_accounts room).trace (h.trace_of_ne hresult) hw

theorem keeps_joinMonitored (room : RoomId) :
    Keeps (·.Accounts room) (getConfig >>= fun config => joinEach config.monitoredRooms) := by
  intro w hw
  rw [run_bind, run_getConfig]
  dsimp only
  -- Entering rooms leaves the configuration as it is, so that the rest is monitored all along.
  have hspeaking : Speaking.Preserves
      fun v => v.Accounts room ∧ v.bot.config = w.bot.config := by
    intro v v' d hd hleads hv
    have htrace : Trace Speaking v v' := .single hd hleads
    exact ⟨htrace.accounts hv.1, by rw [htrace.bot_eq, hv.2]⟩
  refine (keeps_joinEach hspeaking.undisturbed (fun asked hasked v hv => ?_) w ⟨hw, rfl⟩).1
  have hjoined := joined_joinRoom asked v
  have hmonitored : v.bot.config.isMonitored asked = true := by
    rw [hv.2]
    rwa [Config.monitoredRooms, Std.ExtTreeMap.mem_keys, ← Std.ExtTreeMap.contains_iff_mem]
      at hasked
  exact ⟨hjoined.accounts hmonitored hv.1, hjoined.config_eq.trans hv.2⟩

/-! ### Commands -/

/-- A change of the configuration that does not give the room up accounts for it. -/
theorem Edited.accounts {α : Type} {edit : Config.Edit α} {written : Except HandlerError PUnit}
    (h : Edited edit w w' written) (hkeeps : ∀ a c, edit w.bot.config = .ok (a, c) →
      w.bot.config.isMonitored room = true → c.isMonitored room = true)
    (hw : w.Accounts room) : w'.Accounts room := by
  cases h with
  | failed e fails bot config history =>
    exact (Edited.failed e fails bot config history).minding.accounts hw
  | made a edits bot history =>
    intro htracked
    rw [bot] at htracked
    rw [history]
    exact (hw htracked).imp_left (hkeeps a _ edits)

/-- A room that a command has entered and then writes into the configuration is monitored, or it is
stranded. -/
theorem Joined.accounts_of_edited {v : World} {joined : RoomId} {origin : CommandOrigin}
    {written : Except HandlerError PUnit} (h : Joined asked w v (.ok joined))
    (hcommand : origin.aboutRooms ∈ w.activities)
    (hedited : Edited (Config.addRoom joined) v w' written) (hw : w.Accounts room) :
    w'.Accounts room := by
  by_cases hroom : joined = room
  · subst hroom
    intro _
    cases hedited with
    | made a edits => exact .inl (Config.isMonitored_addRoom edits)
    | failed e fails bot config history =>
      rw [config, h.config_eq, history]
      rw [h.store_eq] at fails
      cases hmonitored : w.bot.config.isMonitored joined with
      | true => exact .inl rfl
      | false =>
        have hstrands := Strands.unwritten w.bot (w.entering asked) asked asked.server?.toList
          origin.sender origin.room e (List.mem_append_left _ hcommand) fails
        exact .inr (h.stranded hmonitored hstrands)
  · have hv : v.Accounts room :=
      (preserves_accounts room).trace (h.trace_of_ne fun h => hroom (Except.ok.inj h)) hw
    refine hedited.accounts (fun a c hedit => ?_) hv
    exact Config.keepsRooms_addRoom joined _ a c hedit room

/-- Setting the modes of a room accounts for every room. -/
theorem ModesSet.accounts {set : RoomId} (h : ModesSet set w w') (hw : w.Accounts room) :
    w'.Accounts room := by
  cases h with
  | failed minding => exact minding.accounts hw
  | made store monitored others v bot history minding =>
    have hstill : w.bot.config.isMonitored room = true → store.config.isMonitored room = true := by
      intro hroom
      by_cases hset : room = set
      · rwa [hset]
      · rwa [Config.isMonitored_congr (others room hset)]
    have hstored : Trace (Sparing room) w { w with bot := { w.bot with store := store } } :=
      .single (d := .change (.stored store)) hstill (.change _ rfl rfl)
    have hrefreshed : Trace (Sparing room) { w with bot := { w.bot with store := store } } v :=
      .single (d := .change (.refreshed set)) trivial (.change _ bot history)
    exact minding.accounts ((preserves_accounts room).trace (hstored.trans hrefreshed) hw)

/-- Taking a room in accounts for every room. -/
theorem TakenIn.accounts {origin : CommandOrigin} (h : TakenIn asked w w')
    (hcommand : origin.aboutRooms ∈ w.activities) (hw : w.Accounts room) : w'.Accounts room := by
  cases h with
  | known minding => exact minding.accounts hw
  | refused e joined => exact (preserves_accounts room).trace (joined.trace_of_ne nofun) hw
  | unwritten joined v entered e edited => exact entered.accounts_of_edited hcommand edited hw
  | written joined v₁ v₂ v₃ entered edited bot history minding =>
    have hv₂ : v₂.Accounts room := entered.accounts_of_edited hcommand edited hw
    have hrefreshed : Trace Minding v₂ v₃ :=
      .single (d := .change (.refreshed joined)) trivial (.change _ bot history)
    exact minding.accounts (hrefreshed.accounts hv₂)

/-- Where the homeserver refuses to let the bot leave, the room is accounted for if this strands
it. -/
theorem Left.accounts {left : Except ActionError Unit} (h : Left room w w' left)
    (hstrands : ∀ e, Strands room (.called w.bot w.activities (.leave room) (.error e))) :
    w'.Accounts room := by
  intro htracked
  cases h with
  | refused e called =>
    rw [called.history]
    exact .inr ((hstrands e).stranded _)
  | left bot =>
    rw [bot, RoomStore.isTracked_eq_isSome] at htracked
    change ((w.bot.rooms.drop room).find? room).isSome = true at htracked
    rw [RoomStore.find?_drop, if_pos rfl] at htracked
    cases htracked

/-- A room that is given up is not monitored afterwards. -/
theorem Edited.isMonitored_eq_false (h : Edited (Config.removeRoom room) w w' (.ok ⟨⟩)) :
    w'.bot.config.isMonitored room = false := by
  cases h with
  | made removed edits =>
    have hgivenUp := Config.isMonitored_removeRoom edits room
    rwa [bne_self_eq_false, Bool.and_false] at hgivenUp

/-- Giving a room up accounts for every room: the room itself is left, or this fails and strands
it. -/
theorem GivenUp.accounts {origin : CommandOrigin} {given : RoomId} (h : GivenUp origin given w w')
    (hcommand : origin.aboutRooms ∈ w.activities) (hw : w.Accounts room) : w'.Accounts room := by
  by_cases hroom : room ≠ given
  · obtain hroaming | ⟨v, hedited, hroaming⟩ := h.roaming
    · exact hroaming.accounts hw
    · refine hroaming.accounts (hedited.accounts (fun removed c hedit hmonitored => ?_) hw)
      rw [Config.isMonitored_removeRoom hedit, hmonitored, bne_iff_ne.2 hroom, Bool.and_true]
  · obtain rfl := Decidable.not_not.1 hroom
    cases h with
    | unknown minding => exact minding.accounts hw
    | unwritten e edited => exact edited.minding.accounts hw
    | unconfirmed v edited e called =>
      intro _
      rw [called.history]
      have hstrands := Strands.unconfirmed v.bot v.activities origin.sender origin.room e
        (edited.activities_eq ▸ hcommand) edited.isMonitored_eq_false
      exact .inr (hstrands.stranded _)
    | parted v₁ v₂ v₃ edited called result left spoken =>
      refine spoken.accounts (left.accounts fun e => ?_)
      rw [called.activities, edited.activities_eq, called.bot]
      exact .refused _ _ origin.sender origin.room e hcommand edited.isMonitored_eq_false

/-! ### Runs -/

/-- That a world accounts for a room abides. -/
theorem abides_accounts (room : RoomId) : Abides (·.Accounts room) where
  minding _ _ _ hd hleads := (Trace.single hd hleads).accounts
  series h := h.accounts
  modesSet h := h.accounts
  takenIn _ hcommand h := h.accounts hcommand
  givenUp _ hcommand h := h.accounts hcommand

/-- That a world accounts for a room lasts. -/
theorem lasts_accounts (room : RoomId) : Lasts (·.Accounts room) :=
  have h : Abides (·.Accounts room) := abides_accounts room
  .of_roaming (fun _ _ _ hd hleads => (Trace.single hd hleads).accounts) h.chat h.event h.reconcile
    (keeps_joinMonitored room) fun asked => keeps_rejoin h.minding.undisturbed asked
      fun w hasked => (joined_joinRoom asked w).accounts hasked

/-- In every run, each of its happenings done to its end before the next, and whatever fails, each
room that has a record is monitored, or it is stranded: the homeserver gave it as the name of
another room that is monitored, or a command to take the room in or to give it up has failed half
way; and since then the bot has not monitored it in any call. -/
theorem monitored_or_stranded (h : Reachable w) (htracked : w.bot.rooms.isTracked room = true) :
    w.bot.config.isMonitored room = true ∨ Stranded room w.history :=
  h.invariant (I := (·.Accounts room)) (fun _ _ _ htracked => by cases htracked)
    (lasts_accounts room).happening htracked

end

/-! ### Each of these ways occurs -/

namespace Sample

/-- A room. -/
def cellar : RoomId := ⟨"!cellar:x"⟩

/-- Another name of this room. -/
def cellarAlias : RoomId := ⟨"#cellar:x"⟩

/-- A room that is not monitored. -/
def garret : RoomId := ⟨"!garret:x"⟩

/-- What a homeserver answers that knows of the other name, keeps the bot in every room and loses
one message. -/
def mishap : (c : Call) → Except ActionError c.Reply
  | .join room _ => .ok (if room = cellarAlias then cellar else room)
  | .leave _ => .error (.decode "")
  | .send _ (.plain "Stopped monitoring !lobby:x") => .error (.decode "")
  | c => .ok (reply c)

/-- Surroundings with such a homeserver. -/
@[reducible] def mishaps : Surroundings where
  Server := Unit
  homeserver :=
    { answer := fun c s => (⟨mishap c, []⟩, s)
      poll := fun _ s => (⟨⟨.error (.decode ""), []⟩, 0⟩, s) }
  render := id
  fileText := fun _ => .error ""
  jitterMs := 0

/-- A configuration that monitors the lobby, in which the moderator gives commands, the attic, and
the cellar under its other name. The second attempt to write it to its file fails. -/
def mishapStore : ConfigStore where
  config :=
    { Config.ofHomeserver ⟨"", "", "", none, none, none⟩ with
      admins := .ofList [alice]
      rooms := .ofList [(lobby, RoomConfig.mk (.ofList [RoomMode.administration]) ∅),
        (attic, RoomConfig.mk modes ∅), (cellarAlias, RoomConfig.mk modes ∅)] }
  file := some ⟨"", "", 0, fun attempt => if attempt = 1 then some "" else none⟩

end Sample

section

attribute [local instance] Sample.mishaps

namespace Sample

/-- The bot starts, and then a command gives the attic up, another one takes the garret in, and a
third one gives the lobby up. -/
def mishapRun : List Happening :=
  [.start 0, .chat lobby alice "!room del !attic:x", .chat lobby alice "!room add !garret:x",
    .chat lobby alice "!room del !lobby:x"]

/-- The rooms that are stranded then: one was entered under another name, one could not be left, one
could not be written into the configuration, and of the last one it could not be confirmed that it
was given up. -/
def strandedRooms : List RoomId :=
  [cellar, attic, garret, lobby]

/-- The world before this. -/
def mishapWorld : World :=
  .initial (Bot.initial ⟨"@warden:x"⟩ mishapStore) ()

end Sample

/-- After this run all these rooms are stranded. -/
theorem stranded_after_mishaps : Reachable (Sample.mishapWorld.after Sample.mishapRun) ∧
    ∀ room ∈ Sample.strandedRooms,
      Stranded room (Sample.mishapWorld.after Sample.mishapRun).history := by
  have hreachable : Reachable (Sample.mishapWorld.after Sample.mishapRun) :=
    (Reachable.initial _ _ _).after _
  have htracked : ∀ room ∈ Sample.strandedRooms,
      (Sample.mishapWorld.after Sample.mishapRun).bot.rooms.isTracked room = true ∧
        (Sample.mishapWorld.after Sample.mishapRun).bot.config.isMonitored room ≠ true := by
    decide +kernel
  refine ⟨hreachable, fun room hroom => ?_⟩
  exact (monitored_or_stranded hreachable (htracked room hroom).1).resolve_left
    (htracked room hroom).2

/-- They have records, and none of them is monitored. -/
theorem tracked_unmonitored : Reachable (Sample.mishapWorld.after Sample.mishapRun) ∧
    ∀ room ∈ Sample.strandedRooms,
      (Sample.mishapWorld.after Sample.mishapRun).bot.rooms.isTracked room = true ∧
        (Sample.mishapWorld.after Sample.mishapRun).bot.config.isMonitored room = false :=
  ⟨(Reachable.initial _ _ _).after _, by decide +kernel⟩

end

end RoomModeration
