import RoomModeration.Proofs.Ordered
import RoomModeration.Proofs.Resemblance
import RoomModeration.Proofs.Room.Absence
import RoomModeration.Proofs.Room.Presence
import RoomModeration.Proofs.Staleness

/-!
# The gates before the handlers

A message passes four gates before it is read as a command: it starts with the prefix, its sender is
not the bot, the configuration gives its room the mode `ADMINISTRATION`, and its sender is an admin.
A message that is stopped at one of them leaves at most a notice behind. One that passes them all
and is no command is answered with the reason, by one call, and nothing else comes of it.

What a stopped message leaves behind makes no difference to what the bot does later. So a batch
leads to the same with the message and without it, in whatever state the earlier events of the batch
have brought the gates. Two worlds count as the same here if they are equal once the notices of
stopped messages and of the number of events in unmonitored rooms are left out, and what events the
applied batches held. A stale message does not come to the gates at all; it is counted, and that
count is left out for such a message only.

## Main definitions

* `Bot.Admits` : the four gates are open to a message.
* `Gated` : what comes of a message.
* `World.muted` : a world without what stopped messages leave behind.
* `World.turn` : the world in which the turn of an event of a batch comes.

## Main results

* `gated_receiveChat` : what comes of a message is one of five things.
* `affinity_muted` : what stopped messages leave behind makes no difference.
* `gates_without_effect` : the gates have no side effects.
-/

namespace RoomModeration

open BotM RoomModeration.Bot

/-! ### The gates -/

/-- The four gates are open to a message. -/
structure Bot.Admits (b : Bot) (room : RoomId) (sender : MemberId) (body : String) : Prop where
  /-- It starts with the prefix. -/
  addressed : (afterPrefix? b.config.bot.commandPrefix body).isSome = true
  /-- The bot has not written it itself. -/
  foreign : sender ≠ b.selfId
  /-- The configuration gives the room the mode for commands. -/
  administered : b.config.isModeEnabled room .administration = true
  /-- Its sender is an admin. -/
  admin : b.config.isAdmin sender = true

/-- A message gives a command if the gates are open to it and it can be read. -/
theorem Bot.heeds_iff {b : Bot} {room : RoomId} {sender : MemberId} {body : String}
    {command : Command} :
    b.Heeds room sender body command ↔ b.Admits room sender body ∧
      ∃ line, afterPrefix? b.config.bot.commandPrefix body = some line ∧
        Command.parse line = .ok command := by
  constructor
  · rintro ⟨hforeign, hallowed, line, hline, hparsed⟩
    obtain ⟨hmode, hadmin⟩ := Bool.and_eq_true_iff.1 hallowed
    exact ⟨⟨by rw [hline]; rfl, hforeign, hmode, hadmin⟩, line, hline, hparsed⟩
  · rintro ⟨hadmits, hparsed⟩
    exact ⟨hadmits.foreign,
      Bool.and_eq_true_iff.2 ⟨hadmits.administered, hadmits.admin⟩, hparsed⟩

section

variable [Surroundings] {w : World} {room : RoomId} {sender : MemberId} {body : String}

/-- The world after one attempt to post a text, which may have given any notices. -/
def World.posted (w : World) (room : RoomId) (text : String) (log : List LogEntry) : World :=
  let message : Call := .send room (.plain text)
  let answer := Surroundings.homeserver.answer message w.server
  { w with
    server := answer.2
    counters := match answer.1.result with
      | .ok _ => w.counters
      | .error e => w.counters.advance (.actionFailures "send" e.code) 1
    history := .called w.bot w.activities message answer.1.result :: w.history
    log := log }

/-- Posting is one call, whether it ends well or not. -/
theorem run_post (room : RoomId) (text : String) (w : World) :
    ∃ log, ((post room text).run.run w).2 = w.posted room text log := by
  unfold post send attempt World.posted
  rw [ExceptT.run_mk, run_bind, ExceptT.run_mk, run_bind, run_call]
  dsimp only
  cases (Surroundings.homeserver.answer (.send room (.plain text)) w.server).1.result with
  | ok _ => exact ⟨_, rfl⟩
  | error e => exact ⟨_, rfl⟩

/-- What comes of a message, with its outcome and the world afterwards. -/
inductive Gated (room : RoomId) (sender : MemberId) (body : String) (w : World) :
    ChatOutcome → World → Prop
  /-- It does not start with the prefix. -/
  | unaddressed (none : afterPrefix? w.bot.config.bot.commandPrefix body = none) :
      Gated room sender body w .notCommand w
  /-- The bot has written it itself. -/
  | own (self : sender = w.bot.selfId) : Gated room sender body w .fromSelf w
  /-- The room is not for commands, or its sender is no admin; this is noticed. -/
  | denied (none : w.bot.config.mayCommand room sender = false) :
      Gated room sender body w .unauthorized
        { w with log := ⟨w.activities, .unauthorizedCommand room sender⟩ :: w.log }
  /-- It passes the gates and cannot be read, and the reason is posted. -/
  | misread (admitted : w.bot.Admits room sender body) (line : String)
      (addressed : afterPrefix? w.bot.config.bot.commandPrefix body = some line)
      (e : CommandError) (parsed : Command.parse line = .error e) (log : List LogEntry) :
      Gated room sender body w .rejected (w.posted room e.message log)
  /-- It gives a command, which is obeyed. -/
  | obeyed (command : Command) (heeds : w.bot.Heeds room sender body command) :
      Gated room sender body w ((obey ⟨room, sender⟩ command).run w).1
        ((obey ⟨room, sender⟩ command).run w).2

/-- Those are all cases. -/
theorem gated_receiveChat (room : RoomId) (sender : MemberId) (body : String) (w : World) :
    Gated room sender body w ((receiveChat room sender body).run w).1
      ((receiveChat room sender body).run w).2 := by
  unfold receiveChat
  rw [run_bind, run_getBot]
  dsimp only
  cases haddressed : afterPrefix? w.bot.config.bot.commandPrefix body with
  | none => exact .unaddressed haddressed
  | some line =>
    dsimp only
    by_cases hself : sender = w.bot.selfId
    · rw [if_pos hself]
      exact .own hself
    rw [if_neg hself]
    cases hmay : w.bot.config.mayCommand room sender with
    | false => exact .denied hmay
    | true =>
      rw [Bool.not_true, if_neg Bool.false_ne_true]
      cases hparse : Command.parse line with
      | error e =>
        obtain ⟨hmode, hadmin⟩ := Bool.and_eq_true_iff.1 hmay
        obtain ⟨log, hposted⟩ :=
          run_post room e.message ((note (.commandRejected room sender e)).run w).2
        have hrun : ((do
            note (.commandRejected room sender e)
            discard (post room e.message).run
            return .rejected : BotM ChatOutcome).run w) =
              (.rejected, w.posted room e.message log) :=
          congrArg (Prod.mk ChatOutcome.rejected) hposted
        dsimp only
        rw [hrun]
        exact .misread ⟨by rw [haddressed]; rfl, hself, hmode, hadmin⟩ line haddressed e hparse log
      | ok command => exact .obeyed command ⟨hself, hmay, line, haddressed, hparse⟩

/-- Carrying out a command comes to one of two outcomes. -/
theorem outcome_obey (origin : CommandOrigin) (command : Command) (w : World) :
    ((obey origin command).run w).1 = .executed ∨ ((obey origin command).run w).1 = .failed := by
  unfold obey
  dsimp only
  rw [run_bind]
  rcases (during _ (execute origin command).run).run w with ⟨e | _, v⟩
  · right
    dsimp only
    rw [run_bind, run_bind]
    cases e.reply? with
    | some text => rfl
    | none => rfl
  · exact .inl rfl

/-- What the gates promise of a message. -/
structure Guarded (room : RoomId) (sender : MemberId) (body : String) (w : World)
    (outcome : ChatOutcome) (after : World) : Prop where
  /-- A handler has its turn if the message gives a command, and only then. -/
  handled : outcome = .executed ∨ outcome = .failed ↔
    ∃ command, w.bot.Heeds room sender body command
  /-- This command is then obeyed. -/
  obeyed : ∀ command, w.bot.Heeds room sender body command →
    after = ((obey ⟨room, sender⟩ command).run w).2
  /-- A message to which the gates are not all open leaves everything but the notices as it is. -/
  stopped : ¬ w.bot.Admits room sender body → ∃ log, after = { w with log := log }
  /-- If it passes them and cannot be read, the one effect is an attempt to post the reason. -/
  answered : ∀ line e, w.bot.Admits room sender body →
    afterPrefix? w.bot.config.bot.commandPrefix body = some line →
    Command.parse line = .error e → ∃ log, after = w.posted room e.message log

/-- What is said of a stopped message. -/
theorem Guarded.of_stopped {outcome : ChatOutcome} {after : World}
    (hshut : ¬ w.bot.Admits room sender body)
    (hunhandled : ¬ (outcome = .executed ∨ outcome = .failed))
    (hafter : ∃ log, after = { w with log := log }) :
    Guarded room sender body w outcome after where
  handled := by
    constructor
    · exact fun h => absurd h hunhandled
    · rintro ⟨command, hheeds⟩
      exact absurd (Bot.heeds_iff.1 hheeds).1 hshut
  obeyed command hheeds := absurd (Bot.heeds_iff.1 hheeds).1 hshut
  stopped _ := hafter
  answered _ _ hadmits := absurd hadmits hshut

theorem Gated.guarded {outcome : ChatOutcome} {after : World}
    (h : Gated room sender body w outcome after) : Guarded room sender body w outcome after := by
  cases h with
  | unaddressed none =>
    refine .of_stopped (fun hadmits => ?_) (by simp) ⟨w.log, rfl⟩
    have haddressed := hadmits.addressed
    rw [none] at haddressed
    cases haddressed
  | own self => exact .of_stopped (fun hadmits => hadmits.foreign self) (by simp) ⟨w.log, rfl⟩
  | denied none =>
    refine .of_stopped (fun hadmits => ?_) (by simp) ⟨_, rfl⟩
    rw [Config.mayCommand, hadmits.administered, hadmits.admin] at none
    cases none
  | misread admitted line addressed e parsed log =>
    have hno : ∀ command, ¬ w.bot.Heeds room sender body command := by
      intro command hheeds
      obtain ⟨line', hline', hparsed⟩ := hheeds.parsed
      rw [addressed] at hline'
      obtain rfl := Option.some.inj hline'
      rw [parsed] at hparsed
      cases hparsed
    refine ⟨⟨?_, ?_⟩, fun command hheeds => absurd hheeds (hno command),
      fun hshut => absurd admitted hshut, fun line' e' _ hline' hparsed => ⟨log, ?_⟩⟩
    · rintro (h | h)
      · cases h
      · cases h
    · rintro ⟨command, hheeds⟩
      exact absurd hheeds (hno command)
    · rw [addressed] at hline'
      obtain rfl := Option.some.inj hline'
      rw [parsed] at hparsed
      obtain rfl := Except.error.inj hparsed
      rfl
  | obeyed command heeds =>
    obtain ⟨hadmits, line, hline, hparsed⟩ := Bot.heeds_iff.1 heeds
    refine ⟨⟨fun _ => ⟨command, heeds⟩, fun _ => outcome_obey _ command w⟩,
      fun command' heeds' => ?_, fun hshut => absurd hadmits hshut,
      fun line' e' _ hline' hparsed' => ?_⟩
    · rw [heeds.eq heeds']
    · rw [hline] at hline'
      obtain rfl := Option.some.inj hline'
      rw [hparsed] at hparsed'
      cases hparsed'

/-- A message that gives no command puts nothing off. -/
theorem agenda_receiveChat (hno : ∀ command, ¬ w.bot.Heeds room sender body command) :
    ((receiveChat room sender body).run w).2.agenda = w.agenda := by
  have hgated := gated_receiveChat room sender body w
  generalize (receiveChat room sender body).run w = received at hgated ⊢
  obtain ⟨outcome, after⟩ := received
  cases hgated with
  | unaddressed | own | denied | misread => rfl
  | obeyed command heeds => exact absurd heeds (hno command)

end

/-! ### What stopped messages leave behind -/

/-- Whether a notice is of something other than a stopped message or the number of events in an
unmonitored room. -/
def LogEntry.isAudible (entry : LogEntry) : Bool :=
  match entry.notice with
  | .unauthorizedCommand .. | .unmonitoredEvents .. => false
  | _ => true

/-- An occurrence, with the events of an applied batch left out. -/
def Occurrence.muted : Occurrence → Occurrence
  | called before activities c result => called before activities c result
  | polled before request => polled before request
  | answered result => answered result
  | applied batch => applied batch.emptied

section

variable [Surroundings] {stale : Bool} {v w : World} {α : Type}

/-- A world without what stopped messages leave behind, and without the count of stale events if the
message is stale. -/
def World.muted (stale : Bool) (w : World) : World :=
  { w with
    counters := if stale then w.counters.without .staleEvents else w.counters
    history := w.history.map (·.muted)
    log := w.log.filter (·.isAudible) }

/-- Two worlds are the same but for what stopped messages leave behind. -/
def SameButMuted (stale : Bool) (v w : World) : Prop :=
  v.muted stale = w.muted stale

namespace SameButMuted

/-- What a muted world shows is the same in both worlds. -/
theorem shown {β : Type} (h : SameButMuted stale v w) (f : World → β) :
    f (v.muted stale) = f (w.muted stale) :=
  congrArg f h

/-- A step whose result and whose effect can be told from the muted world respects sameness. -/
theorem respects {step : BotM α} (told : World → α × World)
    (h : ∀ w : World, (step.run w).1 = (told (w.muted stale)).1 ∧
      (step.run w).2.muted stale = (told (w.muted stale)).2) :
    Respects (SameButMuted stale) step := by
  intro v w hvw
  refine ⟨?_, ?_⟩
  · rw [(h v).1, (h w).1, hvw.shown told]
  · unfold SameButMuted
    rw [(h v).2, (h w).2, hvw.shown told]

/-- A change of the world that is not about what is left out respects sameness. -/
theorem modify {f : World → World} (hf : ∀ w : World, (f w).muted stale = f (w.muted stale)) :
    Respects (SameButMuted stale) (modify f : BotM Unit) :=
  respects (fun u => ((), f u)) fun w => ⟨rfl, hf w⟩

theorem noteAll (notices : List Notice) :
    Respects (SameButMuted stale) (BotM.noteAll notices) := by
  refine respects (fun u => ((), { u with
    log := (notices.map (⟨u.activities, ·⟩)).reverse.filter (·.isAudible) ++ u.log }))
    fun w => ⟨rfl, ?_⟩
  change ({ w with log := (notices.map (⟨w.activities, ·⟩)).reverse ++ w.log } : World).muted _ = _
  simp only [World.muted, List.filter_append]

/-- Counting can be told from the muted world. -/
theorem countBy (c : Counter) (n : Nat) : Respects (SameButMuted stale) (BotM.countBy c n) := by
  refine respects (fun u => ((), { u with
    counters := if stale = true ∧ c = .staleEvents then u.counters
      else u.counters.advance c n })) fun w => ⟨rfl, ?_⟩
  change ({ w with counters := w.counters.advance c n } : World).muted _ = _
  cases stale with
  | false => simp [World.muted]
  | true =>
    by_cases hc : c = .staleEvents
    · subst hc
      simp [World.muted, Counters.without_advance_self]
    · simp [World.muted, hc, Counters.without_advance_of_ne hc]

theorem call (c : Call) : Respects (SameButMuted stale) (BotM.call c).run := by
  refine respects (fun u =>
    let answer := Surroundings.homeserver.answer c u.server
    (answer.1.result, { u with
      server := answer.2
      history := .called u.bot u.activities c answer.1.result :: u.history
      log := (answer.1.notices.map (⟨u.activities, ·⟩)).reverse.filter (·.isAudible) ++ u.log }))
    fun w => ?_
  rw [run_call]
  refine ⟨rfl, ?_⟩
  simp only [World.muted, List.filter_append, List.map_cons, Occurrence.muted]

theorem sleep (ms : Nat) (job : Job) : Respects (SameButMuted stale) (BotM.sleep ms job) := by
  refine modify fun w => ?_
  by_cases hms : ms = 0
  · rw [if_pos hms, if_pos hms]
    rfl
  · rw [if_neg hms, if_neg hms]
    rfl

theorem withActivities (h : SameButMuted stale v w) (activities : List Activity) :
    SameButMuted stale { v with activities := activities }
      { w with activities := activities } := by
  have hsame : v.muted stale = w.muted stale := h
  exact congrArg (fun u : World => ({ u with activities := activities } : World)) hsame

theorem during (activity : Activity) {x y : BotM α} (h : Parallel (SameButMuted stale) x y) :
    Parallel (SameButMuted stale) (BotM.during activity x) (BotM.during activity y) := by
  intro v w hvw
  have hactivities : v.activities = w.activities := hvw.shown World.activities
  obtain ⟨hresult, hdone⟩ := h (hvw.withActivities (v.activities ++ [activity]))
  refine ⟨hresult.trans ?_, ?_⟩
  · rw [hactivities]
    rfl
  · have hsame : ((BotM.during activity y).run w).2 =
        { (y.run { w with activities := v.activities ++ [activity] }).2 with
          activities := v.activities } := by
      rw [hactivities]
      rfl
    rw [hsame]
    exact hdone.withActivities v.activities

end SameButMuted

/-- What stopped messages leave behind makes no difference to the steps of the bot. -/
theorem affinity_muted (stale : Bool) : Affinity (SameButMuted stale) where
  toLikeness := Congruence.likeness {
    bot hvw := hvw.shown World.bot
    noteAll := SameButMuted.noteAll
    countBy c n _ := SameButMuted.countBy c n
    change _ _ := SameButMuted.modify fun _ => rfl
    call c _ := SameButMuted.call c
    spawn _ _ _ := SameButMuted.modify fun _ => rfl
    during activity _ _ := SameButMuted.during activity }
  dryRun hvw := hvw.shown (·.bot.config.actions.dryRun)
  clock hvw := hvw.shown World.now
  create request := SameButMuted.call (.create request)
  evicted why := SameButMuted.countBy (.welcomeEvictions why) 1
  alter _ _ _ := SameButMuted.modify fun _ => rfl
  sleep ms job _ _ := SameButMuted.sleep ms job

/-! ### One room -/

variable {room : RoomId} {e : Event} {body : String}

omit [Surroundings] in
/-- A message is no membership event, so it says nothing of a departure. -/
theorem Event.isDeparture_of_textBody {e : Event} {body : String} (h : e.textBody? = some body)
    (selfId : MemberId) (readyTs : Timestamp) : e.isDeparture selfId readyTs = false := by
  have hkind : e.isMembership = false := by
    by_contra hmember
    rw [textBody?_eq_none_of_isMembership (Bool.not_eq_false _ ▸ hmember)] at h
    cases h
  unfold isDeparture memberContent
  rw [hkind, if_neg Bool.false_ne_true, Bool.and_false]

/-- A message that is stopped at the gates, or that is stale, leaves nothing behind that is not left
out. -/
theorem muted_applyEvent (hbody : e.textBody? = some body)
    (hshut : ¬ w.bot.Admits room e.sender body)
    (hstale : e.timestamp ≤ w.bot.readyTs → stale = true) :
    SameButMuted stale ((applyEvent room e).run w).2 w := by
  unfold applyEvent
  rw [run_bind, run_getBot]
  by_cases hold : e.timestamp ≤ w.bot.readyTs
  · -- A stale event is read no further than its time.
    have hmeaning : e.meaning w.bot.selfId w.bot.readyTs w.bot.rooms room = .stale := if_pos hold
    obtain rfl := hstale hold
    dsimp only
    rw [hmeaning]
    change World.muted true { w with counters := w.counters.advance .staleEvents 1 } = w.muted true
    simp only [World.muted, if_true, Counters.without_advance_self]
  · have hmeaning :
        e.meaning w.bot.selfId w.bot.readyTs w.bot.rooms room = .chat e.sender body := by
      rw [Event.meaning, if_neg hold, hbody]
    dsimp only
    rw [hmeaning]
    change SameButMuted stale ((receiveChat room e.sender body).run w).2 w
    have hgated := gated_receiveChat room e.sender body w
    generalize (receiveChat room e.sender body).run w = received at hgated ⊢
    obtain ⟨outcome, after⟩ := received
    cases hgated with
    | unaddressed | own => exact rfl
    | denied none =>
      change World.muted stale { w with log := _ :: w.log } = w.muted stale
      simp [World.muted, LogEntry.isAudible]
    | misread admitted => exact absurd admitted hshut
    | obeyed command heeds => exact absurd (Bot.heeds_iff.1 heeds).1 hshut

/-- The events of a room lead to the same with a message and without it, if the message is stopped
at the gates when its turn comes. -/
theorem muted_applyRoom (earlier later : List Event) (hvw : SameButMuted stale v w)
    (hbody : e.textBody? = some body)
    (hshut : ¬ ((applyRoom room earlier).run v).2.bot.Admits room e.sender body)
    (hstale : e.timestamp ≤ ((applyRoom room earlier).run v).2.bot.readyTs → stale = true) :
    SameButMuted stale ((applyRoom room (earlier ++ e :: later)).run v).2
      ((applyRoom room (earlier ++ later)).run w).2 := by
  have h := affinity_muted stale
  have hbot : v.bot = w.bot := hvw.shown World.bot
  by_cases hread : v.bot.welcome.contains room = false ∧ v.bot.config.isMonitored room = true
  · -- The events are read one after the other, and the message is passed over in its turn.
    obtain ⟨hwelcome, hmonitored⟩ := hread
    rw [run_applyRoom hwelcome hmonitored] at hshut hstale ⊢
    rw [hbot] at hwelcome hmonitored
    rw [run_applyRoom hwelcome hmonitored, run_forM_append, run_forM_append]
    have hearlier := (Parallel.each (l := earlier) fun e _ => h.applyEvent room e) hvw
    have hpassed := muted_applyEvent hbody hshut hstale
    have hturn := Eq.trans hpassed hearlier.2
    exact ((Parallel.each (l := later) fun e _ => h.applyEvent room e) hturn).2
  · unfold applyRoom
    rw [run_bind, run_bind, run_getBot, run_getBot, hbot]
    dsimp only
    rw [hbot] at hread
    cases hwelcome : w.bot.welcome.contains room with
    | true =>
      have hany : (earlier ++ e :: later).any (·.isDeparture w.bot.selfId w.bot.readyTs) =
          (earlier ++ later).any (·.isDeparture w.bot.selfId w.bot.readyTs) := by
        rw [List.any_append, List.any_cons, Event.isDeparture_of_textBody hbody, Bool.false_or,
          List.any_append]
      rw [if_pos rfl, if_pos rfl, hany]
      split
      · exact (h.spawn (.closeWelcome room) rfl rfl hvw).2
      · exact hvw
    | false =>
      have hforeign : w.bot.config.isMonitored room = false := by simpa [hwelcome] using hread
      rw [if_neg Bool.false_ne_true, if_neg Bool.false_ne_true, hforeign, Bool.not_false,
        if_pos rfl, if_pos rfl]
      have hquiet : ∀ (u : World) (n : Nat),
          ((note (.unmonitoredEvents room n)).run u).2.muted stale = u.muted stale := by
        intro u n
        change World.muted stale { u with log := _ :: u.log } = u.muted stale
        simp [World.muted, LogEntry.isAudible]
      unfold SameButMuted
      rw [hquiet, hquiet]
      exact hvw

/-! ### Batches -/

omit [Surroundings] in
/-- The batch with other events in a room. -/
def FeedBatch.withTimeline (batch : FeedBatch) (room : RoomId) (events : List Event) : FeedBatch :=
  { batch with joined := batch.joined.map fun other old => if other = room then events else old }

omit [Surroundings] in
/-- The events of the other rooms stay as they are. -/
theorem FeedBatch.toList_joined_withTimeline {batch : FeedBatch} {room : RoomId}
    {before after : List (RoomId × List Event)} {old : List Event}
    (h : batch.joined.toList = before ++ (room, old) :: after) (events : List Event) :
    (batch.withTimeline room events).joined.toList = before ++ (room, events) :: after := by
  rw [withTimeline, ← insert_eq_map (getElem?_of_toList h)]
  exact toList_insert h events

omit [Surroundings] in
/-- Without its events it is the same batch. -/
theorem FeedBatch.emptied_withTimeline (batch : FeedBatch) (room : RoomId) (events : List Event) :
    (batch.withTimeline room events).emptied = batch.emptied := by
  unfold withTimeline emptied
  congr 1
  refine Std.ExtTreeMap.ext_getElem? fun other => ?_
  rw [Std.ExtTreeMap.getElem?_map, Std.ExtTreeMap.getElem?_map, Std.ExtTreeMap.getElem?_map,
    Option.map_map]
  rfl

/-- What a batch leads to before a room, if these are the rooms before it. -/
def approach (batch : FeedBatch) (before : List (RoomId × List Event)) : BotM Unit := do
  count .syncBatches
  countBy .malformedEvents batch.malformed
  if batch.malformed > 0 then note (.malformedEvents batch.malformed)
  before.forM fun entry => applyRoom entry.1 entry.2

/-- What a batch leads to after a room, if these are the rooms after it. -/
def proceed (batch : FeedBatch) (after : List (RoomId × List Event)) : BotM Unit := do
  after.forM fun entry => applyRoom entry.1 entry.2
  batch.left.toList.forM fun room => discard (handleLeft room)
  change fun b => { b with cursor := some batch.nextBatch }

/-- The world in which a batch has been begun. -/
def World.begun (w : World) (batch : FeedBatch) : World :=
  { w with
    history := .applied batch :: w.history
    activities := w.activities ++ [.syncBatch batch.nextBatch] }

/-- The world in which the turn of an event comes, if these are the rooms before its room and the
events before it in its room. -/
def World.turn (w : World) (batch : FeedBatch) (before : List (RoomId × List Event))
    (room : RoomId) (earlier : List Event) : World :=
  ((applyRoom room earlier).run ((approach batch before).run (w.begun batch)).2).2

/-- A batch, taken apart at one of its rooms. -/
theorem run_applyBatch_at {batch : FeedBatch} {before after : List (RoomId × List Event)}
    {events : List Event} (h : batch.joined.toList = before ++ (room, events) :: after)
    (w : World) :
    let reached := ((approach batch before).run (w.begun batch)).2
    let done := ((proceed batch after).run ((applyRoom room events).run reached).2).2
    ((applyBatch batch).run w).2 = { done with activities := w.activities } := by
  have hrooms : w.facing batch = ((after.forM fun entry => applyRoom entry.1 entry.2).run
      ((applyRoom room events).run ((approach batch before).run (w.begun batch)).2).2).2 := by
    change ((beginBatch batch).run (w.begun batch)).2 = _
    unfold beginBatch approach
    rw [h]
    by_cases hmalformed : batch.malformed > 0
    · simp only [if_pos hmalformed, run_bind, run_forM_append]
      rfl
    · simp only [if_neg hmalformed, run_bind, run_forM_append]
      rfl
  rw [run_applyBatch, hrooms]
  rfl

theorem respects_approach (batch : FeedBatch) (before : List (RoomId × List Event)) :
    Respects (SameButMuted stale) (approach batch before) := by
  have h := affinity_muted stale
  exact .bind (SameButMuted.countBy _ 1) fun _ => .bind (SameButMuted.countBy _ _) fun _ =>
    .first_if (h.note _) fun _ => .each fun entry _ => h.applyRoom entry.1 entry.2

theorem respects_proceed (batch : FeedBatch) (after : List (RoomId × List Event)) :
    Respects (SameButMuted stale) (proceed batch after) := by
  have h := affinity_muted stale
  have hleft : ∀ room, Respects (SameButMuted stale) (discard (handleLeft room)) := fun room =>
    .discard (h.handleLeft fun _ => SameButMuted.modify fun _ => rfl)
  exact .bind (.each fun entry _ => h.applyRoom entry.1 entry.2) fun _ =>
    .bind (.each fun room _ => hleft room) fun _ => SameButMuted.modify fun _ => rfl

/-- The gates have no side effects. A message to which they are not all open leaves the world as it
is, but for notices; one to which they are and that cannot be read leads to one attempt to post the
reason, whether it succeeds or not; and a handler has its turn only if the message gives a command.
So a batch leads to the same with a message and without it, if the gates are not all open to the
message when its turn comes. -/
theorem gates_without_effect :
    (∀ (w : World) (room : RoomId) (sender : MemberId) (body : String),
      Guarded room sender body w ((receiveChat room sender body).run w).1
        ((receiveChat room sender body).run w).2) ∧
    ∀ (w : World) (batch : FeedBatch) (before after : List (RoomId × List Event)) (room : RoomId)
      (earlier later : List Event) (e : Event) (body : String),
      batch.joined.toList = before ++ (room, earlier ++ e :: later) :: after →
      e.textBody? = some body →
      let turn := w.turn batch before room earlier
      ¬ turn.bot.Admits room e.sender body →
      let stale := decide (e.timestamp ≤ turn.bot.readyTs)
      ((applyBatch batch).run w).2.muted stale =
        ((applyBatch (batch.withTimeline room (earlier ++ later))).run w).2.muted stale := by
  refine ⟨fun w room sender body => (gated_receiveChat room sender body w).guarded, ?_⟩
  intro w batch before after room earlier later e body hrooms hbody turn hshut stale
  let shorter := batch.withTimeline room (earlier ++ later)
  have hshorter : shorter.joined.toList = before ++ (room, earlier ++ later) :: after :=
    FeedBatch.toList_joined_withTimeline hrooms _
  have hbegun : SameButMuted stale (w.begun batch) (w.begun shorter) := by
    simp only [SameButMuted, World.muted, World.begun, List.map_cons, Occurrence.muted, shorter,
      batch.emptied_withTimeline]
    rfl
  obtain ⟨-, hreached⟩ := respects_approach batch before hbegun
  have hroom := muted_applyRoom earlier later hreached hbody hshut fun hold =>
    decide_eq_true hold
  obtain ⟨-, hdone⟩ := respects_proceed batch after hroom
  rw [run_applyBatch_at hrooms, run_applyBatch_at hshorter]
  exact hdone.withActivities w.activities

end

section

attribute [local instance] Sample.surroundings

/-- An admin gives up being one, and the command that follows in the same batch is stopped. -/
theorem resigned_admin_stopped :
    let w := (World.initial (Bot.initial ⟨"@warden:x"⟩ (.inMemory Sample.hospitable)) ()).after
      [.start 0]
    let resignation : Event := .chatMessage Sample.alice "!admin revoke @alice:x" 1
    let regret : Event := .chatMessage Sample.alice "!admin grant @alice:x" 2
    let batch : FeedBatch := ⟨"s1", .ofList [(Sample.lobby, [resignation, regret])], ∅, 0⟩
    let turn := w.turn batch [] Sample.lobby [resignation]
    w.bot.Admits Sample.lobby Sample.alice "!admin grant @alice:x" ∧
      ¬ turn.bot.Admits Sample.lobby Sample.alice "!admin grant @alice:x" ∧
      ((applyBatch batch).run w).2.muted false =
        ((applyBatch (batch.withTimeline Sample.lobby [resignation])).run w).2.muted false := by
  intro w resignation regret batch turn
  have hshut : ¬ turn.bot.Admits Sample.lobby Sample.alice "!admin grant @alice:x" := fun h =>
    absurd h.admin (by decide +kernel)
  have hopen : w.bot.Admits Sample.lobby Sample.alice "!admin grant @alice:x" :=
    ⟨by decide +kernel, by decide +kernel, by decide +kernel, by decide +kernel⟩
  have hsame := gates_without_effect.2 w batch [] [] Sample.lobby [resignation] [] regret
    "!admin grant @alice:x" rfl (by decide +kernel) hshut
  have hfresh : decide (regret.timestamp ≤ turn.bot.readyTs) = false := by decide +kernel
  dsimp only at hsame
  rw [show w.turn batch [] Sample.lobby [resignation] = turn from rfl, hfresh] at hsame
  exact ⟨hopen, hshut, hsame⟩

end

end RoomModeration
