import RoomModeration.Proofs.Agenda
import RoomModeration.Proofs.Feed
import RoomModeration.Proofs.Room.Meaning

/-!
# Passive bots

A passive bot that nobody gives orders to only listens. It enters rooms, at its start and after it
has lost one, and asks who is in them and who is banned there; it leaves no room, bans nobody, lifts
no ban, opens no room and posts nothing. It opens no welcome rooms either, and so the sweeps and
what is done about welcome rooms that are left, neither of which asks whether the bot is passive,
find nothing to do.

The records of such a bot can be told from its history. A record is begun by what the homeserver has
answered about a room that was just entered, and it is ended by a batch that tells of the departure;
nothing that happens in the room changes it.

An order is a message that starts like a command, fresh and from someone who may give commands in
its room. If what follows is no command, the bot says so, and that would be a post as well.

## Main definitions

* `Bot.isOrderedBy`, `Happening.orders`, `World.undirected` : orders, and runs without any.
* `told` : the records that a history tells of.
* `Listening` : what holds as long as there are no orders.
* `Pauses`, `Placid` : nothing happens but that jobs other than greetings are put off.

## Main results

* `pauses_applyEvent` : an event that is no order leads to nothing.
* `listening_happening` : whatever happens without orders, the bot goes on listening.
* `passive_listens` : a passive bot only listens.
-/

namespace RoomModeration

open BotM RoomModeration.Bot

/-! ### Orders -/

/-- Whether a message is an order: it starts with the prefix, and its sender is not the bot and may
give commands in the room. -/
def Bot.isOrderedBy (b : Bot) (room : RoomId) (sender : MemberId) (body : String) : Bool :=
  (afterPrefix? b.config.bot.commandPrefix body).isSome && sender != b.selfId &&
    b.config.mayCommand room sender

/-- Whether an event is a fresh order. -/
def Event.orders (e : Event) (b : Bot) (room : RoomId) : Bool :=
  b.readyTs < e.timestamp && e.textBody?.any (b.isOrderedBy room e.sender)

/-- Whether a batch brings an order. -/
def FeedBatch.orders (batch : FeedBatch) (b : Bot) : Bool :=
  batch.joined.toList.any fun (room, events) => events.any (·.orders b room)

/-! ### Histories -/

/-- Whether an occurrence says something of records: which members of a room are banned, or which
rooms the bot has lost. -/
def Occurrence.concernsRecords : Occurrence → Bool
  | called _ _ (.bannedMembers _) (.ok _) => true
  | applied _ => true
  | _ => false

/-- The records that a history tells of: one is begun where a room has been entered and its members
and its ban list have been told, with what is configured for the room that was asked for, and one is
ended where a batch tells of a departure. -/
def told (config : Config) : List Occurrence → RoomStore
  | .called _ _ (.bannedMembers joined) (.ok banned) ::
      .called _ _ (.listMembers _) (.ok members) :: .called _ _ (.join room _) (.ok _) :: rest =>
    let asked := config.roomConfig room
    (told config rest).seed joined members.keys banned asked.modes asked.typedParams
  | .applied batch :: rest => batch.left.toList.foldl RoomStore.drop (told config rest)
  | _ :: rest => told config rest
  | [] => ∅

theorem told_cons {o : Occurrence} (h : o.concernsRecords = false) (config : Config)
    (rest : List Occurrence) : told config (o :: rest) = told config rest := by
  cases o with
  | called before activities c result =>
    cases c with
    | bannedMembers room =>
      cases result with
      | ok banned => cases h
      | error e => rfl
    | _ => rfl
  | applied batch => cases h
  | polled | answered => rfl

/-- Whether a call is one of those by which a room is entered: going in, and asking who is there and
who is banned. -/
def Call.isEntering : Call → Bool
  | join .. | listMembers _ | bannedMembers _ => true
  | _ => false

/-- Whether a job greets a newcomer. -/
def Job.isGreeting : Job → Bool
  | greet .. => true
  | _ => false

section

variable [Surroundings] {v w w' : World}

/-- Whether a happening brings an order. -/
def Happening.orders (w : World) : Happening → Bool
  | .chat room sender body => w.bot.isOrderedBy room sender body
  | x => (x.batch? w).any (·.orders w.bot)

/-- Whether nothing that happens brings an order when its turn comes. -/
def World.undirected (w : World) : List Happening → Bool
  | [] => true
  | x :: xs => !x.orders w && World.undirected (x.run.run w).2 xs

/-! ### Listening -/

/-- Nothing happens, but that jobs other than greetings are put off. -/
structure Pauses (w w' : World) : Prop where
  bot : w'.bot = w.bot
  history : w'.history = w.history
  jobs : ∀ job ∈ w'.jobs, job.isGreeting = true → job ∈ w.jobs

theorem Pauses.refl (w : World) : Pauses w w :=
  ⟨rfl, rfl, fun _ h _ => h⟩

theorem Pauses.trans (h : Pauses w v) (h' : Pauses v w') : Pauses w w' :=
  ⟨h'.bot.trans h.bot, h'.history.trans h.history,
    fun job hjob hgreeting => h.jobs job (h'.jobs job hjob hgreeting) hgreeting⟩

/-- A property of worlds does not mind such a pause. -/
def Placid (I : World → Prop) : Prop :=
  ∀ ⦃w w' : World⦄, Pauses w w' → I w → I w'

/-- The bot has only listened: its configuration is still the one that it began with, no welcome
room is open and nobody is to be greeted, it has only made the calls by which rooms are entered, and
its records, without those of some rooms whose departure is still to be dealt with, are those that
its history tells of. -/
structure Listening (s : ConfigStore) (left : List RoomId) (w : World) : Prop where
  store : w.bot.store = s
  welcome : w.bot.welcome.entries = []
  rooms : left.foldl RoomStore.drop w.bot.rooms = told s.config w.history
  calls : ∀ c ∈ w.history.filterMap Occurrence.call?, c.isEntering = true
  jobs : ∀ job ∈ w.jobs, job.isGreeting = false

variable {s : ConfigStore} {left : List RoomId} {I P Q : World → Prop} {α β : Type}

theorem placid_listening (s : ConfigStore) (left : List RoomId) : Placid (Listening s left) := by
  intro w w' hpauses h
  refine ⟨?_, ?_, ?_, ?_, fun job hjob => ?_⟩
  · rw [hpauses.bot, h.store]
  · rw [hpauses.bot, h.welcome]
  · rw [hpauses.bot, hpauses.history, h.rooms]
  · rw [hpauses.history]
    exact h.calls
  · by_contra hgreeting
    have htrue : job.isGreeting = true := by simpa using hgreeting
    exact hgreeting (h.jobs job (hpauses.jobs job hjob htrue))

theorem Listening.contains_eq_false (h : Listening s left w) (room : RoomId) :
    w.bot.welcome.contains room = false := by
  rw [WelcomeRegistry.contains, h.welcome]
  rfl

/-! ### Pausing -/

theorem pauses_note (notice : Notice) (w : World) : Pauses w ((note notice).run w).2 :=
  ⟨rfl, rfl, fun _ h _ => h⟩

theorem pauses_noteAll (notices : List Notice) (w : World) :
    Pauses w ((noteAll notices).run w).2 :=
  ⟨rfl, rfl, fun _ h _ => h⟩

theorem pauses_countBy (c : Counter) (n : Nat) (w : World) : Pauses w ((countBy c n).run w).2 :=
  ⟨rfl, rfl, fun _ h _ => h⟩

theorem pauses_count (c : Counter) (w : World) : Pauses w ((count c).run w).2 :=
  pauses_countBy c 1 w

theorem pauses_activities (activities : List Activity) (w : World) :
    Pauses w { w with activities := activities } :=
  ⟨rfl, rfl, fun _ h _ => h⟩

/-- One job more is put off, which is no greeting. -/
theorem Pauses.of_job {job : Job} (hjob : job.isGreeting = false) (hbot : w'.bot = w.bot)
    (hhistory : w'.history = w.history) (hjobs : ∀ other ∈ w'.jobs, other = job ∨ other ∈ w.jobs) :
    Pauses w w' := by
  refine ⟨hbot, hhistory, fun other hother hgreeting => (hjobs other hother).resolve_left ?_⟩
  rintro rfl
  rw [hjob] at hgreeting
  cases hgreeting

theorem pauses_spawn {job : Job} (hjob : job.isGreeting = false) (w : World) :
    Pauses w ((spawn job).run w).2 := by
  refine .of_job hjob rfl rfl fun other hother => ?_
  change other ∈ (w.ready ++ [job]) ++ w.timers.map (·.job) at hother
  change other = job ∨ other ∈ w.ready ++ w.timers.map (·.job)
  simp only [List.mem_append, List.mem_singleton] at hother ⊢
  tauto

theorem pauses_sleep {job : Job} (hjob : job.isGreeting = false) (ms : Nat) (w : World) :
    Pauses w ((sleep ms job).run w).2 := by
  rw [run_sleep]
  split
  · refine .of_job hjob rfl rfl fun other hother => ?_
    exact List.mem_cons.1 hother
  · refine .of_job hjob rfl rfl fun other hother => ?_
    change other ∈ w.ready ++ (w.timers ++ [Timer.mk (w.now + ms) job]).map (·.job) at hother
    change other = job ∨ other ∈ w.ready ++ w.timers.map (·.job)
    simp only [List.map_append, List.map_cons, List.map_nil, List.mem_append,
      List.mem_singleton] at hother ⊢
    tauto

/-- A message that is no order is passed over. -/
theorem pauses_receiveChat {room : RoomId} {sender : MemberId} {body : String}
    (h : w.bot.isOrderedBy room sender body = false) :
    Pauses w ((receiveChat room sender body).run w).2 := by
  unfold receiveChat
  rw [run_bind, run_getBot]
  dsimp only
  cases haddressed : afterPrefix? w.bot.config.bot.commandPrefix body with
  | none => exact .refl w
  | some line =>
    by_cases hself : sender = w.bot.selfId
    · dsimp only
      rw [if_pos hself]
      exact .refl w
    · have hmay : w.bot.config.mayCommand room sender = false := by
        simpa [Bot.isOrderedBy, haddressed, hself] using h
      dsimp only
      rw [if_neg hself, hmay]
      exact pauses_note _ w

/-- An event that is no order leads to nothing, as the bot is passive. -/
theorem pauses_applyEvent {room : RoomId} {e : Event} (hpassive : w.bot.config.bot.passive = true)
    (h : e.orders w.bot room = false) : Pauses w ((applyEvent room e).run w).2 := by
  have hobserve : ∀ v t, v.bot = w.bot → Pauses v ((observeTransition room t).run v).2 := by
    intro v t hv
    unfold observeTransition
    rw [run_bind, run_getBot]
    dsimp only
    rw [hv, hpassive]
    exact .refl v
  unfold applyEvent
  rw [run_bind, run_getBot]
  dsimp only
  cases hmeaning : e.meaning w.bot.selfId w.bot.readyTs w.bot.rooms room with
  | stale => exact pauses_count _ w
  | chat sender body =>
    obtain ⟨hfresh, rfl, hbody⟩ := Event.chat_of_meaning hmeaning
    refine pauses_receiveChat ?_
    simpa [Event.orders, Int64.not_le.1 hfresh, hbody] using h
  | membership t =>
    dsimp only
    split
    · exact (pauses_note _ w).trans (hobserve _ t rfl)
    · exact hobserve w t rfl
  | profile member => exact pauses_note _ w
  | ignored => exact .refl w

/-- Steps that pause one after the other, for the bot that there is at the beginning. -/
theorem pauses_forM {step : α → BotM PUnit} {l : List α}
    (h : ∀ a ∈ l, ∀ v : World, v.bot = w.bot → Pauses v ((step a).run v).2) :
    Pauses w ((l.forM step).run w).2 := by
  induction l generalizing w with
  | nil => exact .refl w
  | cons a l ih =>
    have hhead := h a List.mem_cons_self w rfl
    exact hhead.trans (ih fun b hb v hv => h b (List.mem_cons_of_mem _ hb) v (hv.trans hhead.bot))

theorem pauses_applyRoom {room : RoomId} {events : List Event}
    (hpassive : w.bot.config.bot.passive = true) (hwelcome : w.bot.welcome.contains room = false)
    (h : events.any (·.orders w.bot room) = false) :
    Pauses w ((applyRoom room events).run w).2 := by
  unfold applyRoom
  rw [run_bind, run_getBot]
  dsimp only
  rw [hwelcome, if_neg Bool.false_ne_true]
  split
  · exact pauses_note _ w
  · refine pauses_forM fun e he v hv => pauses_applyEvent (by rwa [hv]) ?_
    rw [hv]
    simpa using List.any_eq_false.1 h e he

namespace Placid

variable (hI : Placid I)

include hI

theorem keeps {step : BotM α} (h : ∀ w, Pauses w (step.run w).2) : Keeps I step :=
  fun w hw => hI (h w) hw

theorem note (notice : Notice) : Keeps I (BotM.note notice) :=
  hI.keeps (pauses_note notice)

theorem count (c : Counter) : Keeps I (BotM.count c) :=
  hI.keeps (pauses_count c)

theorem spawn {job : Job} (hjob : job.isGreeting = false) : Keeps I (BotM.spawn job) :=
  hI.keeps (pauses_spawn hjob)

theorem sleep {job : Job} (hjob : job.isGreeting = false) (ms : Nat) :
    Keeps I (BotM.sleep ms job) :=
  hI.keeps (pauses_sleep hjob ms)

theorem during (hQ : Placid Q) {step : BotM α} (activity : Activity) (h : Brings I Q step) :
    Brings I Q (BotM.during activity step) := by
  intro w hw
  have hbegin : I { w with activities := w.activities ++ [activity] } :=
    hI (pauses_activities _ w) hw
  exact hQ (pauses_activities w.activities _) (h _ hbegin)

end Placid

/-! ### Entering rooms -/

/-- Entering a room puts nothing off. -/
theorem jobs_joinRoom (room : RoomId) (w : World) :
    ((joinRoom room).run.run w).2.jobs = w.jobs :=
  congrArg (fun a => a.ready ++ a.timers.map (·.job)) (agenda_joinRoom room w)

omit [Surroundings] in
/-- An inquiry that is refused tells nothing of the records. -/
theorem Inquiry.told_eq {b : Bot} {activities : List Activity} {room : RoomId}
    {made : List Occurrence} {e : ActionError} (h : Inquiry b activities room made (.error e))
    (config : Config) (rest : List Occurrence) :
    told config (made ++ rest) = told config rest := by
  cases h with
  | barred => exact told_cons rfl config rest
  | membersUntold joined =>
    exact (told_cons rfl config _).trans (told_cons rfl config rest)
  | bansUntold joined members =>
    exact ((told_cons rfl config _).trans (told_cons rfl config _)).trans
      (told_cons rfl config rest)

omit [Surroundings] in
/-- An inquiry is made of the calls by which rooms are entered. -/
theorem Inquiry.isEntering {b : Bot} {activities : List Activity} {room : RoomId}
    {made : List Occurrence} {answer : Except ActionError RoomReport}
    (h : Inquiry b activities room made answer) :
    ∀ c ∈ made.filterMap Occurrence.call?, c.isEntering = true := by
  cases h with
  | barred | membersUntold | bansUntold | allTold =>
    simp [Occurrence.call?, Call.isEntering]

/-- Entering a room, or trying to, the bot goes on listening. -/
theorem keeps_listening_joinRoom (room : RoomId) : Keeps (Listening s []) (joinRoom room).run := by
  intro w hw
  obtain ⟨made, answer, h, -⟩ := inquired_joinRoom room w
  refine ⟨?_, ?_, ?_, ?_, ?_⟩
  · rw [h.bot, ← hw.store]
    cases answer <;> rfl
  · rw [h.bot, ← hw.welcome]
    cases answer <;> rfl
  · rw [h.bot, h.history]
    cases answer with
    | error e =>
      rw [h.inquiry.told_eq]
      exact hw.rooms
    | ok report =>
      cases h.inquiry with
      | allTold joined members banned =>
        change _ = (told s.config w.history).seed _ _ _ _ _
        rw [← hw.rooms, ← hw.store]
        rfl
  · rw [h.history, List.filterMap_append]
    intro c hc
    exact (List.mem_append.1 hc).elim (h.inquiry.isEntering c) (hw.calls c)
  · rw [jobs_joinRoom]
    exact hw.jobs

theorem keeps_listening_joinEach (rooms : List RoomId) :
    Keeps (Listening s []) (joinEach rooms) := by
  have hI := placid_listening s []
  induction rooms with
  | nil => exact .pure _
  | cons room rest ih =>
    refine .bind (keeps_listening_joinRoom room) fun result => ?_
    cases result with
    | ok _ => exact .bind ih fun _ => .pure _
    | error e => exact .bind (hI.note _) fun _ => ih

theorem keeps_listening_rejoin (room : RoomId) : Keeps (Listening s []) (Bot.rejoin room) := by
  have hI := placid_listening s []
  refine .bind .getConfig fun config => ?_
  split
  · exact hI.note _
  · refine .bind (keeps_listening_joinRoom room) fun result => ?_
    cases result with
    | ok _ => exact hI.note _
    | error e => exact hI.note _

/-! ### Batches -/

/-- What the feed brings, but for a batch, says nothing of the records. -/
theorem keeps_listening_record {o : Occurrence} (hcall : o.call? = none)
    (hrecords : o.concernsRecords = false) : Keeps (Listening s []) (record o) := by
  refine fun w hw => ⟨hw.store, hw.welcome, ?_, ?_, hw.jobs⟩
  · change w.bot.rooms = told s.config (o :: w.history)
    rw [told_cons hrecords]
    exact hw.rooms
  · change ∀ c ∈ (o :: w.history).filterMap Occurrence.call?, c.isEntering = true
    rw [List.filterMap_cons_none hcall]
    exact hw.calls

/-- The departures that a batch tells of are still to be dealt with when it is written down. -/
theorem brings_listening_applied (batch : FeedBatch) :
    Brings (Listening s []) (Listening s batch.left.toList) (record (.applied batch)) := by
  refine fun w hw => ⟨hw.store, hw.welcome, ?_, hw.calls, hw.jobs⟩
  exact congrArg (batch.left.toList.foldl RoomStore.drop ·) hw.rooms

/-- A departure is dealt with by dropping the record. -/
theorem brings_listening_handleLeft (room : RoomId) (left : List RoomId) :
    Brings (Listening s (room :: left)) (Listening s left) (handleLeft room) := by
  have hI := placid_listening s (room :: left)
  have hQ := placid_listening s left
  have hdrop : Brings (Listening s (room :: left)) (Listening s left) (change (·.dropRoom room)) :=
    fun w hw => ⟨hw.store, hw.welcome, hw.rooms, hw.calls, hw.jobs⟩
  have hend : Brings (Listening s (room :: left)) (Listening s left) (endRecord room) :=
    .bind (Q := Listening s (room :: left)) Keeps.getBot fun _ =>
      .first_if (hI.note _) fun _ => hdrop
  have hrest : Keeps (Listening s left) (do
      let config ← getConfig
      if config.isMonitored room then do
        BotM.note (.rejoinScheduled room config.bot.rejoinDelaySecs)
        BotM.spawn (.awaitRejoin room config.bot.rejoinDelaySecs)
        return true
      else do
        BotM.note (.unmonitoredRoomGone room)
        return false) := by
    refine .bind .getConfig fun config => ?_
    split
    · exact .bind (hQ.note _) fun _ => .bind (hQ.spawn rfl) fun _ => .pure _
    · exact .bind (hQ.note _) fun _ => .pure _
  intro w hw
  unfold handleLeft
  rw [run_bind, run_getBot]
  dsimp only
  rw [Bot.unregister_of_not_contains (hw.contains_eq_false room)]
  exact Brings.bind hend (fun _ => hrest) w hw

theorem brings_listening_left (left : List RoomId) :
    Brings (Listening s left) (Listening s [])
      (left.forM fun room => discard (handleLeft room)) := by
  induction left with
  | nil => exact fun _ hw => hw
  | cons room left ih => exact .bind (brings_listening_handleLeft room left) fun _ => ih

/-- A batch without orders: all that comes of it is that the records of rooms that the bot has lost
are dropped. -/
theorem listening_applyBatch {batch : FeedBatch} (hpassive : s.config.bot.passive = true)
    (h : batch.orders w.bot = false) (hw : Listening s [] w) :
    Listening s [] ((applyBatch batch).run w).2 := by
  -- While the events are passed over, the bot stays as it was.
  let I : World → Prop := fun v => Listening s batch.left.toList v ∧ v.bot = w.bot
  have hI : Placid I := fun _ _ hpauses hv =>
    ⟨placid_listening s _ hpauses hv.1, hpauses.bot.trans hv.2⟩
  have hroom : ∀ entry ∈ batch.joined.toList, Keeps I (applyRoom entry.1 entry.2) := by
    intro entry hentry v hv
    refine hI (pauses_applyRoom ?_ (hv.1.contains_eq_false _) ?_) hv
    · rw [Bot.config, hv.1.store]
      exact hpassive
    · rw [hv.2]
      simpa using List.any_eq_false.1 h entry hentry
  have hleft : Brings I (Listening s [])
      (batch.left.toList.forM fun room => discard (handleLeft room)) :=
    fun v hv => brings_listening_left _ v hv.1
  have hcursor : Keeps (Listening s [])
      (change fun b => { b with cursor := some batch.nextBatch }) :=
    fun v hv => ⟨hv.store, hv.welcome, hv.rooms, hv.calls, hv.jobs⟩
  have hbody : Brings I (Listening s []) (do
      BotM.count .syncBatches
      countBy .malformedEvents batch.malformed
      if batch.malformed > 0 then BotM.note (.malformedEvents batch.malformed)
      batch.joined.toList.forM fun (room, events) => applyRoom room events
      batch.left.toList.forM fun room => discard (handleLeft room)
      change fun b => { b with cursor := some batch.nextBatch }) := by
    refine .bind (hI.count _) fun _ => .bind (hI.keeps (pauses_countBy _ _)) fun _ => ?_
    refine .first_if (hI.note _) fun _ => .bind (Keeps.forM hroom) fun _ => ?_
    exact .bind hleft fun _ => hcursor
  have hbegin : I ((record (.applied batch)).run w).2 := ⟨brings_listening_applied batch w hw, rfl⟩
  exact hI.during (placid_listening s []) _ hbody _ hbegin

/-! ### Jobs and starts -/

/-- Where no welcome room is open, none is closed. -/
theorem run_sweep_of_listening (hw : Listening s left w) (now : Nat) :
    (Bot.sweep now).run w = (0, w) := by
  unfold Bot.sweep WelcomeRegistry.expired
  rw [run_bind, run_getBot]
  dsimp only
  rw [hw.welcome]
  rfl

theorem listening_receiveAnswer (hpassive : s.config.bot.passive = true)
    {result : Except ActionError FeedBatch}
    (h : ∀ batch, result = .ok batch → batch.orders w.bot = false) (hw : Listening s [] w)
    (start : Nat) (since : Option String) (fullState : Bool) :
    Listening s [] ((receiveAnswer start since fullState result).run w).2 := by
  have hI := placid_listening s []
  have hanswered := keeps_listening_record (o := .answered result) rfl rfl w hw
  unfold receiveAnswer
  rw [run_bind]
  cases result with
  | ok batch =>
    refine hI.sleep ?_ _ _ (listening_applyBatch hpassive (h batch rfl) hanswered)
    rfl
  | error e =>
    refine (Keeps.bind (hI.count _) fun _ => .bind .getConfig fun config => ?_) _ hanswered
    exact .bind (hI.note _) fun _ => hI.sleep (by rfl) _

/-- A job that is no greeting, if the batch that it has to apply brings no order. -/
theorem listening_job (hpassive : s.config.bot.passive = true) {job : Job}
    (hjob : job.isGreeting = false) (h : job.batch?.any (·.orders w.bot) = false)
    (hw : Listening s [] w) : Listening s [] (job.run.run w).2 := by
  have hI := placid_listening s []
  cases job with
  | greet source member => cases hjob
  | closeWelcome room =>
    change Listening s [] ((evict room .departure).run w).2
    rwa [run_evict_of_not_contains .departure (hw.contains_eq_false room)]
  | awaitRejoin room delay => exact hI.sleep (by rfl) _ w hw
  | rejoin room => exact keeps_listening_rejoin room w hw
  | awaitReboot delay => exact hI.sleep (by rfl) _ w hw
  | reboot => exact ⟨hw.store, hw.welcome, hw.rooms, hw.calls, hw.jobs⟩
  | beginFeed start => exact Keeps.bind (hI.note _) (fun _ => hI.sleep (by rfl) _) w hw
  | poll start since fullState =>
    change Listening s [] ((pollFeed start since fullState).run w).2
    rw [run_pollFeed]
    refine Keeps.bind (hI.keeps (pauses_noteAll _)) (fun _ =>
      .bind (keeps_listening_record rfl rfl) fun _ => hI.sleep (by rfl) _) _ ?_
    exact ⟨hw.store, hw.welcome, hw.rooms, hw.calls, hw.jobs⟩
  | receive start since fullState result =>
    refine listening_receiveAnswer hpassive (fun batch hresult => ?_) hw start since fullState
    subst hresult
    exact h
  | beginSweeps start =>
    exact Keeps.bind .getConfig (fun _ => hI.sleep (by rfl) _) w hw
  | sweep start period =>
    change Listening s [] ((sleep period (.sweep start period)).run ((Bot.sweep w.now).run w).2).2
    rw [run_sweep_of_listening hw]
    exact hI.sleep (by rfl) _ w hw
  | beginHeartbeats start => exact Keeps.bind .getConfig (fun _ => hI.sleep (by rfl) _) w hw
  | heartbeat start period =>
    refine Keeps.bind (fun v hv => ?_) (fun _ => hI.sleep (by rfl) _) w hw
    exact ⟨hv.store, hv.welcome, hv.rooms, hv.calls, hv.jobs⟩

/-- A passive bot leaves no rooms at its start and bans nobody. -/
theorem listening_start (hpassive : s.config.bot.passive = true) (readyTs : Timestamp)
    (hw : Listening s [] w) : Listening s [] ((Bot.start readyTs).run w).2 := by
  have hI := placid_listening s []
  have hp : w.bot.config.bot.passive = true := by
    rw [Bot.config, hw.store]
    exact hpassive
  unfold Bot.start
  rw [run_bind, run_getBot]
  dsimp only
  rw [hp, Bool.not_true, if_neg Bool.false_ne_true, if_neg Bool.false_ne_true]
  have hready : Keeps (Listening s []) (change fun b => { b with readyTs := readyTs }) :=
    fun v hv => ⟨hv.store, hv.welcome, hv.rooms, hv.calls, hv.jobs⟩
  have hcounted : ∀ n : Nat, Keeps (Listening s [])
      (modify fun w => { w with starts := n } : BotM Unit) :=
    fun n => hI.keeps fun _ => ⟨rfl, rfl, fun _ h _ => h⟩
  refine Keeps.bind (hI.note _) (fun _ => .bind .getConfig fun _ =>
    .bind (keeps_listening_joinEach _) fun joined => .bind .getConfig fun _ =>
    .bind (hI.note _) fun _ => .bind hready fun _ => .bind .get fun _ =>
    .bind (hcounted _) fun _ => ?_) w hw
  exact .bind (hI.spawn rfl) fun _ => .bind (hI.spawn rfl) fun _ => hI.spawn rfl

/-! ### Runs -/

theorem pauses_take (place : Nat) (w : World) :
    Pauses w { w with ready := w.ready.eraseIdx place } := by
  refine ⟨rfl, rfl, fun job hjob _ => ?_⟩
  change job ∈ w.ready.eraseIdx place ++ w.timers.map (·.job) at hjob
  obtain hready | htimer := List.mem_append.1 hjob
  · exact List.mem_append_left _ (List.mem_of_mem_eraseIdx hready)
  · exact List.mem_append_right _ htimer

theorem pauses_elapse (ms : Nat) (w : World) : Pauses w { w with now := w.now + ms } :=
  ⟨rfl, rfl, fun _ h _ => h⟩

theorem pauses_wake (w : World) : Pauses w (Bot.wake.run w).2 :=
  ⟨rfl, rfl, fun _ hjob _ => (perm_jobs_wake w).mem_iff.1 hjob⟩

theorem pauses_cancel (w : World) : Pauses w (Bot.cancel.run w).2 := by
  refine ⟨rfl, rfl, fun job hjob _ => ?_⟩
  rw [jobs_cancel] at hjob
  exact List.mem_of_mem_filter hjob

/-- Whatever happens without an order, the bot goes on listening. -/
theorem listening_happening (hpassive : s.config.bot.passive = true) {x : Happening}
    (h : x.orders w = false) (hw : Listening s [] w) : Listening s [] (x.run.run w).2 := by
  have hI := placid_listening s []
  cases x with
  | start readyTs => exact listening_start hpassive readyTs hw
  | batch arrived => exact listening_applyBatch hpassive h hw
  | chat room sender body => exact hI (pauses_receiveChat h) hw
  | work place =>
    cases hfound : w.ready[place]? with
    | none => rwa [run_work_of_none hfound]
    | some job =>
      rw [run_work_of_some hfound]
      have hmem : job ∈ w.jobs := List.mem_append_left _ (List.mem_of_getElem? hfound)
      have htaken := hI (pauses_take place w) hw
      refine listening_job hpassive (hw.jobs job hmem) ?_ htaken
      simpa [Happening.orders, Happening.batch?, hfound] using h
  | elapse ms => exact hI (pauses_elapse ms w) hw
  | wake => exact hI (pauses_wake w) hw
  | cancel => exact hI (pauses_cancel w) hw

/-- A passive bot only listens: as long as there are no orders, it makes only the calls by which
rooms are entered, no welcome room is open, and its records are those that its history tells of. -/
theorem passive_listens (selfId : MemberId) (s : ConfigStore) (server : Surroundings.Server)
    (hpassive : s.config.bot.passive = true) (xs : List Happening)
    (hxs : (World.initial (Bot.initial selfId s) server).undirected xs = true) :
    let w := (World.initial (Bot.initial selfId s) server).after xs
    (∀ c ∈ w.history.filterMap Occurrence.call?, c.isEntering = true) ∧
      w.bot.welcome.size = 0 ∧ w.bot.rooms = told s.config w.history := by
  have hall : ∀ (ys : List Happening) (v : World), v.undirected ys = true → Listening s [] v →
      Listening s [] (v.after ys) := by
    intro ys
    induction ys with
    | nil => exact fun _ _ hv => hv
    | cons y ys ih =>
      intro v hys hv
      obtain ⟨hy, hrest⟩ : y.orders v = false ∧ World.undirected (y.run.run v).2 ys = true := by
        simpa [World.undirected] using hys
      exact ih _ hrest (listening_happening hpassive hy hv)
  have hbegin : Listening s [] (World.initial (Bot.initial selfId s) server) :=
    ⟨rfl, rfl, rfl, nofun, nofun⟩
  intro w
  have hw : Listening s [] w := hall xs _ hxs hbegin
  exact ⟨hw.calls, by rw [WelcomeRegistry.size, hw.welcome]; rfl, hw.rooms⟩

end

namespace Sample

/-- A passive bot that monitors the lobby. -/
def listener : ConfigStore :=
  .inMemory { config with
    admins := .ofList [alice]
    bot := { BotConfig.default with passive := true }
    rooms := .ofList [(lobby, RoomConfig.mk (.ofList [RoomMode.administration]) ∅)] }

/-- The bot starts. A member who is no admin says what would be a command and is banned by the
moderator, and then the bot is out of the lobby; it comes back later, and a sweep begins. -/
def lurking : List Happening :=
  [.start 0, .batch ⟨"s1", .ofList [(lobby, [.chatMessage mallory "!help" 1, ban])], ∅, 0⟩,
    .batch ⟨"s2", ∅, .ofList [lobby], 0⟩, .work 3, .elapse 5000, .wake, .work 3, .work 1]

end Sample

section

attribute [local instance] Sample.surroundings

/-- Meanwhile the bot enters the lobby twice, with three calls each time, and that is all. -/
theorem lurking_only_listens :
    let w₀ : World := World.initial (Bot.initial ⟨"@warden:x"⟩ Sample.listener) ()
    Sample.listener.config.bot.passive = true ∧ w₀.undirected Sample.lurking = true ∧
      ((∀ c ∈ (w₀.after Sample.lurking).history.filterMap Occurrence.call?, c.isEntering = true) ∧
        (w₀.after Sample.lurking).bot.welcome.size = 0 ∧
        (w₀.after Sample.lurking).bot.rooms =
          told Sample.listener.config (w₀.after Sample.lurking).history) ∧
      ((w₀.after Sample.lurking).history.filterMap Occurrence.call?).length = 6 := by
  have hundirected : (World.initial (Bot.initial ⟨"@warden:x"⟩ Sample.listener) ()).undirected
      Sample.lurking = true := by decide +kernel
  have hlistens := passive_listens ⟨"@warden:x"⟩ Sample.listener () rfl Sample.lurking hundirected
  dsimp only at hlistens ⊢
  exact ⟨rfl, hundirected, hlistens, by decide +kernel⟩

end

end RoomModeration
