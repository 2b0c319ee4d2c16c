import RoomModeration.Proofs.Parallel
import RoomModeration.Proofs.Room.Welcoming
import RoomModeration.Proofs.Run

/-!
# Worlds that cannot be told apart

A likeness says nothing of how welcome rooms are opened and closed. A relation that the parts of
these respect as well is an affinity, and then it is respected by all jobs but those of reading the
feed and coming back to a room. If it is also respected by the parts of starts and of reading the
feed, it is a resemblance.

What is put off here is the work of the bot itself; coming back to a room is put off nowhere but
where the bot learns that it is out of it, and batches are where it learns of that.

## Main definitions

* `Affinity` : a relation that the parts of opening and closing welcome rooms respect as well.
* `Resemblance` : a relation that the parts of starts and of reading the feed respect as well.

## Main results

* `Affinity.evict`, `Affinity.welcomeNewcomer` : how welcome rooms are closed and opened.
* `Affinity.chore` : what a job leads to that is not about reading the feed or coming back.
* `Resemblance.start` : what a start leads to.
* `Resemblance.job` : what a job leads to that is not about coming back.
-/

namespace RoomModeration

open BotM RoomModeration.Bot

variable [Surroundings] {R : World → World → Prop} {α β ε : Type}

/-- A relation of worlds is an affinity if these parts of steps respect it besides those of a
likeness: calls for new rooms, counting closed welcome rooms, changes that leave the configuration
and the cursor alone, and putting off work for a while, other than coming back to a room and reading
the feed; and if it holds only between worlds with the same clock. -/
structure Affinity (R : World → World → Prop) : Prop extends Likeness R where
  dryRun : ∀ {v w : World}, R v w →
    v.bot.config.actions.dryRun = w.bot.config.actions.dryRun
  clock : ∀ {v w : World}, R v w → v.now = w.now
  create : ∀ request, Respects R (BotM.call (.create request)).run
  evicted : ∀ why, Respects R (BotM.count (.welcomeEvictions why))
  alter : ∀ f : Bot → Bot, (∀ b, (f b).outward = f b.outward) →
    (∀ b, (f b).store = b.store ∧ (f b).cursor = b.cursor) → Respects R (BotM.change f)
  sleep : ∀ (ms : Nat) (job : Job), job.isReturn = false → job.isFeed = false →
    Respects R (BotM.sleep ms job)

/-- An affinity is a resemblance if these parts of steps respect it as well: counting starts,
putting off what has to be done to read the feed, writing down what the feed has brought and asking
for more of it; and if it holds only between worlds with as many starts. -/
structure Resemblance (R : World → World → Prop) : Prop extends Affinity R where
  starts : ∀ {v w : World}, R v w → v.starts = w.starts
  restart : ∀ n : Nat, Respects R (modify fun w => { w with starts := n } : BotM Unit)
  spawnFeed : ∀ job : Job, job.isFeed = true → Respects R (BotM.spawn job)
  sleepFeed : ∀ (ms : Nat) (job : Job), job.isFeed = true → Respects R (BotM.sleep ms job)
  record : ∀ o : Occurrence, o.call? = none → Respects R (BotM.record o)
  poll : ∀ start since fullState, Respects R (pollFeed start since fullState)

/-! ### The registry of welcome rooms -/

omit [Surroundings] in
theorem Bot.unregister_outward (b : Bot) (room : RoomId) :
    b.outward.unregister room = ((b.unregister room).1, (b.unregister room).2.outward) := by
  obtain ⟨selfId, store, rooms, welcome, readyTs, cursor, shutdown, tracked, gauge⟩ := b
  unfold Bot.unregister Bot.outward
  dsimp only
  rcases welcome.remove room with ⟨_ | entry, rest⟩
  · rfl
  · rfl

omit [Surroundings] in
theorem Bot.cursor_unregister (b : Bot) (room : RoomId) :
    (b.unregister room).2.cursor = b.cursor := by
  unfold Bot.unregister
  split
  · rfl
  · rfl

/-- Takes the entry of a welcome room out of the registry. -/
def takeEntry (room : RoomId) : BotM (Option WelcomeRoom) := do
  let bot ← getBot
  change fun b => (b.unregister room).2
  return (bot.unregister room).1

/-- Whoever takes a bot without an entry takes the entry. -/
theorem run_taking (room : RoomId) (missing : BotM β) (taken : WelcomeRoom → BotM β) (w : World) :
    (do
      match (← getBot).unregister room with
      | (none, _) => missing
      | (some entry, bot) => do
        change fun _ => bot
        taken entry : BotM β).run w =
      (takeEntry room >>= fun
        | none => missing
        | some entry => taken entry).run w := by
  unfold takeEntry
  rw [run_bind, run_bind, run_bind, run_getBot]
  dsimp only
  cases hregistered : w.bot.welcome.contains room with
  | true =>
    obtain ⟨entry, hentry⟩ := Bot.unregister_of_contains hregistered
    rw [hentry]
    rfl
  | false =>
    have hsame : (BotM.change fun b => (b.unregister room).2).run w = ((), w) := by
      change ((), { w with bot := (w.bot.unregister room).2 }) = ((), w)
      rw [Bot.unregister_of_not_contains hregistered]
    rw [run_bind, hsame, Bot.unregister_of_not_contains hregistered]
    rfl

/-- Closing a welcome room begins with taking its entry. -/
theorem run_evict (room : RoomId) (why : Eviction) (w : World) :
    (evict room why).run w = (takeEntry room >>= fun
      | none => return false
      | some entry => do
        count (.welcomeEvictions why.word)
        note (.welcomeClosing room entry.member why)
        if let .error e ← (attempt "leave" (.leave room)).run then note (.welcomeNotLeft room e)
        return true).run w :=
  run_taking room _ _ w

/-- Learning that the bot is out of a room begins with taking its entry. -/
theorem run_handleLeft (room : RoomId) (w : World) :
    (handleLeft room).run w = (takeEntry room >>= fun
      | none => do
        endRecord room
        let config ← getConfig
        if config.isMonitored room then do
          note (.rejoinScheduled room config.bot.rejoinDelaySecs)
          spawn (.awaitRejoin room config.bot.rejoinDelaySecs)
          return true
        else do
          note (.unmonitoredRoomGone room)
          return false
      | some _ => do
        note (.welcomeClosedRemotely room)
        count (.welcomeEvictions "remote")
        return false).run w := by
  rw [← run_taking]
  unfold handleLeft
  rw [run_bind, run_bind, run_getBot]
  rcases w.bot.unregister room with ⟨_ | entry, bot⟩
  · rfl
  · rfl

/-! ### The parts of a start -/

/-- What a start does before the bot is ready. -/
def prepare : BotM Unit := do
  let bot ← getBot
  let passive := bot.config.bot.passive
  note (.botStarting bot.selfId passive bot.config.actions.dryRun)
  if !passive then leaveForeignRooms
  let joined ← joinEach (← getConfig).monitoredRooms
  note (.monitoredRoomsJoined joined (← getConfig).monitoredRooms.length)
  if !passive then discard reconcile

/-- Becomes ready, and begins the lasting work. -/
def becomeReady (ts : Timestamp) : BotM Unit := do
  change fun b => { b with readyTs := ts }
  let number := (← get).starts
  modify fun w => { w with starts := number + 1 }
  spawn (.beginFeed number)
  spawn (.beginSweeps number)
  spawn (.beginHeartbeats number)

/-- A bot that has prepared everything becomes ready. -/
theorem run_start_eq (ts : Timestamp) (w : World) :
    (Bot.start ts).run w = (prepare >>= fun _ => becomeReady ts).run w := by
  unfold Bot.start prepare
  cases hpassive : w.bot.config.bot.passive with
  | true =>
    simp only [run_bind, run_getBot, hpassive]
    rfl
  | false =>
    simp only [run_bind, run_getBot, hpassive]
    rfl

/-! ### Steps -/

theorem Respects.congr {x y : BotM α} (h : ∀ w, x.run w = y.run w) (hy : Respects R y) :
    Respects R x := by
  intro v w hR
  rw [h v, h w]
  exact hy hR

/-- A look at the world shows the same of related worlds, if only this is looked at. -/
theorem Respects.look {γ : Type} {p : World → γ} (hp : ∀ v w : World, R v w → p v = p w)
    {f : γ → BotM β} (hf : ∀ c, Respects R (f c)) :
    Respects R ((get : BotM World) >>= fun w => f (p w)) := by
  intro v w hR
  rw [run_bind, run_bind, run_get, run_get]
  dsimp only
  rw [hp v w hR]
  exact hf _ hR

namespace Affinity

section

variable (h : Affinity R)

include h

theorem look_clock {f : Nat → BotM β} (hf : ∀ now, Respects R (f now)) :
    Respects R ((get : BotM World) >>= fun w => f w.now) :=
  Respects.look (p := World.now) (fun _ _ hR => h.clock hR) hf

/-- What is done after a look at the bot may depend on whether it runs dry. -/
theorem look_dry {f : Bot → BotM β}
    (hseen : ∀ b, f b = f (b.outward.withDryRun b.config.actions.dryRun))
    (hf : ∀ b, Respects R (f b)) : Respects R (getBot >>= f) := by
  intro v w hR
  rw [run_bind, run_bind, run_getBot, run_getBot]
  dsimp only
  rw [hseen v.bot, hseen w.bot, h.outward hR, h.dryRun hR]
  exact hf _ hR

theorem attempt (action : String) (c : Call) (hc : c.isModeration = false) :
    Respects R (attempt action c).run := by
  cases c with
  | create request =>
    refine .bind (h.create request) fun result => ?_
    cases result with
    | ok _ => exact .pure _
    | error e => exact .bind (h.count _ nofun) fun _ => .pure _
  | _ => exact h.toLikeness.attempt action _ hc nofun

/-! ### Welcome rooms -/

theorem takeEntry (room : RoomId) : Respects R (takeEntry room) := by
  refine h.look (fun b => ?_) fun b => ?_
  · rw [b.unregister_outward]
  · refine .bind (h.alter _ (fun b => ?_) fun b => ?_) fun _ => .pure _
    · rw [b.unregister_outward]
    · exact ⟨(b.unregister_keeps room).2.1, b.cursor_unregister room⟩

theorem evict (room : RoomId) (why : Eviction) : Respects R (evict room why) := by
  refine .congr (run_evict room why) (.bind (h.takeEntry room) fun taken => ?_)
  cases taken with
  | none => exact .pure _
  | some entry =>
    refine .bind (h.evicted _) fun _ => .bind (h.note _) fun _ =>
      .bind (h.attempt "leave" (.leave room) rfl) fun result => ?_
    cases result with
    | ok _ => exact .pure _
    | error e => exact .bind (h.note _) fun _ => .pure _

/-- Learning that the bot is out of a room is respected if putting off coming back is. -/
theorem handleLeft {room : RoomId}
    (hreturn : ∀ delay, Respects R (BotM.spawn (.awaitRejoin room delay))) :
    Respects R (handleLeft room) := by
  refine .congr (run_handleLeft room) (.bind (h.takeEntry room) fun taken => ?_)
  cases taken with
  | none =>
    refine .bind (h.endRecord room) fun _ => h.look_config (fun _ => rfl) fun config => ?_
    split
    · exact .bind (h.note _) fun _ => .bind (hreturn _) fun _ => .pure _
    · exact .bind (h.note _) fun _ => .pure _
  | some entry => exact .bind (h.note _) fun _ => .bind (h.evicted _) fun _ => .pure _

theorem sweep (now : Nat) : Respects R (Bot.sweep now) := by
  have hall : ∀ entries, Respects R (evictAll entries) := by
    intro entries
    induction entries with
    | nil => exact .pure _
    | cons entry rest ih => exact .bind (h.evict _ _) fun _ => .bind ih fun _ => .pure _
  refine h.look (fun _ => rfl) fun bot => .bind (hall _) fun evicted => ?_
  dsimp only
  split
  · exact h.look (fun _ => rfl) fun _ => .bind (h.note _) fun _ => .pure _
  · exact .pure _

theorem greet (room source : RoomId) (member : MemberId) :
    Respects R (greet room source member) := by
  refine h.look_config (fun _ => rfl) fun config => ?_
  cases config.welcomeTemplate? source with
  | none => exact .pure _
  | some template =>
    exact .bind (h.displayName source) fun _ => .discard (h.send _ _)

theorem createWelcome (source : RoomId) (member : MemberId) :
    Respects R (createWelcome source member).run := by
  refine h.look_config_except (fun _ => rfl) fun config =>
    .bind_except (h.attempt "create" _ rfl) fun room => ?_
  have hregister : ∀ now, Respects R (BotM.change (·.register ⟨room, member, source, now⟩)) :=
    fun _ => h.alter _ (fun _ => rfl) fun _ => ⟨rfl, rfl⟩
  exact h.look_clock fun now => .bind_except (.lift (hregister now)) fun _ =>
    .bind_except (.lift (h.note _)) fun _ => .bind_except (.lift (h.greet _ _ _)) fun _ =>
      .pure_except _

theorem welcomeNewcomer (source : RoomId) (member : MemberId) :
    Respects R (welcomeNewcomer source member) := by
  refine .bind (h.createWelcome source member) fun result => ?_
  cases result with
  | ok _ => exact .pure _
  | error e => exact h.note _

/-! ### Leaving rooms, and other chores -/

theorem leaveForeignRooms : Respects R leaveForeignRooms := by
  have heach : ∀ rooms, Respects R (leaveEach rooms) := by
    intro rooms
    induction rooms with
    | nil => exact .pure _
    | cons room rest ih =>
      refine .bind (h.leaveRoom room) fun result => ?_
      cases result with
      | ok _ => exact ih
      | error e => exact .bind (h.note _) fun _ => ih
  refine .bind (h.attempt "joined_rooms" .joinedRooms rfl) fun result => ?_
  cases result with
  | ok rooms => exact h.look_config (fun _ => rfl) fun config => heach _
  | error e => exact h.note _

theorem prepare : Respects R prepare := by
  refine h.look_dry (fun _ => rfl) fun bot => .bind (h.note _) fun _ => ?_
  refine .first_if h.leaveForeignRooms fun _ => h.look_config (fun _ => rfl) fun _ => ?_
  refine .bind (h.joinEach _) fun joined => h.look_config (fun _ => rfl) fun _ => ?_
  refine .bind (h.note _) fun _ => ?_
  split
  · exact .discard h.reconcile
  · exact .pure _

/-- Jobs other than reading the feed and coming back to a room. -/
theorem chore {job : Job} (hreturn : job.isReturn = false) (hfeed : job.isFeed = false) :
    Respects R job.run := by
  cases job with
  | greet source member => exact h.welcomeNewcomer source member
  | closeWelcome room => exact .discard (h.evict room _)
  | awaitRejoin | rejoin => cases hreturn
  | awaitReboot delay => exact h.sleep _ _ rfl rfl
  | reboot => exact .bind (h.note _) fun _ => h.alter _ (fun _ => rfl) fun _ => ⟨rfl, rfl⟩
  | beginFeed | poll | receive => cases hfeed
  | beginSweeps start => exact h.look_config (fun _ => rfl) fun _ => h.sleep _ _ rfl rfl
  | sweep start period =>
    exact h.look_clock fun now => .bind (.discard (h.sweep now)) fun _ => h.sleep _ _ rfl rfl
  | beginHeartbeats start => exact h.look_config (fun _ => rfl) fun _ => h.sleep _ _ rfl rfl
  | heartbeat start period =>
    exact .bind (h.alter _ (fun _ => rfl) fun _ => ⟨rfl, rfl⟩) fun _ => h.sleep _ _ rfl rfl

end

end Affinity

namespace Resemblance

section

variable (h : Resemblance R)

include h

theorem look_starts {f : Nat → BotM β} (hf : ∀ starts, Respects R (f starts)) :
    Respects R ((get : BotM World) >>= fun w => f w.starts) :=
  Respects.look (p := World.starts) (fun _ _ hR => h.starts hR) hf

theorem start (ts : Timestamp) : Respects R (Bot.start ts) := by
  have hlasting : ∀ number : Nat, Respects R (do
      modify fun w => { w with starts := number + 1 }
      BotM.spawn (.beginFeed number)
      BotM.spawn (.beginSweeps number)
      BotM.spawn (.beginHeartbeats number) : BotM Unit) :=
    fun number => .bind (h.restart _) fun _ => .bind (h.spawnFeed _ rfl) fun _ =>
      .bind (h.spawn _ rfl rfl) fun _ => h.spawn _ rfl rfl
  refine .congr (run_start_eq ts) (.bind h.prepare fun _ => ?_)
  exact .bind (h.alter _ (fun _ => rfl) fun _ => ⟨rfl, rfl⟩) fun _ => h.look_starts hlasting

theorem receiveAnswer (start : Nat) (since : Option String) (fullState : Bool)
    {result : Except ActionError FeedBatch}
    (hbatch : ∀ batch, result = .ok batch → Respects R (applyBatch batch)) :
    Respects R (receiveAnswer start since fullState result) := by
  refine .bind (h.record _ rfl) fun _ => ?_
  cases result with
  | ok batch => exact .bind (hbatch batch rfl) fun _ => h.sleepFeed _ _ rfl
  | error e =>
    exact .bind (h.count _ nofun) fun _ => h.look_config (fun _ => rfl) fun _ =>
      .bind (h.note _) fun _ => h.sleepFeed _ _ rfl

/-- Applying a batch is respected if the departures and the new place in the feed are. -/
theorem applyBatch {batch : FeedBatch} (hleft : ∀ room, Respects R (Bot.handleLeft room))
    (hcursor : Respects R (BotM.change fun b => { b with cursor := some batch.nextBatch })) :
    Respects R (Bot.applyBatch batch) := by
  have hrooms : Respects R (batch.joined.toList.forM fun entry => Bot.applyRoom entry.1 entry.2) :=
    .each fun entry _ => h.applyRoom entry.1 entry.2
  have hdepartures : Respects R
      (batch.left.toList.forM fun room => Functor.discard (Bot.handleLeft room)) :=
    .each fun room _ => .discard (hleft room)
  exact .bind (h.record _ rfl) fun _ => h.during _ <|
    .bind (h.count _ nofun) fun _ => .bind (h.countBy _ _ nofun) fun _ =>
      .first_if (h.note _) fun _ => .bind hrooms fun _ => .bind hdepartures fun _ => hcursor

/-- Jobs other than coming back to a room, if applying the batch that they bring is respected. -/
theorem job {job : Job} (hjob : job.isReturn = false)
    (hbatch : ∀ batch, job.batch? = some batch → Respects R (Bot.applyBatch batch)) :
    Respects R job.run := by
  cases job with
  | beginFeed start => exact .bind (h.note _) fun _ => h.sleepFeed _ _ rfl
  | poll start since fullState => exact h.poll start since fullState
  | receive start since fullState result =>
    refine h.receiveAnswer start since fullState fun batch hresult => hbatch batch ?_
    rw [hresult]
    rfl
  | _ => exact h.chore hjob rfl

/-- All jobs, if waiting before coming back to a room is respected as well. -/
theorem anyJob (hwait : ∀ ms room, Respects R (BotM.sleep ms (.rejoin room)))
    (hbatch : ∀ batch, Respects R (Bot.applyBatch batch)) (job : Job) : Respects R job.run := by
  cases hjob : job.isReturn with
  | false => exact h.job hjob fun batch _ => hbatch batch
  | true =>
    cases job with
    | awaitRejoin room delay => exact hwait _ room
    | rejoin room => exact h.rejoin room
    | _ => cases hjob

end

end Resemblance

end RoomModeration
