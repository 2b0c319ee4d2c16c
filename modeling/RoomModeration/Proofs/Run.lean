import RoomModeration.Bot.Schedule
import RoomModeration.Proofs.Keeping
import RoomModeration.Proofs.Upkeep

/-!
# Runs of the bot

A run begins with a bot that has done nothing yet. Then it is started, batches and messages arrive,
time passes, the work of a start is cancelled, and jobs that are ready are done, each to its end
before the next, in any order and as often as one likes. Whatever the homeserver answers is part of
the world. The driver of the bot does its jobs in one of those orders.

Whatever happens is done as a whole, with all the calls it makes. So what is shown of every run is
shown of the worlds between two happenings; interleavings at the calls inside of one, such as a
batch that names a room as left while a job waits for the answer to its joining this room, are no
runs here.

## Main definitions

* `Happening` : what can happen.
* `Happening.batch?` : the batch that is applied, if one is.
* `Reachable` : the worlds that a run leads to.
* `Subsists`, `Endures`, `Lasts` : a property of worlds is kept where it might be lost.

## Main results

* `Reachable.settle`, `Reachable.advance`, `Reachable.serve` : the driver stays within runs.
* `Endures.happening`, `Lasts.happening` : whatever happens keeps what endures or lasts.
* `Reachable.invariant` : what is kept by whatever happens holds in every reachable world.
-/

namespace RoomModeration

open BotM RoomModeration.Bot

/-- What can happen to the bot. -/
inductive Happening where
  /-- It is started. -/
  | start (readyTs : Timestamp)
  /-- A batch arrives. -/
  | batch (batch : FeedBatch)
  /-- A message arrives. -/
  | chat (room : RoomId) (sender : MemberId) (body : String)
  /-- The job at this place of the queue is done. -/
  | work (place : Nat)
  /-- Time passes. -/
  | elapse (ms : Nat)
  /-- What is due becomes ready. -/
  | wake
  /-- The work of the latest start is cancelled. -/
  | cancel

/-- The batch that a job has to apply, if it has one. -/
def Job.batch? : Job → Option FeedBatch
  | receive _ _ _ (.ok batch) => some batch
  | _ => none

variable [Surroundings] {w : World}

/-- Does the job at a place of the queue, if there is one. -/
def workAt (place : Nat) : BotM Unit := do
  let w ← get
  match w.ready[place]? with
  | none => return ()
  | some job => do
    set { w with ready := w.ready.eraseIdx place }
    job.run

/-- What a happening leads to. -/
def Happening.run : Happening → BotM Unit
  | .start readyTs => Bot.start readyTs
  | .batch arrived => applyBatch arrived
  | .chat room sender body => discard (receiveChat room sender body)
  | .work place => workAt place
  | .elapse ms => modify fun w => { w with now := w.now + ms }
  | .wake => Bot.wake
  | .cancel => Bot.cancel

theorem run_work_of_none {place : Nat} (h : w.ready[place]? = none) :
    ((Happening.work place).run.run w).2 = w := by
  unfold Happening.run workAt
  rw [run_bind, run_get]
  dsimp only
  rw [h]
  rfl

/-- A job is taken out of the queue before it is done. -/
theorem run_work_of_some {place : Nat} {job : Job} (h : w.ready[place]? = some job) :
    ((Happening.work place).run.run w).2 =
      (job.run.run { w with ready := w.ready.eraseIdx place }).2 := by
  unfold Happening.run workAt
  rw [run_bind, run_get]
  dsimp only
  rw [h]
  rfl

/-- The batch that is applied, if one is: one that arrives, or one that a job has to apply. -/
def Happening.batch? (w : World) : Happening → Option FeedBatch
  | .batch arrived => some arrived
  | .work place => w.ready[place]?.bind Job.batch?
  | _ => none

/-- The worlds that a run leads to. -/
inductive Reachable : World → Prop
  | initial (selfId : MemberId) (store : ConfigStore) (server : Surroundings.Server) :
      Reachable (World.initial (Bot.initial selfId store) server)
  | step {w : World} (h : Reachable w) (x : Happening) : Reachable (x.run.run w).2

/-- What several happenings lead to, one after the other. -/
def World.after (w : World) (xs : List Happening) : World :=
  xs.foldl (fun w x => (x.run.run w).2) w

theorem World.after_append (w : World) (xs ys : List Happening) :
    w.after (xs ++ ys) = (w.after xs).after ys :=
  List.foldl_append

theorem Reachable.after (h : Reachable w) (xs : List Happening) : Reachable (w.after xs) := by
  induction xs generalizing w with
  | nil => exact h
  | cons x xs ih => exact ih (h.step x)

/-! ### The driver -/

omit [Surroundings] in
theorem perm_insertTimer (timer : Timer) (timers : List Timer) :
    (insertTimer timer timers).Perm (timer :: timers) := by
  induction timers with
  | nil => exact .refl _
  | cons other rest ih =>
    unfold insertTimer
    split
    · exact (ih.cons other).trans (.swap _ _ _)
    · exact .refl _

omit [Surroundings] in
/-- Timers are put in order, and that is all. -/
theorem perm_byDeadline (timers : List Timer) : (byDeadline timers).Perm timers := by
  have hall : ∀ (rest sorted : List Timer),
      (rest.foldl (fun sorted timer => insertTimer timer sorted) sorted).Perm (sorted ++ rest) := by
    intro rest
    induction rest with
    | nil => exact fun sorted => .of_eq (List.append_nil sorted).symm
    | cons timer rest ih =>
      intro sorted
      refine (ih _).trans (((perm_insertTimer timer sorted).append_right rest).trans ?_)
      exact List.perm_middle.symm
  exact hall timers []

namespace Reachable

/-- Doing what is ready stays within runs. -/
theorem settle (h : Reachable w) (fuel : Nat) : Reachable ((Bot.settle fuel).run w).2 := by
  induction fuel generalizing w with
  | zero => exact h
  | succ fuel ih =>
    unfold Bot.settle
    rw [run_bind]
    have hwork := h.step (.work 0)
    obtain ⟨bot, server, now, ready, timers, starts, counters, history, activities, log⟩ := w
    cases ready with
    | nil => exact h
    | cons job rest => exact ih hwork

/-- Moving the clock forward stays within runs. -/
theorem moveTo (h : Reachable w) (moment : Nat) :
    Reachable { w with now := max w.now moment } := by
  have helapse : Reachable { w with now := w.now + (moment - w.now) } :=
    h.step (.elapse (moment - w.now))
  have hnow : w.now + (moment - w.now) = max w.now moment := by omega
  rwa [hnow] at helapse

/-- Doing what becomes due stays within runs. -/
theorem advanceTo (h : Reachable w) (stops : Bot → Bool) (limit jobs fuel : Nat) :
    Reachable ((Bot.advanceTo stops limit jobs fuel).run w).2 := by
  induction fuel generalizing w with
  | zero => exact h
  | succ fuel ih =>
    unfold Bot.advanceTo
    rw [run_bind]
    have hsettled := h.settle jobs
    generalize ((Bot.settle jobs).run w).2 = v at hsettled
    rw [run_bind, run_getBot]
    dsimp only
    split
    · exact hsettled
    · rw [run_bind, run_get]
      dsimp only
      cases nextDeadline? v limit with
      | none => exact hsettled.moveTo limit
      | some deadline => exact ih ((hsettled.moveTo deadline).step .wake)

/-- Letting time pass stays within runs. -/
theorem advance (h : Reachable w) (ms jobs : Nat) : Reachable ((Bot.advance ms jobs).run w).2 :=
  h.advanceTo _ _ _ _

/-- Working until someone asks for the end stays within runs. -/
theorem serve (h : Reachable w) (ms jobs : Nat) : Reachable ((Bot.serve ms jobs).run w).2 :=
  h.advanceTo _ _ _ _

end Reachable

/-! ### What a run keeps -/

variable {I : World → Prop}

theorem keeps_applyRoom (hI : Undisturbed I) (room : RoomId) {events : List Event}
    (hevent : ∀ e ∈ events, Keeps I (applyEvent room e)) : Keeps I (applyRoom room events) := by
  refine .bind .getBot fun bot => ?_
  split
  · split
    · exact .spawn hI _
    · exact .pure _
  · split
    · exact .note hI _
    · exact .forM hevent

/-- The permission to read the feed: to write down what it brings and to move on in it. -/
def Reading : Permission where
  Allows _
    | .aside | .report | .change (.cursorMoved _) => True
    | .call _ | .change _ => False
  aside _ := trivial

/-- Reading the feed is roaming. -/
instance : Reading.Within Roaming where
  allows {_ d} h := by
    cases d with
    | aside | report => trivial
    | call => exact h.elim
    | change c =>
      cases c with
      | cursorMoved => trivial
      | _ => exact h.elim

/-- What a batch brings about, it brings about when it is written down or when its departures are
taken up. -/
theorem brings_applyBatch {P Q R : World → Prop} (hQ : Undisturbed Q) (hR : Undisturbed R)
    (batch : FeedBatch) (hrecord : Brings P Q (record (.applied batch)))
    (hevent : ∀ entry ∈ batch.joined.toList, ∀ e ∈ entry.2, Keeps Q (applyEvent entry.1 e))
    (hleft : Brings Q R (batch.left.toList.forM fun room => discard (handleLeft room)))
    (hcursor : Keeps R (change fun b => { b with cursor := some batch.nextBatch })) :
    Brings P R (applyBatch batch) := by
  have hcount : ∀ c n, c.family ≠ .welcomeEvictions → Keeps Q (countBy c n) :=
    fun c n hc => .countBy hQ hc n
  refine .bind hrecord fun _ =>
    .during hQ hR _ (.bind (hcount _ _ nofun) fun _ => .bind (hcount _ _ nofun) fun _ => ?_)
  refine .first_if (Keeps.note hQ _) fun _ => .bind (Q := Q) ?_ fun _ =>
    .bind hleft fun _ => hcursor
  exact Keeps.forM fun entry hentry => keeps_applyRoom hQ entry.1 (hevent entry hentry)

theorem keeps_applyBatch (hI : Reading.Preserves I) (batch : FeedBatch)
    (hevent : ∀ entry ∈ batch.joined.toList, ∀ e ∈ entry.2, Keeps I (applyEvent entry.1 e))
    (hleft : ∀ room ∈ batch.left.toList, Keeps I (handleLeft room)) :
    Keeps I (applyBatch batch) := by
  have hrecord : Does Reading (record (.applied batch)) := .record rfl fun _ => trivial
  have hcursor : Does Reading (change fun b => { b with cursor := some batch.nextBatch }) :=
    .change (.cursorMoved batch.nextBatch) (fun _ => rfl) fun _ => trivial
  have hdepart : Keeps I (batch.left.toList.forM fun room => discard (handleLeft room)) :=
    .forM fun room hroom => .discard (hleft room hroom)
  exact brings_applyBatch hI.undisturbed hI.undisturbed batch (hrecord.keeps hI) hevent hdepart
    (hcursor.keeps hI)

/-- A poll is answered at once, and the answer is taken up when it has arrived. -/
theorem run_pollFeed (start : Nat) (since : Option String) (fullState : Bool) (w : World) :
    let request : PollRequest := ⟨since, w.bot.config.bot.syncTimeoutMs, fullState⟩
    let polled := Surroundings.homeserver.poll request w.server
    (pollFeed start since fullState).run w = (do
      noteAll polled.1.notices
      record (.polled w.bot request)
      sleep polled.1.delayMs (.receive start since fullState polled.1.result)).run
        { w with server := polled.2 } := rfl

theorem keeps_pollFeed (hI : Undisturbed I)
    (hreport : ∀ bot request, Keeps I (record (.polled bot request))) (start : Nat)
    (since : Option String) (fullState : Bool) : Keeps I (pollFeed start since fullState) := by
  intro w hw
  have hask : ∀ server, Idle w { w with server := server } :=
    fun _ => ⟨rfl, rfl, fun _ => rfl⟩
  have hrest : ∀ (answer : PollAnswer) (request : PollRequest), Keeps I (do
      noteAll answer.notices
      record (.polled w.bot request)
      sleep answer.delayMs (.receive start since fullState answer.result)) := by
    intro answer request
    exact .bind (.noteAll hI _) fun _ => .bind (hreport _ _) fun _ => .sleep hI _ _
  exact hrest _ _ _ (hI (hask _) hw)

theorem keeps_leaveForeignRooms (hI : Undisturbed I)
    (hask : Keeps I (attempt "joined_rooms" .joinedRooms).run)
    (hleave : ∀ room, Keeps I (leaveRoom room).run) : Keeps I leaveForeignRooms := by
  have heach : ∀ rooms, Keeps I (leaveEach rooms) := by
    intro rooms
    induction rooms with
    | nil => exact .pure _
    | cons room rest ih =>
      refine .bind (hleave room) fun result => ?_
      cases result with
      | ok _ => exact ih
      | error e => exact .bind (.note hI _) fun _ => ih
  refine .bind hask fun result => ?_
  cases result with
  | ok rooms => exact .bind .getConfig fun config => heach _
  | error e => exact .note hI _

theorem keeps_joinEach (hI : Undisturbed I) {rooms : List RoomId}
    (hjoin : ∀ room ∈ rooms, Keeps I (joinRoom room).run) : Keeps I (joinEach rooms) := by
  induction rooms with
  | nil => exact .pure _
  | cons room rest ih =>
    have hrest : Keeps I (joinEach rest) :=
      ih fun other hother => hjoin other (List.mem_cons_of_mem _ hother)
    refine .bind (hjoin room List.mem_cons_self) fun result => ?_
    cases result with
    | ok _ => exact .bind hrest fun _ => .pure _
    | error e => exact .bind (.note hI _) fun _ => hrest

/-- A room is entered anew only if it is still monitored. -/
theorem keeps_rejoin (hI : Undisturbed I) (room : RoomId)
    (hjoin : ∀ w : World, w.bot.config.isMonitored room = true → I w →
      I ((joinRoom room).run.run w).2) : Keeps I (Bot.rejoin room) := by
  intro w hw
  unfold Bot.rejoin
  rw [run_bind, run_getConfig]
  dsimp only
  cases hroom : w.bot.config.isMonitored room with
  | false => exact Keeps.note hI _ w hw
  | true =>
    rw [Bool.not_true, if_neg Bool.false_ne_true, run_bind]
    have hjoined := hjoin w hroom hw
    cases hrun : (joinRoom room).run.run w with
    | mk result v =>
      rw [hrun] at hjoined
      cases result with
      | ok _ => exact Keeps.note hI _ v hjoined
      | error e => exact Keeps.note hI _ v hjoined

theorem keeps_sweep (hI : Undisturbed I) (hevict : ∀ room why, Keeps I (evict room why))
    (now : Nat) : Keeps I (Bot.sweep now) := by
  have hall : ∀ entries, Keeps I (evictAll entries) := by
    intro entries
    induction entries with
    | nil => exact .pure _
    | cons entry rest ih => exact .bind (hevict _ _) fun _ => .bind ih fun _ => .pure _
  refine .bind .getBot fun bot => .bind (hall _) fun evicted => ?_
  dsimp only
  split
  · exact .bind .getBot fun _ => .bind (.note hI _) fun _ => .pure _
  · exact .pure _

/-- A property of worlds subsists: it does not mind that nothing happens, and it is kept where the
bot asks or shows something, when the feed has brought something, when a batch is taken up, when the
ban lists are united, and when rooms are entered or left. -/
structure Subsists (I : World → Prop) : Prop where
  idle : Undisturbed I
  report : ∀ o : Occurrence, o.call? = none → (∀ batch, o ≠ .applied batch) → Keeps I (record o)
  ask : Keeps I (attempt "joined_rooms" .joinedRooms).run
  measure : Keeps I heartbeat
  shutdown : Keeps I requestShutdown
  batch : ∀ arrived, Keeps I (applyBatch arrived)
  reconcile : Keeps I reconcile
  join : Keeps I (getConfig >>= fun config => joinEach config.monitoredRooms)
  rejoin : ∀ room, Keeps I (Bot.rejoin room)
  leave : ∀ room, Keeps I (leaveRoom room).run

/-- It endures if it is also kept when welcome rooms are opened and closed. -/
structure Endures (I : World → Prop) : Prop extends Subsists I where
  evict : ∀ room why, Keeps I (evict room why)
  welcome : ∀ source member, Keeps I (welcomeNewcomer source member)

/-- Whether a job is about opening or closing welcome rooms. -/
def Job.isHosting : Job → Bool
  | greet .. | closeWelcome _ | sweep .. => true
  | _ => false

namespace Subsists

theorem receiveAnswer (h : Subsists I) (start : Nat) (since : Option String) (fullState : Bool)
    (result : Except ActionError FeedBatch) :
    Keeps I (receiveAnswer start since fullState result) := by
  refine .bind (h.report _ rfl fun _ => nofun) fun _ => ?_
  cases result with
  | ok batch => exact .bind (h.batch batch) fun _ => .sleep h.idle _ _
  | error e =>
    exact .bind (.count h.idle nofun) fun _ => .bind .getConfig fun _ =>
      .bind (.note h.idle _) fun _ => .sleep h.idle _ _

/-- Doing a job that is not about welcome rooms keeps what subsists. -/
theorem job (h : Subsists I) {job : Job} (hjob : job.isHosting = false) : Keeps I job.run := by
  cases job with
  | greet | closeWelcome | sweep => cases hjob
  | awaitRejoin room delay => exact .sleep h.idle _ _
  | rejoin room => exact h.rejoin room
  | awaitReboot delay => exact .sleep h.idle _ _
  | reboot => exact h.shutdown
  | beginFeed start => exact .bind (.note h.idle _) fun _ => .sleep h.idle _ _
  | poll start since fullState =>
    exact keeps_pollFeed h.idle (fun _ _ => h.report _ rfl fun _ => nofun) start since fullState
  | receive start since fullState result => exact h.receiveAnswer start since fullState result
  | beginSweeps start => exact .bind .getConfig fun _ => .sleep h.idle _ _
  | beginHeartbeats start => exact .bind .getConfig fun _ => .sleep h.idle _ _
  | heartbeat start period => exact .bind h.measure fun _ => .sleep h.idle _ _

theorem start (h : Subsists I) (readyTs : Timestamp)
    (hready : Keeps I (change fun b => { b with readyTs := readyTs })) :
    Keeps I (Bot.start readyTs) := by
  refine .bind .getBot fun bot => .bind (.note h.idle _) fun _ => ?_
  refine .first_if (keeps_leaveForeignRooms h.idle h.ask h.leave) fun _ => ?_
  refine .bind_bind h.join fun joined => ?_
  refine .bind .getConfig fun _ => .bind (.note h.idle _) fun _ => ?_
  refine .first_if (.discard h.reconcile) fun _ => .bind hready fun _ => .bind .get fun _ => ?_
  refine .bind (.modify h.idle fun _ => ⟨rfl, rfl, fun _ => rfl⟩) fun _ => ?_
  exact .bind (.spawn h.idle _) fun _ => .bind (.spawn h.idle _) fun _ => .spawn h.idle _

end Subsists

namespace Endures

/-- Doing a job keeps what endures. -/
theorem job (h : Endures I) (job : Job) : Keeps I job.run := by
  cases hjob : job.isHosting with
  | false => exact h.toSubsists.job hjob
  | true =>
    cases job with
    | greet source member => exact h.welcome source member
    | closeWelcome room => exact .discard (h.evict room _)
    | sweep start period =>
      exact .bind .get fun w => .bind (.discard (keeps_sweep h.idle h.evict w.now)) fun _ =>
        .sleep h.idle _ _
    | _ => cases hjob

/-- Whatever happens keeps what endures, if a message keeps it and the moment of being ready
does. -/
theorem happening (h : Endures I) (x : Happening)
    (hready : ∀ readyTs, x = .start readyTs →
      Keeps I (change fun b => { b with readyTs := readyTs }))
    (hchat : ∀ room sender body, x = .chat room sender body →
      Keeps I (receiveChat room sender body)) : Keeps I x.run := by
  cases x with
  | start readyTs => exact h.start readyTs (hready readyTs rfl)
  | batch arrived => exact h.batch arrived
  | chat room sender body => exact .discard (hchat room sender body rfl)
  | work place =>
    intro w hw
    cases hplace : w.ready[place]? with
    | none => rwa [run_work_of_none hplace]
    | some job =>
      rw [run_work_of_some hplace]
      have htake : Idle w { w with ready := w.ready.eraseIdx place } :=
        ⟨rfl, rfl, fun _ => rfl⟩
      exact h.job job _ (h.idle htake hw)
  | elapse ms => exact .modify h.idle fun _ => ⟨rfl, rfl, fun _ => rfl⟩
  | wake => exact .modify h.idle fun _ => ⟨rfl, rfl, fun _ => rfl⟩
  | cancel => exact .modify h.idle fun _ => ⟨rfl, rfl, fun _ => rfl⟩

end Endures

/-- A property of worlds lasts: minding preserves it, and it is kept where more is done, when the
feed has brought something, when a message or a batch is taken up, when the ban lists are united,
and when rooms are entered or left. -/
structure Lasts (I : World → Prop) : Prop where
  minding : Minding.Preserves I
  report : ∀ o : Occurrence, o.call? = none → (∀ batch, o ≠ .applied batch) → Keeps I (record o)
  chat : ∀ room sender body, Keeps I (receiveChat room sender body)
  batch : ∀ arrived, Keeps I (applyBatch arrived)
  reconcile : Keeps I reconcile
  join : Keeps I (getConfig >>= fun config => joinEach config.monitoredRooms)
  rejoin : ∀ room, Keeps I (Bot.rejoin room)
  leave : ∀ room, Keeps I (leaveRoom room).run
  evict : ∀ room why, Keeps I (evict room why)
  welcome : ∀ source member, Keeps I (welcomeNewcomer source member)

namespace Lasts

/-- What roaming preserves lasts if it is also kept where more is done: when a message or an event
is taken up, when the ban lists are united and when monitored rooms are entered. -/
theorem of_roaming (roaming : Roaming.Preserves I)
    (chat : ∀ room sender body, Keeps I (receiveChat room sender body))
    (event : ∀ room e, Keeps I (applyEvent room e)) (reconcile : Keeps I Bot.reconcile)
    (join : Keeps I (getConfig >>= fun config => joinEach config.monitoredRooms))
    (rejoin : ∀ room, Keeps I (Bot.rejoin room)) : Lasts I where
  minding := roaming.within
  report _ ho _ := (Does.record ho fun _ => trivial).keeps roaming
  chat := chat
  batch arrived := keeps_applyBatch roaming.within arrived (fun entry _ e _ => event entry.1 e)
    fun room _ => (does_handleLeft room).within.keeps roaming
  reconcile := reconcile
  join := join
  rejoin := rejoin
  leave room := (does_leaveRoom room).keeps roaming
  evict room why := (does_evict room why).keeps roaming
  welcome source member := (does_welcomeNewcomer source member).keeps roaming

theorem does {α : Type} {step : BotM α} (h : Lasts I) (hstep : Does Minding step) :
    Keeps I step :=
  hstep.keeps h.minding

/-- What lasts endures. -/
theorem endures (h : Lasts I) : Endures I where
  idle := h.minding.undisturbed
  report := h.report
  ask := h.does (.attempt "joined_rooms" fun _ => ⟨rfl, rfl⟩)
  measure := h.does (.change .measured (fun _ => rfl) fun _ => trivial)
  shutdown := h.does does_requestShutdown
  batch := h.batch
  reconcile := h.reconcile
  join := h.join
  rejoin := h.rejoin
  leave := h.leave
  evict := h.evict
  welcome := h.welcome

/-- Whatever happens keeps what lasts. -/
theorem happening (h : Lasts I) (x : Happening) : Keeps I x.run :=
  h.endures.happening x
    (fun readyTs _ => h.does (.change (.readied readyTs) (fun _ => rfl) fun _ => trivial))
    fun room sender body _ => h.chat room sender body

end Lasts

/-- What everything that happens keeps, all of it keeps. -/
theorem after_invariant {xs : List Happening} (hI : ∀ x ∈ xs, Keeps I x.run) (hw : I w) :
    I (w.after xs) := by
  induction xs generalizing w with
  | nil => exact hw
  | cons x xs ih =>
    exact ih (fun y hy => hI y (List.mem_cons_of_mem _ hy)) (hI x List.mem_cons_self w hw)

/-- What holds at the beginning and is kept by whatever happens holds in every reachable world. -/
theorem Reachable.invariant
    (hinitial : ∀ selfId store server, I (World.initial (Bot.initial selfId store) server))
    (hI : ∀ x : Happening, Keeps I x.run) (h : Reachable w) : I w := by
  induction h with
  | initial selfId store server => exact hinitial selfId store server
  | step _ x ih => exact hI x _ ih

end RoomModeration
