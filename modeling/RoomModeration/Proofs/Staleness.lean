import RoomModeration.Proofs.Feed
import RoomModeration.Proofs.Room.Welcoming
import RoomModeration.Proofs.Routine

/-!
# Stale events

An event at or before the moment at which the bot became ready is stale. A batch leads to the same
with its stale events and without them: whatever reads an event looks at its time first, and what
comes after it finds the bot as it was. All that is left of a stale event is that it was counted,
and that a notice of how many events there were in an unmonitored room counts it in.

Until the bot is started it is ready at no moment, and then every event is stale.

## Main definitions

* `FeedBatch.after`, `FeedBatch.emptied` : a batch without its stale events, and without any.
* `SameButStale` : two worlds differ in what stale events leave behind only.

## Main results

* `congruence_sameButStale` : what stale events leave behind makes no difference.
* `stale_events_invisible` : a batch leads to the same without its stale events.
-/

namespace RoomModeration

open BotM RoomModeration.Bot

/-! ### Batches without stale events -/

namespace FeedBatch

/-- A batch without the events at or before a moment. -/
def after (batch : FeedBatch) (ts : Timestamp) : FeedBatch :=
  { batch with joined := batch.joined.map fun _ events => events.filter (ts < ·.timestamp) }

/-- A batch without events. -/
def emptied (batch : FeedBatch) : FeedBatch :=
  { batch with joined := batch.joined.map fun _ _ => [] }

theorem toList_joined_after (batch : FeedBatch) (ts : Timestamp) :
    (batch.after ts).joined.toList =
      batch.joined.toList.map fun entry => (entry.1, entry.2.filter (ts < ·.timestamp)) :=
  Std.ExtTreeMap.toList_map

/-- No event is after the last moment. -/
theorem after_maxValue (batch : FeedBatch) : batch.after Int64.maxValue = batch.emptied := by
  have hnone : ∀ events : List Event, events.filter (Int64.maxValue < ·.timestamp) = [] := by
    intro events
    refine List.filter_eq_nil_iff.2 fun e _ => ?_
    rw [decide_eq_true_eq, Int64.not_lt]
    exact Int64.le_maxValue _
  rw [after, emptied]
  congr 2
  funext room events
  exact hnone events

end FeedBatch

/-- Whether a notice tells of events in an unmonitored room. -/
def LogEntry.isOfUnmonitored (entry : LogEntry) : Bool :=
  match entry.notice with
  | .unmonitoredEvents .. => true
  | _ => false

namespace Counters

/-- The counters but for one. -/
def without (counters : Counters) (c : Counter) : Counters :=
  counters.filter (·.1 ≠ c)

theorem without_cons (c d : Counter) (n : Nat) (rest : Counters) :
    without ((d, n) :: rest) c = if d = c then rest.without c else (d, n) :: rest.without c := by
  by_cases h : d = c <;> simp [without, h]

theorem advance_cons (c d : Counter) (n m : Nat) (rest : Counters) :
    advance c n ((d, m) :: rest) =
      if c = d then (d, m + n) :: rest else (d, m) :: advance c n rest :=
  rfl

/-- Without a counter it does not matter how far that counter is advanced. -/
theorem without_advance_self (c : Counter) (n : Nat) (counters : Counters) :
    (advance c n counters).without c = counters.without c := by
  induction counters with
  | nil => exact (without_cons c c n []).trans (if_pos rfl)
  | cons entry rest ih =>
    obtain ⟨e, m⟩ := entry
    rw [advance_cons]
    by_cases hce : c = e
    · simp [without_cons, hce]
    · simp [without_cons, hce, ih]

/-- Another counter is advanced among those that are left. -/
theorem without_advance_of_ne {c d : Counter} (h : c ≠ d) (n : Nat) (counters : Counters) :
    (advance c n counters).without d = advance c n (counters.without d) := by
  induction counters with
  | nil => exact (without_cons d c n []).trans (if_neg h)
  | cons entry rest ih =>
    obtain ⟨e, m⟩ := entry
    rw [advance_cons, without_cons]
    by_cases hed : e = d
    · subst hed
      rw [if_neg h, if_pos rfl, without_cons, if_pos rfl, ih]
    · rw [if_neg hed, advance_cons]
      by_cases hce : c = e
      · rw [if_pos hce, if_pos hce, without_cons, if_neg hed]
      · rw [if_neg hce, if_neg hce, without_cons, if_neg hed, ih]

end Counters

theorem Bot.readyTs_unregister (b : Bot) (room : RoomId) :
    (b.unregister room).2.readyTs = b.readyTs := by
  unfold unregister
  split <;> rfl

/-- What is no departure after the bot became ready says nothing to a welcome room. -/
theorem any_isDeparture_filter (events : List Event) (selfId : MemberId) (readyTs : Timestamp) :
    (events.filter (readyTs < ·.timestamp)).any (·.isDeparture selfId readyTs) =
      events.any (·.isDeparture selfId readyTs) := by
  rw [List.any_filter]
  congr 1
  funext e
  unfold Event.isDeparture
  cases decide (readyTs < e.timestamp) <;> rfl

section

variable [Surroundings] {older older' : List Occurrence} {ts : Timestamp} {v w : World}

/-- Two worlds, of a bot that became ready at a moment, differ only in how far stale events have
been counted, in notices of events in unmonitored rooms, and in what their histories were before
some point. -/
structure SameButStale (ts : Timestamp) (older older' : List Occurrence) (v w : World) : Prop where
  bot : v.bot = w.bot
  readyTs : w.bot.readyTs = ts
  server : v.server = w.server
  now : v.now = w.now
  ready : v.ready = w.ready
  timers : v.timers = w.timers
  starts : v.starts = w.starts
  counters : v.counters.without .staleEvents = w.counters.without .staleEvents
  history : ∃ made, v.history = made ++ older ∧ w.history = made ++ older'
  activities : v.activities = w.activities
  log : v.log.filter (!·.isOfUnmonitored) = w.log.filter (!·.isOfUnmonitored)

namespace SameButStale

theorem withBot (h : SameButStale ts older older' v w) {bot : Bot} (hready : bot.readyTs = ts) :
    SameButStale ts older older' { v with bot := bot } { w with bot := bot } :=
  { h with bot := rfl, readyTs := hready }

/-- Counting stale events in one of two worlds makes no difference. -/
theorem count_left (h : SameButStale ts older older' v w) :
    SameButStale ts older older' ((count .staleEvents).run v).2 w := by
  refine { h with counters := ?_ }
  exact (Counters.without_advance_self _ _ _).trans h.counters

theorem countBy (c : Counter) (n : Nat) :
    Respects (SameButStale ts older older') (BotM.countBy c n) := by
  refine fun v w h => ⟨rfl, { h with counters := ?_ }⟩
  change (v.counters.advance c n).without _ = (w.counters.advance c n).without _
  by_cases hc : c = .staleEvents
  · subst hc
    rw [Counters.without_advance_self, Counters.without_advance_self, h.counters]
  · rw [Counters.without_advance_of_ne hc, Counters.without_advance_of_ne hc, h.counters]

/-- Telling of events in an unmonitored room, of however many, makes no difference. -/
theorem noteUnmonitored (room : RoomId) (n m : Nat) :
    Parallel (SameButStale ts older older') (note (.unmonitoredEvents room n))
      (note (.unmonitoredEvents room m)) := by
  refine fun v w h => ⟨rfl, { h with log := ?_ }⟩
  change List.filter _ (_ :: v.log) = List.filter _ (_ :: w.log)
  rw [List.filter_cons_of_neg (by simp [LogEntry.isOfUnmonitored]),
    List.filter_cons_of_neg (by simp [LogEntry.isOfUnmonitored])]
  exact h.log

theorem change {f : Bot → Bot} (hf : ∀ b, (f b).readyTs = b.readyTs) :
    Respects (SameButStale ts older older') (BotM.change f) :=
  fun _ w h => ⟨rfl, { h with
    bot := congrArg f h.bot
    readyTs := (hf w.bot).trans h.readyTs }⟩

theorem noteAll (notices : List Notice) :
    Respects (SameButStale ts older older') (BotM.noteAll notices) := by
  refine fun v w h => ⟨rfl, { h with log := ?_ }⟩
  change List.filter _ ((notices.map (⟨v.activities, ·⟩)).reverse ++ v.log) =
    List.filter _ ((notices.map (⟨w.activities, ·⟩)).reverse ++ w.log)
  rw [List.filter_append, List.filter_append, h.log, h.activities]

theorem call (c : Call) : Respects (SameButStale ts older older') (BotM.call c).run := by
  intro v w h
  obtain ⟨made, hv, hw⟩ := h.history
  let o : Occurrence := .called w.bot w.activities c
    (Surroundings.homeserver.answer c w.server).1.result
  rw [run_call, run_call, h.server, h.bot, h.activities]
  refine ⟨rfl, {
    bot := rfl
    readyTs := h.readyTs
    server := rfl
    now := h.now
    ready := h.ready
    timers := h.timers
    starts := h.starts
    counters := h.counters
    history := ⟨o :: made, congrArg (o :: ·) hv, congrArg (o :: ·) hw⟩
    activities := rfl
    log := ?_ }⟩
  change List.filter _ (_ ++ v.log) = List.filter _ (_ ++ w.log)
  rw [List.filter_append, List.filter_append, h.log]

theorem spawn (job : Job) : Respects (SameButStale ts older older') (BotM.spawn job) :=
  fun _ _ h => ⟨rfl, { h with ready := congrArg (· ++ [job]) h.ready }⟩

theorem during {α : Type} (activity : Activity) {x y : BotM α}
    (h : Parallel (SameButStale ts older older') x y) :
    Parallel (SameButStale ts older older') (BotM.during activity x) (BotM.during activity y) := by
  intro v w hvw
  have hbegin : SameButStale ts older older'
      { v with activities := v.activities ++ [activity] }
      { w with activities := w.activities ++ [activity] } :=
    { hvw with activities := congrArg (· ++ [activity]) hvw.activities }
  obtain ⟨hresult, hdone⟩ := h hbegin
  exact ⟨hresult, { hdone with activities := hvw.activities }⟩

end SameButStale

/-- What stale events leave behind makes no difference to the steps of the bot. -/
theorem congruence_sameButStale (ts : Timestamp) (older older' : List Occurrence) :
    Congruence (SameButStale ts older older') where
  bot h := h.bot
  noteAll := SameButStale.noteAll
  countBy c n _ := SameButStale.countBy c n
  change _ hf := SameButStale.change fun b => (hf b).2.1
  call c _ := SameButStale.call c
  spawn job _ _ := SameButStale.spawn job
  during activity _ _ := SameButStale.during activity

/-! ### Batches -/

theorem respects_handleLeft (room : RoomId) :
    Respects (SameButStale ts older older') (handleLeft room) := by
  have h := congruence_sameButStale ts older older'
  intro v w hR
  unfold handleLeft
  rw [run_bind, run_bind, run_getBot, run_getBot, hR.bot]
  dsimp only
  cases hunregister : w.bot.unregister room with
  | mk removed bot =>
    cases removed with
    | none =>
      refine (Parallel.bind (h.likeness.endRecord room) fun _ =>
        .bind h.getConfig fun config => ?_) hR
      split
      · exact .bind (h.note _) fun _ => .bind (SameButStale.spawn _) fun _ => .pure _
      · exact .bind (h.note _) fun _ => .pure _
    | some entry =>
      have hready : bot.readyTs = ts := by
        rw [← hR.readyTs, ← w.bot.readyTs_unregister room, hunregister]
      have hcount : Respects (SameButStale ts older older') (count (.welcomeEvictions "remote")) :=
        SameButStale.countBy _ 1
      exact (Parallel.bind (h.note _) fun _ => .bind hcount fun _ => .pure _) (hR.withBot hready)

/-- The events of a monitored room lead to the same as those of them that are not stale. -/
theorem parallel_events (room : RoomId) (events : List Event) :
    Parallel (SameButStale ts older older') (events.forM (applyEvent room))
      ((events.filter (ts < ·.timestamp)).forM (applyEvent room)) := by
  induction events with
  | nil => exact .pure ()
  | cons e events ih =>
    rw [List.filter_cons]
    by_cases hfresh : ts < e.timestamp
    · rw [if_pos (decide_eq_true hfresh)]
      exact .bind ((congruence_sameButStale ts older older').likeness.applyEvent room e) fun _ => ih
    · rw [if_neg (by simpa using hfresh)]
      intro v w hR
      have hstale : e.timestamp ≤ v.bot.readyTs := by
        rw [hR.bot, hR.readyTs]
        exact Int64.not_lt.1 hfresh
      -- A stale event is read no further than its time.
      have hcounted : (applyEvent room e).run v = (count .staleEvents).run v := by
        unfold applyEvent Event.meaning
        rw [run_bind, run_getBot]
        dsimp only
        rw [if_pos hstale]
      have hrest := ih hR.count_left
      rw [← hcounted] at hrest
      exact hrest

theorem parallel_applyRoom (room : RoomId) (events : List Event) :
    Parallel (SameButStale ts older older') (applyRoom room events)
      (applyRoom room (events.filter (ts < ·.timestamp))) := by
  intro v w hR
  obtain rfl := hR.readyTs
  have h := congruence_sameButStale w.bot.readyTs older older'
  unfold applyRoom
  rw [run_bind, run_bind, run_getBot, run_getBot, hR.bot]
  dsimp only
  split
  · have hspawn (departed : Bool) : Respects (SameButStale w.bot.readyTs older older')
        (if departed then spawn (.closeWelcome room) else pure ()) := by
      split
      · exact h.spawn _ rfl rfl
      · exact .pure _
    rw [any_isDeparture_filter]
    exact hspawn _ hR
  · split
    · exact SameButStale.noteUnmonitored room _ _ hR
    · exact parallel_events room events hR

/-- A batch leads to the same without its stale events. -/
theorem sameButStale_applyBatch (batch : FeedBatch) (w : World) :
    SameButStale w.bot.readyTs (.applied batch :: w.history)
      (.applied (batch.after w.bot.readyTs) :: w.history)
      ((applyBatch batch).run w).2 ((applyBatch (batch.after w.bot.readyTs)).run w).2 := by
  let ts := w.bot.readyTs
  let R := SameButStale ts (.applied batch :: w.history) (.applied (batch.after ts) :: w.history)
  have h : Congruence R := congruence_sameButStale _ _ _
  have hrooms : Parallel R
      (batch.joined.toList.forM fun entry => applyRoom entry.1 entry.2)
      ((batch.after ts).joined.toList.forM fun entry => applyRoom entry.1 entry.2) := by
    rw [FeedBatch.toList_joined_after]
    exact .forM fun entry _ => parallel_applyRoom entry.1 entry.2
  have hleft : Respects R (batch.left.toList.forM fun room => discard (handleLeft room)) :=
    .each fun room _ => .discard (respects_handleLeft room)
  have hbody := h.during (.syncBatch batch.nextBatch) <|
    Parallel.bind (h.countBy .syncBatches 1 nofun) fun _ =>
      .bind (h.countBy .malformedEvents batch.malformed nofun) fun _ =>
        .first_if (c := batch.malformed > 0) (h.note (.malformedEvents batch.malformed)) fun _ =>
          .bind hrooms fun _ => .bind hleft fun _ =>
            SameButStale.change (f := fun b => { b with cursor := some batch.nextBatch })
              fun _ => rfl
  have hwritten : R { w with history := .applied batch :: w.history }
      { w with history := .applied (batch.after ts) :: w.history } :=
    ⟨rfl, rfl, rfl, rfl, rfl, rfl, rfl, rfl, ⟨[], rfl, rfl⟩, rfl, rfl⟩
  exact (hbody hwritten).2

/-! ### Before the start -/

/-- A bot becomes ready by being started only. -/
theorem routine_readyTs (ts : Timestamp) : Routine (·.bot.readyTs = ts) where
  idle _ _ h hw := (congrArg Bot.readyTs h.bot).trans hw
  change f hf w hw := (hf w.bot).2.trans hw
  call c _ w hw := by
    rw [run_call]
    exact hw

theorem keeps_readyTs {x : Happening} (hx : ∀ readyTs, x ≠ .start readyTs) (ts : Timestamp) :
    Keeps (·.bot.readyTs = ts) x.run := by
  refine (routine_readyTs ts).happening (fun _ _ _ hw => hw) (fun room w hw => ?_)
    (fun room why w hw => ?_) (fun source member w hw => ?_) x
    fun readyTs h => absurd h (hx readyTs)
  · cases departed_handleLeft room w with
    | forgotten _ bot => rw [bot, Bot.readyTs_unregister, hw]
    | ended _ bot =>
      rw [bot]
      exact hw
  · cases hregistered : w.bot.welcome.contains room with
    | false => rwa [run_evict_of_not_contains why hregistered]
    | true =>
      obtain ⟨-, hclosed, -⟩ := closed_evict why hregistered
      rw [hclosed.bot, Bot.readyTs_unregister, hw]
  · cases hosted_welcomeNewcomer source member w with
    | refused e bot => rw [bot, hw]
    | opened room made bot =>
      rw [bot]
      exact hw

theorem readyTs_after {xs : List Happening} (hxs : ∀ x ∈ xs, ∀ readyTs, x ≠ .start readyTs)
    (w : World) : (w.after xs).bot.readyTs = w.bot.readyTs :=
  after_invariant (I := (·.bot.readyTs = w.bot.readyTs))
    (fun x hx => keeps_readyTs (hxs x hx) _) rfl

/-- Stale events are invisible: a batch leads to the same with them and without them. Until the bot
is started, whatever else happens, a batch leads to the same as it does without any events. -/
theorem stale_events_invisible :
    (∀ (w : World) (batch : FeedBatch),
      SameButStale w.bot.readyTs (.applied batch :: w.history)
        (.applied (batch.after w.bot.readyTs) :: w.history)
        ((applyBatch batch).run w).2 ((applyBatch (batch.after w.bot.readyTs)).run w).2) ∧
    ∀ (selfId : MemberId) (store : ConfigStore) (server : Surroundings.Server)
      (xs : List Happening), (∀ x ∈ xs, ∀ readyTs, x ≠ .start readyTs) →
      let w := (World.initial (Bot.initial selfId store) server).after xs
      ∀ batch : FeedBatch,
        SameButStale Int64.maxValue (.applied batch :: w.history)
          (.applied batch.emptied :: w.history)
          ((applyBatch batch).run w).2 ((applyBatch batch.emptied).run w).2 := by
  refine ⟨fun w batch => sameButStale_applyBatch batch w, fun selfId store server xs hxs => ?_⟩
  intro w batch
  have hready : w.bot.readyTs = Int64.maxValue := readyTs_after hxs _
  have hsame := sameButStale_applyBatch batch w
  rwa [hready, batch.after_maxValue] at hsame

end

section

attribute [local instance] Sample.surroundings

/-- A bot that became ready at the moment of a ban counts the ban and does nothing about it, and
neither does one that has not been started, however much time has passed. -/
theorem stale_ban_invisible :
    let batch : FeedBatch := ⟨"s1", .ofList [(Sample.lobby, [Sample.ban])], ∅, 0⟩
    let w₀ : World := World.initial (Bot.initial ⟨"@warden:x"⟩ (.inMemory Sample.config)) ()
    let started := w₀.after [.start 1]
    let waiting := w₀.after [.elapse 5]
    (((applyBatch batch).run started).2.counters.get .staleEvents = 1 ∧
      SameButStale started.bot.readyTs (.applied batch :: started.history)
        (.applied (batch.after started.bot.readyTs) :: started.history)
        ((applyBatch batch).run started).2
        ((applyBatch (batch.after started.bot.readyTs)).run started).2) ∧
    (∀ x ∈ [Happening.elapse 5], ∀ readyTs, x ≠ .start readyTs) ∧
    SameButStale Int64.maxValue (.applied batch :: waiting.history)
      (.applied batch.emptied :: waiting.history) ((applyBatch batch).run waiting).2
      ((applyBatch batch.emptied).run waiting).2 := by
  have hwaiting : ∀ x ∈ [Happening.elapse 5], ∀ readyTs, x ≠ .start readyTs := by simp
  refine ⟨⟨by decide +kernel, stale_events_invisible.1 _ _⟩, hwaiting, ?_⟩
  exact stale_events_invisible.2 _ _ _ _ hwaiting _

end

end RoomModeration
