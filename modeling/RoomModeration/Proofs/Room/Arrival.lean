import RoomModeration.Proofs.Gates
import RoomModeration.Proofs.Room.Presence
import RoomModeration.Proofs.Room.Status

/-!
# Welcome rooms for newcomers

Whoever arrives in a room with the mode `WELCOME` is greeted in a welcome room of their own. An
event tells of an *arrival* if it is fresh and well formed, says that its subject joins, this is not
the bot, and the record does not show them as present just before. The record is what the events
before it have made of it, so whether an event tells of an arrival depends on all of them: a join
that the homeserver repeats, or that only changes the profile, finds its subject present, and one
who has left or was banned in between is not.

The bot checks twice whether a newcomer is present, when it reads the event and when it updates the
record. For each arrival it puts off one job of opening a welcome room, in the order of the
arrivals, and for no other event. Such a job makes one call for a new room, whenever it is done.

None of this is done for a room that is a welcome room itself: there the bot looks for departures
only, also if an admin has had it monitor the room and has given it the mode.

## Main definitions

* `Event.isArrival` : an event tells of an arrival.
* `arrivals` : those who arrive in a room in the course of some events.
* `World.creations` : the calls that have been made for new rooms.

## Main results

* `agenda_applyEvent` : what an event that is no command puts off.
* `isArrival_of_return` : whoever comes back after a departure arrives again.
* `one_welcome_per_arrival` : one welcome room is asked for in each arrival.
-/

namespace RoomModeration

open BotM RoomModeration.Bot

/-! ### Arrivals -/

/-- Whether an event tells, freshly and in good form, that its subject joins. -/
def Event.tellsJoin (e : Event) (readyTs : Timestamp) : Bool :=
  readyTs < e.timestamp &&
    match e.memberContent with
    | .content content => content.membership == .join
    | _ => false

/-- Whether an event tells of an arrival in a room: that someone joins who is not the bot and is not
in the record. -/
def Event.isArrival (e : Event) (b : Bot) (room : RoomId) : Bool :=
  e.tellsJoin b.readyTs && e.subject != b.selfId && !b.rooms.isMember room e.subject

/-- An event tells of a join if it says so in its content. -/
theorem Event.tellsJoin_iff {e : Event} {readyTs : Timestamp} :
    e.tellsJoin readyTs = true ↔ ¬ e.timestamp ≤ readyTs ∧
      ∃ content, e.memberContent = .content content ∧ content.membership = .join := by
  unfold tellsJoin
  rw [Bool.and_eq_true, decide_eq_true_iff, Int64.not_le]
  refine and_congr_right fun _ => ?_
  cases e.memberContent with
  | content content => simp
  | unrelated | malformed => simp

/-- An event means a join if it tells of one and its subject is not in the record. -/
theorem Event.meaning_eq_join_iff {e : Event} {selfId : MemberId} {readyTs : Timestamp}
    {store : RoomStore} {room : RoomId} {member : MemberId} :
    e.meaning selfId readyTs store room = .membership (.join member) ↔
      e.tellsJoin readyTs = true ∧ store.isMember room e.subject = false ∧ e.subject = member := by
  rw [tellsJoin_iff]
  constructor
  · intro hmeaning
    obtain ⟨hfresh, -, ⟨-, hother⟩ | ⟨content, hcontent, hmeans⟩⟩ := membership_of_meaning hmeaning
    · cases hother
    · unfold MemberContent.meaning at hmeans
      cases hword : content.membership with
      | join =>
        rw [hword] at hmeans
        cases hmember : store.isMember room e.subject with
        | true =>
          rw [hmember] at hmeans
          cases hmeans
        | false =>
          rw [hmember] at hmeans
          cases hmeans
          exact ⟨⟨hfresh, content, hcontent, hword⟩, rfl, rfl⟩
      | leave =>
        rw [hword] at hmeans
        dsimp only at hmeans
        split at hmeans <;> cases hmeans
      | ban | other =>
        rw [hword] at hmeans
        cases hmeans
  · rintro ⟨⟨hfresh, content, hcontent, hword⟩, hmember, rfl⟩
    rw [meaning_of_content hfresh hcontent, MemberContent.meaning, hword]
    dsimp only
    rw [hmember, if_neg Bool.false_ne_true]

section

variable [Surroundings] {w : World} {room : RoomId} {e : Event} {r : RoomRecord}

/-- Those who arrive in a room in the course of some events. Each event is judged by the record as
the events before it have left it. -/
def arrivals (room : RoomId) : List Event → World → List MemberId
  | [], _ => []
  | e :: events, w =>
    let later := arrivals room events ((applyEvent room e).run w).2
    if e.isArrival w.bot room then e.subject :: later else later

/-! ### What is put off -/

/-- Bans and the lifting of bans put nothing off. -/
theorem agenda_give (a : Sanction) (w : World) : (a.give.run.run w).2.agenda = w.agenda := by
  let R : World → World → Prop := Alone fun v => v.agenda = w.agenda
  have hsame : ∀ {α : Type} {step : BotM α}, (∀ v, (step.run v).2.agenda = v.agenda) →
      Respects R step := fun h => (keeps_agenda (J := (· = w.agenda)) h).respects
  have hnote : ∀ notice, Respects R (note notice) := fun _ => hsame fun _ => rfl
  obtain ⟨room, member, reason?⟩ := a
  have hgive : Respects R (Sanction.give ⟨room, member, reason?⟩).run := by
    cases reason? with
    | some reason =>
      exact .ban (hsame fun _ => rfl) hnote (hsame (agenda_attempt _ _)) (hsame fun _ => rfl)
    | none =>
      exact .unban (hsame fun _ => rfl) hnote (hsame (agenda_attempt _ _)) (hsame fun _ => rfl)
  exact hgive.keeps w rfl

/-- Carrying a sanction over puts nothing off. -/
theorem agenda_carry (a : Sanction) (w : World) : (a.carry.run w).2.agenda = w.agenda := by
  let R : World → World → Prop := Alone fun v => v.agenda = w.agenda
  have hsame : ∀ {α : Type} {step : BotM α}, (∀ v, (step.run v).2.agenda = v.agenda) →
      Respects R step := fun h => (keeps_agenda (J := (· = w.agenda)) h).respects
  obtain ⟨room, member, reason?⟩ := a
  have hcarry : Respects R (Sanction.carry ⟨room, member, reason?⟩) := by
    cases reason? with
    | some reason =>
      refine .bind (hsame fun _ => rfl) fun bot => .bind (.tryEach
        (fun target => hsame (agenda_give ⟨target, member, some reason⟩)) (hsame fun _ => rfl)
        (fun _ _ => hsame fun _ => rfl) _) fun _ => .first_if (hsame fun _ => rfl) fun _ => .pure _
    | none =>
      refine .bind (hsame fun _ => rfl) fun bot => .bind (.tryEach
        (fun target => hsame (agenda_give ⟨target, member, none⟩)) (hsame fun _ => rfl)
        (fun _ _ => hsame fun _ => rfl) _) fun _ => .first_if (hsame fun _ => rfl) fun _ => .pure _
  exact hcarry.keeps w rfl

/-- The jobs that a change of membership puts off: one, if it is the arrival of someone other than
the bot in a room with the mode `WELCOME`. -/
def Transition.jobs (t : Transition) (selfId : MemberId) (room : RoomId) : List Job :=
  match t with
  | join member => if member = selfId then [] else [.greet room member]
  | leave _ | unban .. | ban .. | other _ => []

/-- What a change of membership puts off in a room with the mode `WELCOME`. -/
theorem agenda_applyTransition {t : Transition} (hr : w.bot.rooms.find? room = some r)
    (hmode : r.hasMode .welcome = true)
    (hnew : ∀ member, t = .join member → r.members.contains member = false) :
    ((applyTransition room t).run w).2.agenda =
      { w.agenda with ready := w.ready ++ t.jobs w.bot.selfId room } := by
  have hquiet : ∀ v : World, v.agenda = w.agenda → t.jobs w.bot.selfId room = [] →
      v.agenda = { w.agenda with ready := w.ready ++ t.jobs w.bot.selfId room } := by
    intro v hv hnone
    rw [hv, hnone, List.append_nil]
    rfl
  cases t with
  | join member =>
    have houtcome : (w.bot.rooms.applyJoin room member).1 = .joined := by
      simp only [RoomStore.applyJoin, hr]
      rw [hnew member rfl, if_neg Bool.false_ne_true]
    have hstays : (w.bot.rooms.applyJoin room member).2.hasMode room .welcome = true := by
      have hstore : (w.bot.rooms.applyJoin room member).2 =
          (Transition.join member).onStore room w.bot.rooms := rfl
      rw [hstore, RoomStore.hasMode, Transition.find?_onStore, if_pos rfl, hr]
      exact hmode
    have hrun : ((applyTransition room (.join member)).run w).2 =
        ((if (w.bot.rooms.applyJoin room member).1 = .joined ∧ member ≠ w.bot.selfId ∧
            (w.bot.rooms.applyJoin room member).2.hasMode room .welcome then
          spawn (.greet room member) else pure () : BotM Unit).run
            (w.withRooms (w.bot.rooms.applyJoin room member).2)).2 := rfl
    by_cases hself : member = w.bot.selfId
    · rw [hrun, if_neg fun h => h.2.1 hself]
      refine hquiet _ rfl ?_
      simp only [Transition.jobs, if_pos hself]
    · rw [hrun, if_pos ⟨houtcome, hself, hstays⟩]
      simp only [Transition.jobs, if_neg hself]
      rfl
  | leave member => exact hquiet _ rfl rfl
  | unban member moderator =>
    have hrun : ((applyTransition room (.unban member moderator)).run w).2 =
        ((if moderator ≠ w.bot.selfId then discard (propagateUnban room member) else pure () :
          BotM Unit).run (w.withRooms (w.bot.rooms.applyUnban room member).2)).2 := rfl
    refine hquiet _ ?_ rfl
    rw [hrun]
    split
    · exact agenda_carry ⟨room, member, none⟩ (w.withRooms (w.bot.rooms.applyUnban room member).2)
    · rfl
  | ban member moderator reason propagate =>
    refine hquiet _ ?_ rfl
    cases propagate with
    | true =>
      exact agenda_carry ⟨room, member, some reason⟩
        (w.withRooms (w.bot.rooms.applyBan room member reason).2)
    | false => rfl
  | other word => exact hquiet _ rfl rfl

/-- A change of membership that the feed tells of puts off the same. -/
theorem agenda_observeTransition {t : Transition} (hr : w.bot.rooms.find? room = some r)
    (hmode : r.hasMode .welcome = true) (hactive : w.bot.config.bot.passive = false)
    (hnew : ∀ member, t = .join member → r.members.contains member = false) :
    ((observeTransition room t).run w).2.agenda =
      { w.agenda with ready := w.ready ++ t.jobs w.bot.selfId room } := by
  have htracked : w.bot.rooms.isTracked room = true := by
    rw [RoomStore.isTracked_eq_isSome, hr]
    rfl
  unfold observeTransition
  rw [run_bind, run_getBot]
  dsimp only
  rw [hactive, htracked, if_neg Bool.false_ne_true, Bool.not_true, if_neg Bool.false_ne_true,
    run_bind]
  exact agenda_applyTransition (w := ((count (.transitions t.kind)).run w).2) hr hmode hnew

/-- An event that is no command puts off the job of a welcome room if it tells of an arrival, and
nothing else. -/
theorem agenda_applyEvent (hr : w.bot.rooms.find? room = some r)
    (hmode : r.hasMode .welcome = true) (hactive : w.bot.config.bot.passive = false)
    (hno : ¬ e.IsCommand w.bot room) :
    ((applyEvent room e).run w).2.agenda =
      { w.agenda with
        ready := w.ready ++ if e.isArrival w.bot room then [.greet room e.subject] else [] } := by
  -- An event that means no join tells of no arrival.
  have hno_arrival : (∀ member, e.meaning w.bot.selfId w.bot.readyTs w.bot.rooms room ≠
      .membership (.join member)) → e.isArrival w.bot room = false := by
    intro hmeaning
    by_contra harrival
    simp only [Event.isArrival, Bool.not_eq_false, Bool.and_eq_true, Bool.not_eq_true'] at harrival
    exact hmeaning e.subject (Event.meaning_eq_join_iff.2 ⟨harrival.1.1, harrival.2, rfl⟩)
  have hquiet : ∀ v : World, v.agenda = w.agenda → e.isArrival w.bot room = false →
      v.agenda = { w.agenda with
        ready := w.ready ++ if e.isArrival w.bot room then [.greet room e.subject] else [] } := by
    intro v hv hnone
    rw [hv, hnone, if_neg Bool.false_ne_true, List.append_nil]
    rfl
  unfold applyEvent
  rw [run_bind, run_getBot]
  dsimp only
  cases hmeaning : e.meaning w.bot.selfId w.bot.readyTs w.bot.rooms room with
  | stale | profile | ignored =>
    exact hquiet _ rfl (hno_arrival fun _ => by rw [hmeaning]; exact Meaning.noConfusion)
  | chat sender body =>
    obtain ⟨hfresh, rfl, htext⟩ := Event.chat_of_meaning hmeaning
    refine hquiet _ (agenda_receiveChat fun command heeds => ?_)
      (hno_arrival fun _ => by rw [hmeaning]; exact Meaning.noConfusion)
    exact hno ⟨Int64.not_le.1 hfresh, body, command, htext, heeds⟩
  | membership t =>
    have hmember : w.bot.rooms.isMember room e.subject = r.members.contains e.subject := by
      rw [RoomStore.isMember, hr]
      rfl
    have hnew : ∀ member, t = .join member → r.members.contains member = false := by
      rintro member rfl
      obtain ⟨-, habsent, rfl⟩ := Event.meaning_eq_join_iff.1 hmeaning
      rwa [hmember] at habsent
    have hjobs : t.jobs w.bot.selfId room =
        if e.isArrival w.bot room then [.greet room e.subject] else [] := by
      cases t with
      | join member =>
        obtain ⟨htells, habsent, rfl⟩ := Event.meaning_eq_join_iff.1 hmeaning
        rw [Event.isArrival, htells, habsent, Bool.true_and, Bool.not_false, Bool.and_true]
        by_cases hself : e.subject = w.bot.selfId
        · simp [Transition.jobs, hself]
        · simp [Transition.jobs, hself]
      | leave | unban | ban | other =>
        rw [hno_arrival fun _ => by rw [hmeaning]; simp]
        rfl
    rw [← hjobs]
    dsimp only
    split
    · exact agenda_observeTransition
        (w := ((note (.malformedMembership room e.eventId)).run w).2) hr hmode hactive hnew
    · exact agenda_observeTransition hr hmode hactive hnew

/-- After an event that is no command the room still has a record, with the modes that it had, and
nothing but records has changed. -/
theorem modes_of_applyEvent (hr : w.bot.rooms.find? room = some r)
    (hno : ¬ e.IsCommand w.bot room) :
    ∃ store r', ((applyEvent room e).run w).2.bot = { w.bot with rooms := store } ∧
      store.find? room = some r' ∧ r'.modes = r.modes := by
  cases applyEvent_cases room e w with
  | passed _ alike => exact ⟨w.bot.rooms, r, alike.bot, hr, rfl⟩
  | message sender body meaning received =>
    cases received with
    | unheeded _ spoken => exact ⟨w.bot.rooms, r, spoken.bot_eq, hr, rfl⟩
    | heeded command heeds =>
      obtain ⟨hfresh, rfl, htext⟩ := Event.chat_of_meaning meaning
      exact absurd ⟨Int64.not_le.1 hfresh, body, command, htext, heeds⟩ hno
  | changed t _ _ _ l series carried =>
    refine ⟨_, t.onRecord r, series.bot_eq, ?_, t.onRecord_modes r⟩
    have hfind := find?_of_carried series carried
    rw [series.bot_eq] at hfind
    refine hfind.trans ?_
    rw [Transition.find?_onStore, if_pos rfl, hr]
    rfl

/-- Events that are no commands put off one job for each arrival, and nothing else. -/
theorem agenda_events {events : List Event} (hr : w.bot.rooms.find? room = some r)
    (hmode : r.hasMode .welcome = true) (hactive : w.bot.config.bot.passive = false)
    (hno : ∀ e ∈ events, ¬ e.IsCommand w.bot room) :
    ((events.forM (applyEvent room)).run w).2.agenda =
      { w.agenda with ready := w.ready ++ (arrivals room events w).map (.greet room ·) } := by
  induction events generalizing w r with
  | nil =>
    rw [arrivals, List.map_nil, List.append_nil]
    rfl
  | cons e events ih =>
    let v := ((applyEvent room e).run w).2
    have hfirst : v.agenda = { w.agenda with
        ready := w.ready ++ if e.isArrival w.bot room then [.greet room e.subject] else [] } :=
      agenda_applyEvent hr hmode hactive (hno e List.mem_cons_self)
    obtain ⟨store, r', hbot, hr', hmodes⟩ := modes_of_applyEvent hr (hno e List.mem_cons_self)
    have hbot : v.bot = { w.bot with rooms := store } := hbot
    have hrest := ih (w := v) (r := r') (by rw [hbot]; exact hr')
      (by rw [RoomRecord.hasMode, hmodes]; exact hmode) (by rw [hbot]; exact hactive)
      fun x hx hcommand => hno x (List.mem_cons_of_mem _ hx) (hbot ▸ hcommand).of_withRooms
    have hready : v.ready =
        w.ready ++ if e.isArrival w.bot room then [.greet room e.subject] else [] :=
      congrArg Agenda.ready hfirst
    have harrivals : (arrivals room (e :: events) w).map (Job.greet room ·) =
        (if e.isArrival w.bot room then [.greet room e.subject] else []) ++
          (arrivals room events v).map (.greet room ·) := by
      rw [arrivals]
      split
      · rfl
      · rfl
    change ((events.forM (applyEvent room)).run v).2.agenda = _
    rw [hrest, harrivals, hready, hfirst, List.append_assoc]

/-! ### What is asked for -/

/-- The call for a new room that an occurrence is, if it is one. -/
def Occurrence.creation? : Occurrence → Option RoomCreation
  | called _ _ (.create request) _ => some request
  | _ => none

/-- The calls that have been made for new rooms, the latest one first. -/
def World.creations (w : World) : List RoomCreation :=
  w.history.filterMap (·.creation?)

/-- What opens no welcome room asks for no room. -/
theorem routine_creations (made : List RoomCreation) : Routine fun w => w.creations = made where
  idle w w' h hw := by
    change w'.history.filterMap _ = made
    rw [h.history]
    exact hw
  change _ _ _ hw := hw
  call c hc w hw := by
    rw [run_call]
    cases c with
    | create request => exact absurd rfl (hc request)
    | _ => exact hw

/-- The job of opening a welcome room asks for one new room, whenever it is done. -/
theorem creations_welcomeNewcomer (source : RoomId) (member : MemberId) (w : World) :
    ((welcomeNewcomer source member).run w).2.creations =
      w.bot.config.welcome.creation member :: w.creations := by
  cases hosted_welcomeNewcomer source member w with
  | refused e _ history =>
    rw [World.creations, history]
    rfl
  | opened room made _ history greeting =>
    have hsilent : made.filterMap (·.creation?) = [] := by
      cases greeting with
      | silent => rfl
      | spoken => rfl
    rw [World.creations, history, List.filterMap_append, hsilent]
    rfl

/-! ### Coming back -/

omit [Surroundings] in
/-- The status of a member who is not present stays so, as long as no event tells that they join. -/
theorem statusAfterAll_ne_joined {events : List Event} {readyTs : Timestamp} {member : MemberId}
    {s : MemberStatus} (hs : s ≠ .joined)
    (hno : ∀ e ∈ events, e.subject = member → e.tellsJoin readyTs = false) :
    statusAfterAll events readyTs member s ≠ .joined := by
  induction events generalizing s with
  | nil => exact hs
  | cons e events ih =>
    refine ih (s := e.statusAfter readyTs member s) ?_ fun x hx => hno x (List.mem_cons_of_mem _ hx)
    by_cases hfresh : e.timestamp ≤ readyTs
    · rwa [Event.statusAfter_of_stale hfresh]
    by_cases hsubject : e.subject = member
    · subst hsubject
      have htells := hno e List.mem_cons_self rfl
      cases hcontent : e.memberContent with
      | unrelated | malformed =>
        rwa [Event.statusAfter_of_no_content fun content h => by rw [hcontent] at h; cases h]
      | content content =>
        rw [Event.statusAfter_of_content hfresh hcontent]
        cases hword : content.membership with
        | join =>
          rw [Event.tellsJoin_iff.2 ⟨hfresh, content, hcontent, hword⟩] at htells
          cases htells
        | leave | ban => exact nofun
        | other word => exact hs
    · rwa [Event.statusAfter_of_ne hsubject]

omit [Surroundings] in
/-- After a departure its subject is not present. -/
theorem Event.statusAfter_of_isDeparture {selfId : MemberId} {readyTs : Timestamp}
    (h : e.isDeparture selfId readyTs = true) (s : MemberStatus) :
    e.statusAfter readyTs e.subject s ≠ .joined := by
  simp only [isDeparture, Bool.and_eq_true, decide_eq_true_eq] at h
  obtain ⟨⟨hfresh, -⟩, hgone⟩ := h
  cases hcontent : e.memberContent with
  | unrelated | malformed =>
    rw [hcontent] at hgone
    cases hgone
  | content content =>
    rw [hcontent] at hgone
    rw [statusAfter_of_content (Int64.not_le.2 hfresh) hcontent]
    cases hword : content.membership with
    | leave | ban => exact nofun
    | join | other =>
      dsimp only at hgone
      rw [hword] at hgone
      cases hgone

/-- Whoever departs from a room and joins it again later arrives again, unless they have joined it
in between. -/
theorem isArrival_of_return {gone back : Event} {earlier between : List Event}
    (hr : w.bot.rooms.find? room = some r) (hd : r.Disjoint)
    (hactive : w.bot.config.bot.passive = false)
    (hno : ∀ e ∈ earlier ++ gone :: between, ¬ e.IsCommand w.bot room)
    (hgone : gone.isDeparture w.bot.selfId w.bot.readyTs = true)
    (hbetween : ∀ e ∈ between, e.subject = gone.subject → e.tellsJoin w.bot.readyTs = false)
    (hback : back.tellsJoin w.bot.readyTs = true) (hsubject : back.subject = gone.subject) :
    back.isArrival (((earlier ++ gone :: between).forM (applyEvent room)).run w).2.bot room =
      true := by
  obtain ⟨hbot, r', hr', hd', -, -, hstatus⟩ := follows_of_events hr hd hactive hno
  have hforeign : (gone.subject != w.bot.selfId) = true := by
    simp only [Event.isDeparture, Bool.and_eq_true] at hgone
    exact hgone.1.2
  have habsent : r'.members.contains gone.subject = false := by
    by_contra hpresent
    have hjoined := RoomRecord.status_eq_joined hd' (Bool.not_eq_false _ ▸ hpresent)
    rw [hstatus, statusAfterAll, List.foldl_append, List.foldl_cons] at hjoined
    exact statusAfterAll_ne_joined (Event.statusAfter_of_isDeparture hgone _) hbetween hjoined
  rw [Event.isArrival, RoomStore.isMember, hr', hsubject, hbot, hback, hforeign, Bool.true_and,
    Bool.true_and, Option.any_some, habsent, Bool.not_false]

/-! ### The events of a room -/

/-- Those who arrive in the course of more events, after those who have arrived before. -/
theorem arrivals_append (room : RoomId) (events later : List Event) (w : World) :
    arrivals room (events ++ later) w =
      arrivals room events w ++ arrivals room later ((events.forM (applyEvent room)).run w).2 := by
  induction events generalizing w with
  | nil => rfl
  | cons e events ih =>
    have hlater := ih ((applyEvent room e).run w).2
    simp only [List.cons_append, arrivals, hlater]
    split
    · rfl
    · rfl

/-- In a welcome room only departures lead to anything. -/
theorem run_applyRoom_of_welcome {events : List Event}
    (hwelcome : w.bot.welcome.contains room = true)
    (hno : events.any (·.isDeparture w.bot.selfId w.bot.readyTs) = false) :
    (applyRoom room events).run w = ((), w) := by
  unfold applyRoom
  rw [run_bind, run_getBot]
  dsimp only
  rw [if_pos hwelcome, hno, if_neg Bool.false_ne_true]
  rfl

/-- One welcome room is asked for in each arrival. Let an active bot monitor a room, which is no
welcome room itself, and let its record have the mode `WELCOME`. Then events among which there is no
command put off the job of a welcome room for each arrival among them, and nothing else, and they
ask for no new room themselves; each of those jobs asks for one, for the one who has arrived and
with this room as its source, whenever it is done. If nobody is both present and banned in the
record, as it is in every run, whoever departs and joins again arrives again. -/
theorem one_welcome_per_arrival (hmonitored : w.bot.config.isMonitored room = true)
    (hwelcome : w.bot.welcome.contains room = false) (hr : w.bot.rooms.find? room = some r)
    (hmode : r.hasMode .welcome = true) (hactive : w.bot.config.bot.passive = false)
    (events : List Event) (hno : ∀ e ∈ events, ¬ e.IsCommand w.bot room) :
    let w' := ((applyRoom room events).run w).2
    w'.agenda =
        { w.agenda with ready := w.ready ++ (arrivals room events w).map (.greet room ·) } ∧
      w'.creations = w.creations ∧
      (∀ (member : MemberId) (v : World),
        let v' := ((Job.greet room member).run.run v).2
        v'.creations = v.bot.config.welcome.creation member :: v.creations ∧
          Hosted room member v v') ∧
      (r.Disjoint → ∀ (earlier between later : List Event) (gone back : Event),
        events = earlier ++ gone :: between ++ back :: later →
        gone.isDeparture w.bot.selfId w.bot.readyTs = true →
        back.tellsJoin w.bot.readyTs = true → back.subject = gone.subject →
        (∀ e ∈ between, e.subject = gone.subject → e.tellsJoin w.bot.readyTs = false) →
        ∃ others, arrivals room events w =
          arrivals room (earlier ++ gone :: between) w ++ back.subject :: others) := by
  refine ⟨?_, ?_, fun member v => ⟨?_, ?_⟩, ?_⟩
  · rw [run_applyRoom hwelcome hmonitored]
    exact agenda_events hr hmode hactive hno
  · exact ((routine_creations w.creations).likeness.applyRoom room events).keeps w rfl
  · exact creations_welcomeNewcomer room member v
  · exact hosted_welcomeNewcomer room member v
  · rintro hd earlier between later gone back rfl hgone hback hsubject hbetween
    have harrival := isArrival_of_return hr hd hactive
      (fun e he => hno e (List.mem_append_left _ he)) hgone hbetween hback hsubject
    let met := (((earlier ++ gone :: between).forM (applyEvent room)).run w).2
    refine ⟨arrivals room later ((applyEvent room back).run met).2, ?_⟩
    rw [arrivals_append, arrivals, if_pos harrival]

end

section

attribute [local instance] Sample.surroundings

/-- A newcomer joins the lobby, joins it once more, is removed and comes back: two welcome rooms are
asked for. -/
theorem newcomer_welcomed_twice :
    let w := (World.initial (Bot.initial ⟨"@warden:x"⟩ (.inMemory Sample.hospitable)) ()).after
      [.start 0]
    let joins (ts : Timestamp) : Event := .membership Sample.bob Sample.bob .join none ts
    let removed : Event := .membership Sample.alice Sample.bob .leave none 3
    let events := [joins 1, joins 2, removed, joins 4]
    arrivals Sample.lobby events w = [Sample.bob, Sample.bob] ∧
      ((applyRoom Sample.lobby events).run w).2.agenda =
        { w.agenda with
          ready := w.ready ++ [.greet Sample.lobby Sample.bob, .greet Sample.lobby Sample.bob] } ∧
      ∃ others, arrivals Sample.lobby events w =
        arrivals Sample.lobby [joins 1, joins 2, removed] w ++ Sample.bob :: others := by
  intro w joins removed events
  have harrivals : arrivals Sample.lobby events w = [Sample.bob, Sample.bob] := by decide +kernel
  have htracked : (w.bot.rooms.find? Sample.lobby).isSome = true := by decide +kernel
  obtain ⟨r, hr⟩ := Option.isSome_iff_exists.1 htracked
  have hmode : w.bot.rooms.hasMode Sample.lobby .welcome = true := by decide +kernel
  rw [RoomStore.hasMode, hr] at hmode
  have hreachable : Reachable w := (Reachable.initial _ _ _).after _
  have hd : r.Disjoint := hreachable.disjoint r (RoomStore.mem_records_of_find? hr)
  have hno : ∀ e ∈ events, ¬ e.IsCommand w.bot Sample.lobby := by
    have htext : ∀ e ∈ events, e.textBody? = none := by decide +kernel
    rintro e he ⟨-, body, command, hbody, -⟩
    rw [htext e he] at hbody
    cases hbody
  obtain ⟨hagenda, -, -, hreturns⟩ := one_welcome_per_arrival (by decide +kernel)
    (by decide +kernel) hr hmode (by decide +kernel) events hno
  refine ⟨harrivals, ?_, ?_⟩
  · rw [harrivals] at hagenda
    exact hagenda
  · exact hreturns hd [joins 1, joins 2] [] [] removed (joins 4) rfl (by decide +kernel)
      (by decide +kernel) rfl nofun

/-- The moderator has given the mode to the welcome room that the bot has taken in. -/
def Sample.salon : World :=
  Sample.hospitality.after [.chat Sample.lobby Sample.alice "!room !new:x mode add WELCOME"]

/-- A room that is a welcome room itself may be monitored and tracked and have the mode `WELCOME`,
and still nobody who arrives in it is welcomed: nothing comes of their arrival at all. -/
theorem arrival_in_welcome_room :
    let carol : MemberId := ⟨"@carol:x"⟩
    let joins : Event := .membership carol carol .join none 3
    Reachable Sample.salon ∧ Sample.salon.bot.config.isMonitored Sample.parlour = true ∧
      (∃ r, Sample.salon.bot.rooms.find? Sample.parlour = some r ∧ r.hasMode .welcome = true) ∧
      Sample.salon.bot.config.bot.passive = false ∧
      (∀ e ∈ [joins], ¬ e.IsCommand Sample.salon.bot Sample.parlour) ∧
      arrivals Sample.parlour [joins] Sample.salon = [carol] ∧
      ((applyRoom Sample.parlour [joins]).run Sample.salon).2 = Sample.salon := by
  intro carol joins
  have hreachable : Reachable Sample.salon := ((Reachable.initial _ _ _).after _).after _
  have htracked : (Sample.salon.bot.rooms.find? Sample.parlour).isSome = true := by decide +kernel
  obtain ⟨r, hr⟩ := Option.isSome_iff_exists.1 htracked
  have hmode : Sample.salon.bot.rooms.hasMode Sample.parlour .welcome = true := by decide +kernel
  rw [RoomStore.hasMode, hr] at hmode
  have hno : ∀ e ∈ [joins], ¬ e.IsCommand Sample.salon.bot Sample.parlour := by
    have htext : ∀ e ∈ [joins], e.textBody? = none := by decide +kernel
    rintro e he ⟨-, body, command, hbody, -⟩
    rw [htext e he] at hbody
    cases hbody
  refine ⟨hreachable, by decide +kernel, ⟨r, hr, hmode⟩, by decide +kernel, hno,
    by decide +kernel, ?_⟩
  rw [run_applyRoom_of_welcome (by decide +kernel) (by decide +kernel)]

end

end RoomModeration
