import RoomModeration.Proofs.Feed
import RoomModeration.Proofs.Room.Disjoint
import RoomModeration.Proofs.Room.Meaning

/-!
# Records follow the rooms

A member of a room is banned, or present, or neither. The homeserver tells of it in membership
events, and the record of a monitored room follows them: after any events, in any batches, each
member has the status that the fresh and well formed events about them give, one after the other.

The bot does not apply this rule. It reads each event against the record first, and takes a
departure of a banned member for the lifting of the ban and a join of a present member for a change
of profile. That this comes to the same is owed to nobody being both present and banned.

## Main definitions

* `MemberStatus`, `RoomRecord.status` : the status of a member.
* `Event.statusAfter` : the status after an event.
* `Event.IsCommand` : an event is a command of an admin.

## Main results

* `RoomRecord.status_onRecord` : a change of membership, told by its status.
* `status_of_applyRoom` : records follow the rooms.
-/

namespace RoomModeration

open BotM RoomModeration.Bot

/-- The status of a member in a room. -/
inductive MemberStatus where
  /-- The member is banned for this reason. -/
  | banned (reason : String)
  /-- The member is present. -/
  | joined
  /-- The member is neither banned nor present. -/
  | absent
  deriving DecidableEq, Repr

/-- The status of a member in a record. -/
def RoomRecord.status (r : RoomRecord) (member : MemberId) : MemberStatus :=
  match r.banned[member]? with
  | some reason => .banned reason
  | none => if r.members.contains member then .joined else .absent

/-- The status of a member after an event: a fresh and well formed membership event about them gives
it, and no other event does. A ban without a reason has the empty one. -/
def Event.statusAfter (e : Event) (readyTs : Timestamp) (member : MemberId) (s : MemberStatus) :
    MemberStatus :=
  if readyTs < e.timestamp ∧ e.subject = member then
    match e.memberContent with
    | .content content =>
      match content.membership with
      | .join => .joined
      | .leave => .absent
      | .ban => .banned (content.reason.getD "")
      | .other _ => s
    | .malformed | .unrelated => s
  else s

/-- The status of a member after some events. -/
def statusAfterAll (events : List Event) (readyTs : Timestamp) (member : MemberId)
    (s : MemberStatus) : MemberStatus :=
  events.foldl (fun s e => e.statusAfter readyTs member s) s

/-- An event is a command: it is a fresh message that the bot heeds. -/
def Event.IsCommand (e : Event) (b : Bot) (room : RoomId) : Prop :=
  b.readyTs < e.timestamp ∧
    ∃ body command, e.textBody? = some body ∧ b.Heeds room e.sender body command

/-- Which events are commands is no matter of the records. -/
theorem Event.IsCommand.of_withRooms {e : Event} {b : Bot} {room : RoomId} {s : RoomStore}
    (h : e.IsCommand { b with rooms := s } room) : e.IsCommand b room := by
  obtain ⟨hfresh, body, command, htext, hheeds⟩ := h
  exact ⟨hfresh, body, command, htext, hheeds.foreign, hheeds.allowed, hheeds.parsed⟩

/-! ### Changes of one member -/

namespace RoomRecord

variable {r : RoomRecord} {member m : MemberId} {reason : String}

theorem status_congr {r' : RoomRecord} (hbanned : r'.banned[m]? = r.banned[m]?)
    (hmembers : r'.members.contains m = r.members.contains m) : r'.status m = r.status m := by
  rw [status, status, hbanned, hmembers]

theorem status_eq_joined (h : r.Disjoint) (hpresent : r.members.contains member = true) :
    r.status member = .joined := by
  have hbanned := h member hpresent
  rw [lists_eq_isSome, Option.isSome_eq_false_iff, Option.isNone_iff_eq_none] at hbanned
  simp only [status, hbanned, hpresent, if_true]

theorem status_join (r : RoomRecord) (member m : MemberId) :
    (r.join member).status m = if member = m then .joined else r.status m := by
  by_cases h : member = m
  · subst h
    simp [status, join]
  · rw [if_neg h]
    refine status_congr ?_ ?_
    · simp [join, Std.ExtTreeMap.getElem?_erase, h]
    · simp [join, Std.ExtTreeSet.contains_insert, h]

theorem status_ban (r : RoomRecord) (member m : MemberId) (reason : String) :
    (r.ban member reason).status m = if member = m then .banned reason else r.status m := by
  by_cases h : member = m
  · subst h
    simp [status, ban]
  · rw [if_neg h]
    refine status_congr ?_ ?_
    · simp [ban, Std.ExtTreeMap.getElem?_insert, h]
    · simp [ban, Std.ExtTreeSet.contains_erase, h]

/-- A member who is not listed and leaves is absent. -/
theorem status_leave (hno : r.lists member = false) (m : MemberId) :
    (r.leave member).status m = if member = m then .absent else r.status m := by
  by_cases h : member = m
  · subst h
    rw [lists_eq_isSome, Option.isSome_eq_false_iff, Option.isNone_iff_eq_none] at hno
    simp [status, leave, hno]
  · rw [if_neg h]
    refine status_congr rfl ?_
    simp [leave, Std.ExtTreeSet.contains_erase, h]

/-- A member whose ban is lifted is absent, because a banned member is not present. -/
theorem status_unban (h : r.Disjoint) (hlists : r.lists member = true) (m : MemberId) :
    (r.unban member).status m = if member = m then .absent else r.status m := by
  by_cases hm : member = m
  · subst hm
    have hgone : r.members.contains member = false := by
      by_contra hpresent
      rw [h member (Bool.not_eq_false _ ▸ hpresent)] at hlists
      cases hlists
    simp [status, unban, hgone]
  · rw [if_neg hm]
    refine status_congr ?_ rfl
    simp [unban, Std.ExtTreeMap.getElem?_erase, hm]

theorem Disjoint.onRecord (h : r.Disjoint) (t : Transition) : (t.onRecord r).Disjoint := by
  cases t with
  | join member => exact h.join member
  | leave member => exact h.leave member
  | unban member => exact h.unban member
  | ban member _ reason => exact h.ban member reason
  | other => exact h

end RoomRecord

/-! ### One event -/

section

variable {e : Event} {selfId : MemberId} {readyTs : Timestamp} {store : RoomStore} {room : RoomId}
  {r : RoomRecord}

theorem Event.statusAfter_of_stale (h : e.timestamp ≤ readyTs) (m : MemberId) (s : MemberStatus) :
    e.statusAfter readyTs m s = s := by
  rw [statusAfter, if_neg]
  rintro ⟨hfresh, -⟩
  exact absurd h (Int64.not_le.2 hfresh)

theorem Event.statusAfter_of_ne {m : MemberId} (h : e.subject ≠ m) (s : MemberStatus) :
    e.statusAfter readyTs m s = s := by
  rw [statusAfter, if_neg]
  rintro ⟨-, hsubject⟩
  exact h hsubject

theorem Event.statusAfter_of_content {content : MemberContent} (hfresh : ¬ e.timestamp ≤ readyTs)
    (hcontent : e.memberContent = .content content) (s : MemberStatus) :
    e.statusAfter readyTs e.subject s =
      match content.membership with
      | .join => .joined
      | .leave => .absent
      | .ban => .banned (content.reason.getD "")
      | .other _ => s := by
  rw [statusAfter, if_pos ⟨Int64.not_le.1 hfresh, rfl⟩, hcontent]

theorem Event.statusAfter_of_no_content (h : ∀ content, e.memberContent ≠ .content content)
    (m : MemberId) (s : MemberStatus) : e.statusAfter readyTs m s = s := by
  unfold statusAfter
  split
  · cases hcontent : e.memberContent with
    | content content => exact absurd hcontent (h content)
    | malformed | unrelated => rfl
  · rfl

/-- A change of membership leads to the status that its event gives. -/
theorem RoomRecord.status_onRecord {t : Transition} (hr : store.find? room = some r)
    (hd : r.Disjoint) (ht : e.meaning selfId readyTs store room = .membership t) (m : MemberId) :
    (t.onRecord r).status m = e.statusAfter readyTs m (r.status m) := by
  obtain ⟨hfresh, -, ⟨hmalformed, rfl⟩ | ⟨content, hcontent, hmeans⟩⟩ :=
    Event.membership_of_meaning ht
  · rw [Event.statusAfter_of_no_content fun content h => by rw [hmalformed] at h; cases h]
    rfl
  -- The status of the subject is the one given, and that of anybody else stays.
  suffices hsubject : ∀ s : MemberStatus, e.statusAfter readyTs e.subject (r.status e.subject) = s →
      (t.onRecord r).status m = if e.subject = m then s else r.status m by
    rw [hsubject _ rfl]
    split
    · next h => rw [h]
    · next h => rw [Event.statusAfter_of_ne h]
  rintro s rfl
  rw [Event.statusAfter_of_content hfresh hcontent]
  have hlisted : store.isBanned room e.subject = r.lists e.subject := by
    rw [RoomStore.isBanned, hr]
    rfl
  unfold MemberContent.meaning at hmeans
  cases hword : content.membership with
  | join =>
    rw [hword] at hmeans
    dsimp only at hmeans
    split at hmeans
    · cases hmeans
    · obtain rfl := Meaning.membership.inj hmeans
      exact r.status_join e.subject m
  | leave =>
    rw [hword, hlisted] at hmeans
    obtain rfl := Meaning.membership.inj hmeans
    cases hlists : r.lists e.subject with
    | true => exact RoomRecord.status_unban hd hlists m
    | false => exact RoomRecord.status_leave hlists m
  | ban =>
    rw [hword] at hmeans
    obtain rfl := Meaning.membership.inj hmeans
    exact r.status_ban e.subject m _
  | other word =>
    rw [hword] at hmeans
    obtain rfl := Meaning.membership.inj hmeans
    change r.status m = _
    split
    · next h => rw [h]
    · rfl

/-- An event that means no change of membership gives everybody the status that they have. -/
theorem RoomRecord.statusAfter_of_meaning (hr : store.find? room = some r) (hd : r.Disjoint)
    (hno : ∀ t, e.meaning selfId readyTs store room ≠ .membership t) (m : MemberId) :
    e.statusAfter readyTs m (r.status m) = r.status m := by
  by_cases hstale : e.timestamp ≤ readyTs
  · exact Event.statusAfter_of_stale hstale m _
  by_cases hsubject : e.subject = m
  · subst hsubject
    cases hcontent : e.memberContent with
    | unrelated | malformed =>
      exact Event.statusAfter_of_no_content (fun content h => by rw [hcontent] at h; cases h) _ _
    | content content =>
      rw [Event.statusAfter_of_content hstale hcontent]
      rw [Event.meaning_of_content hstale hcontent, MemberContent.meaning] at hno
      cases hword : content.membership with
      | join =>
        rw [hword] at hno
        -- A join that changes nothing is that of a present member.
        cases hpresent : store.isMember room e.subject with
        | true =>
          rw [RoomStore.isMember, hr] at hpresent
          exact (RoomRecord.status_eq_joined hd hpresent).symm
        | false =>
          rw [hpresent] at hno
          exact absurd rfl (hno _)
      | leave | ban =>
        rw [hword] at hno
        exact absurd rfl (hno _)
      | other word => rfl
  · exact Event.statusAfter_of_ne hsubject _

end

/-! ### Delivering events -/

/-- What becomes of a bot and the record of a room while events of the room arrive: nothing else but
records changes, and the status of each member changes in a certain way. -/
structure Follows (room : RoomId) (r : RoomRecord) (change : MemberId → MemberStatus → MemberStatus)
    (b b' : Bot) : Prop where
  bot : b' = { b with rooms := b'.rooms }
  record : ∃ r', b'.rooms.find? room = some r' ∧ r'.Disjoint ∧ r'.modes = r.modes ∧
    r'.params = r.params ∧ ∀ m, r'.status m = change m (r.status m)

/-- One change after the other. -/
theorem Follows.trans {room : RoomId} {r r' : RoomRecord} {b b' b'' : Bot}
    {change change' : MemberId → MemberStatus → MemberStatus} (h : Follows room r change b b')
    (hr' : b'.rooms.find? room = some r') (h' : Follows room r' change' b' b'') :
    Follows room r (fun m s => change' m (change m s)) b b'' := by
  obtain ⟨hbot, t, ht, -, hmodes, hparams, hstatus⟩ := h
  rw [hr'] at ht
  obtain rfl := Option.some.inj ht
  obtain ⟨hbot', r'', hr'', hd'', hmodes', hparams', hstatus'⟩ := h'
  refine ⟨?_, r'', hr'', hd'', hmodes'.trans hmodes, hparams'.trans hparams, fun m => ?_⟩
  · rw [hbot', hbot]
  · rw [hstatus', hstatus]

section

variable [Surroundings] {w : World} {room : RoomId} {r : RoomRecord}

/-- What carries a change over to other rooms leaves the record of its own room. -/
theorem find?_of_carried {w' : World} {t : Transition} {selfId : MemberId} {store : RoomStore}
    {l : List (Sanction × Bool)} (h : Series (w.withRooms store) l w')
    (hl : l.map Prod.fst = t.carried selfId room store) :
    w'.bot.rooms.find? room = store.find? room := by
  have hnone : (accepted l).filter (·.room = room) = [] := by
    refine List.filter_eq_nil_iff.2 fun b hb hroom => ?_
    have hmem := (accepted_sublist l).subset hb
    rw [hl, Transition.carried] at hmem
    cases hsanction : t.sanction? selfId room with
    | none =>
      rw [hsanction] at hmem
      exact List.not_mem_nil hmem
    | some a =>
      rw [hsanction] at hmem
      obtain ⟨s, -, hne, -, -, rfl⟩ := Sanction.mem_carried_iff.1 hmem
      rw [Transition.room_of_sanction? hsanction] at hne
      exact hne (of_decide_eq_true hroom)
  rw [h.bot_eq]
  change (store.sanctionAll (accepted l)).find? room = store.find? room
  rw [RoomStore.find?_sanctionAll, hnone]
  exact Option.map_id'

/-- An event that is no command changes the status of its subject as it tells. -/
theorem follows_of_applyEvent {e : Event} (hr : w.bot.rooms.find? room = some r) (hd : r.Disjoint)
    (hactive : w.bot.config.bot.passive = false) (hno : ¬ e.IsCommand w.bot room) :
    Follows room r (e.statusAfter w.bot.readyTs) w.bot ((applyEvent room e).run w).2.bot := by
  have htracked : w.bot.rooms.isTracked room = true := by
    by_contra h
    rw [RoomStore.find?_eq_none_iff.2 (by simpa using h)] at hr
    cases hr
  have hsame : ∀ b', b' = w.bot →
      (∀ t, e.meaning w.bot.selfId w.bot.readyTs w.bot.rooms room ≠ .membership t) →
      Follows room r (e.statusAfter w.bot.readyTs) w.bot b' := by
    rintro b' rfl hmeaning
    exact ⟨rfl, r, hr, hd, rfl, rfl, fun m => (r.statusAfter_of_meaning hr hd hmeaning m).symm⟩
  cases applyEvent_cases room e w with
  | passed why alike =>
    refine hsame _ alike.bot ?_
    rcases why with hpassive | huntracked | hmeaning
    · rw [hactive] at hpassive
      cases hpassive
    · rw [htracked] at huntracked
      cases huntracked
    · exact hmeaning
  | message sender body meaning received =>
    cases received with
    | unheeded _ spoken =>
      refine hsame _ spoken.bot_eq fun t ht => ?_
      rw [meaning] at ht
      cases ht
    | heeded command heeds =>
      obtain ⟨hfresh, rfl, htext⟩ := Event.chat_of_meaning meaning
      exact absurd ⟨Int64.not_le.1 hfresh, body, command, htext, heeds⟩ hno
  | changed t meaning _ _ l series carried =>
    refine ⟨?_, t.onRecord r, ?_, hd.onRecord t, t.onRecord_modes r, t.onRecord_params r, ?_⟩
    · rw [series.bot_eq]
      rfl
    · rw [find?_of_carried series carried, Transition.find?_onStore, if_pos rfl, hr]
      rfl
    · exact r.status_onRecord hr hd meaning

/-- Events that are no commands, one after the other. -/
theorem follows_of_events {events : List Event} (hr : w.bot.rooms.find? room = some r)
    (hd : r.Disjoint) (hactive : w.bot.config.bot.passive = false)
    (hno : ∀ e ∈ events, ¬ e.IsCommand w.bot room) :
    Follows room r (statusAfterAll events w.bot.readyTs) w.bot
      ((events.forM (applyEvent room)).run w).2.bot := by
  induction events generalizing w r with
  | nil => exact ⟨rfl, r, hr, hd, rfl, rfl, fun _ => rfl⟩
  | cons e events ih =>
    have hfirst := follows_of_applyEvent hr hd hactive (hno e List.mem_cons_self)
    have hbot := hfirst.bot
    obtain ⟨r', hr', hd', -⟩ := hfirst.record
    have hrest := ih hr' hd' (by rw [hbot]; exact hactive)
      fun e he hcommand => hno e (List.mem_cons_of_mem _ he) (hbot ▸ hcommand).of_withRooms
    have hready : ((applyEvent room e).run w).2.bot.readyTs = w.bot.readyTs := by rw [hbot]
    rw [hready] at hrest
    exact hfirst.trans hr' hrest

/-- Batches of events that are no commands, one after the other. -/
theorem follows_of_batches {batches : List (List Event)}
    (hmonitored : w.bot.config.isMonitored room = true)
    (hwelcome : w.bot.welcome.contains room = false) (hr : w.bot.rooms.find? room = some r)
    (hd : r.Disjoint) (hactive : w.bot.config.bot.passive = false)
    (hno : ∀ events ∈ batches, ∀ e ∈ events, ¬ e.IsCommand w.bot room) :
    Follows room r (statusAfterAll batches.flatten w.bot.readyTs) w.bot
      ((batches.forM (applyRoom room)).run w).2.bot := by
  induction batches generalizing w r with
  | nil => exact ⟨rfl, r, hr, hd, rfl, rfl, fun _ => rfl⟩
  | cons events batches ih =>
    have hfirst := follows_of_events hr hd hactive (hno events List.mem_cons_self)
    rw [← run_applyRoom hwelcome hmonitored events] at hfirst
    have hbot := hfirst.bot
    obtain ⟨r', hr', hd', -⟩ := hfirst.record
    have hrest := ih (by rw [hbot]; exact hmonitored) (by rw [hbot]; exact hwelcome) hr' hd'
      (by rw [hbot]; exact hactive)
      fun events hevents e he hcommand =>
        hno events (List.mem_cons_of_mem _ hevents) e he (hbot ▸ hcommand).of_withRooms
    have hready : ((applyRoom room events).run w).2.bot.readyTs = w.bot.readyTs := by rw [hbot]
    rw [hready] at hrest
    have hboth := hfirst.trans hr' hrest
    have hall : (fun m s => statusAfterAll batches.flatten w.bot.readyTs m
        (statusAfterAll events w.bot.readyTs m s)) =
        statusAfterAll (events :: batches).flatten w.bot.readyTs := by
      funext m s
      rw [List.flatten_cons, statusAfterAll, statusAfterAll, statusAfterAll, List.foldl_append]
    rw [hall] at hboth
    exact hboth

/-- In a run, the record of a monitored room that is no welcome room follows the room: after any
batches of events among which there is no command, every member has the status that the events give,
and the modes and parameters are what they were. -/
theorem status_of_applyRoom (h : Reachable w) (hmonitored : w.bot.config.isMonitored room = true)
    (hwelcome : w.bot.welcome.contains room = false) (hr : w.bot.rooms.find? room = some r)
    (hactive : w.bot.config.bot.passive = false) (batches : List (List Event))
    (hno : ∀ events ∈ batches, ∀ e ∈ events, ¬ e.IsCommand w.bot room) :
    ∃ r', ((batches.forM (applyRoom room)).run w).2.bot.rooms.find? room = some r' ∧
      r'.modes = r.modes ∧ r'.params = r.params ∧
      ∀ member, r'.status member =
        statusAfterAll batches.flatten w.bot.readyTs member (r.status member) := by
  have hd : r.Disjoint := h.disjoint r (RoomStore.mem_records_of_find? hr)
  obtain ⟨-, r', hr', -, hmodes, hparams, hstatus⟩ :=
    follows_of_batches hmonitored hwelcome hr hd hactive hno
  exact ⟨r', hr', hmodes, hparams, hstatus⟩

end

section

attribute [local instance] Sample.surroundings

/-- A member is banned in one batch and set free again in the next one. -/
theorem status_after_ban_and_pardon :
    let start : Happening := .start 0
    let w₀ := World.initial (Bot.initial ⟨"@warden:x"⟩ (.inMemory Sample.config)) ()
    let w := (start.run.run w₀).2
    let pardon : Event := .membership Sample.alice Sample.mallory .leave none 2
    ∃ r r', w.bot.rooms.find? Sample.lobby = some r ∧
      (([[Sample.ban], [pardon]].forM (applyRoom Sample.lobby)).run w).2.bot.rooms.find?
        Sample.lobby = some r' ∧
      r'.modes = r.modes ∧ r'.params = r.params ∧ r'.status Sample.mallory = .absent := by
  intro start w₀ w pardon
  have hreachable : Reachable w := (Reachable.initial _ _ _).step start
  have htracked : (w.bot.rooms.find? Sample.lobby).isSome = true := by decide +kernel
  obtain ⟨r, hr⟩ := Option.isSome_iff_exists.1 htracked
  have hno : ∀ events ∈ [[Sample.ban], [pardon]], ∀ e ∈ events,
      ¬ e.IsCommand w.bot Sample.lobby := by
    have htext : ∀ events ∈ [[Sample.ban], [pardon]], ∀ e ∈ events, e.textBody? = none := by
      decide +kernel
    rintro events hevents e he ⟨-, body, command, hbody, -⟩
    rw [htext events hevents e he] at hbody
    cases hbody
  obtain ⟨r', hr', hmodes, hparams, hstatus⟩ :=
    status_of_applyRoom hreachable (by decide +kernel) (by decide +kernel) hr (by decide +kernel)
      [[Sample.ban], [pardon]] hno
  have hready : w.bot.readyTs = 0 := by decide +kernel
  have habsent : ∀ s,
      statusAfterAll [[Sample.ban], [pardon]].flatten 0 Sample.mallory s = .absent := by
    intro s
    cases s <;> rfl
  refine ⟨r, r', hr, hr', hmodes, hparams, ?_⟩
  rw [hstatus, hready, habsent]

end

end RoomModeration
