import RoomModeration.Proofs.BanList.Echo
import RoomModeration.Proofs.BanList.Propagation

/-!
# When a member lifts their own ban

What a member sends about themselves does not touch their bans in other rooms, with one exception.
The feed does not tell a departure from the lifting of a ban; the bot takes a departure for the
lifting of a ban where the record lists the member. So a member who leaves a room and whose
departure is delivered only after their ban was recorded is taken for someone who has been pardoned,
and this is carried over like any other pardon.

It is the only exception: without power to give commands, nothing else that a member says or does
lifts a ban of theirs in another room, and in the exception just what a pardon would do is done.

## Main definitions

* `Event.IsOwn` : an event that a member has sent about themselves.
* `Event.Pardons` : an event that is taken for the lifting of a ban.
* `LiftsNothingSince` : no ban was lifted since a point of the history.
* `World.KeepsBans`, `World.CarriesPardon` : what an own event leads to.

## Main results

* `kept_of_applyEvent`, `pardoned_of_applyEvent` : an own event leads to one or the other.
* `ban_kept_or_pardoned` : the same after any own events.
* `departure_lifts_ban` : the exception occurs.
-/

namespace RoomModeration

open BotM RoomModeration.Bot

/-- An event that a member has sent about themselves. -/
structure Event.IsOwn (e : Event) (member : MemberId) : Prop where
  sender : e.sender = member
  subject : e.isMembership = true → e.subject = member

/-- An event of a room is taken for the lifting of a ban: the bot is active and monitors the room as
no welcome room, and the event is a fresh departure of a member whom the record lists. -/
structure Event.Pardons (e : Event) (b : Bot) (room : RoomId) : Prop where
  active : b.config.bot.passive = false
  notWelcome : b.welcome.contains room = false
  monitored : b.config.isMonitored room = true
  fresh : ¬ e.timestamp ≤ b.readyTs
  departs : ∃ content, e.memberContent = .content content ∧ content.membership = .leave
  listed : b.rooms.isBanned room e.subject = true

/-- Whoever was listed in a room other than this one is still listed there. -/
def RoomStore.KeepsElsewhere (room : RoomId) (member : MemberId) (s s' : RoomStore) : Prop :=
  ∀ other, other ≠ room → s.isBanned other member = true → s'.isBanned other member = true

theorem RoomStore.isBanned_congr {s s' : RoomStore} {room : RoomId} {member : MemberId}
    (h : s'.find? room = s.find? room) : s'.isBanned room member = s.isBanned room member := by
  rw [isBanned, isBanned, h]

/-- A change of membership shows in its own room only. -/
theorem keepsElsewhere_onStore (t : Transition) (room : RoomId) (member : MemberId)
    (s : RoomStore) : s.KeepsElsewhere room member (t.onStore room s) := by
  intro other hother hlisted
  rwa [RoomStore.isBanned_congr]
  rw [t.find?_onStore, if_neg hother]

section

variable [Surroundings] {w w' : World} {room : RoomId} {e : Event} {member : MemberId}
  {a : Sanction} {older : List Occurrence} {targets applied : List RoomId}
  {made : List Occurrence}

/-- Since a point of the history the bot has not asked for the lifting of a ban. -/
def LiftsNothingSince (older : List Occurrence) (w : World) : Prop :=
  ∃ new, w.history = new ++ older ∧ ∀ o ∈ new, ∀ a ok, o.sanction? = some (a, ok) →
    a.reason?.isSome = true

/-- It has, if its last deed since then was to lift one. -/
theorem not_liftsNothingSince {ok : Bool} (hsince : older.length < w.history.length)
    (hlast : w.history.head?.bind (·.sanction?) = some (⟨room, member, none⟩, ok)) :
    ¬ LiftsNothingSince older w := by
  rintro ⟨new, hw, hkeeps⟩
  cases new with
  | nil =>
    rw [hw] at hsince
    exact Nat.lt_irrefl _ hsince
  | cons o new =>
    rw [hw] at hlast
    cases hkeeps o List.mem_cons_self _ ok hlast

theorem SilentSince.liftsNothingSince (h : SilentSince older w) : LiftsNothingSince older w := by
  obtain ⟨new, hw, hsilent⟩ := h
  refine ⟨new, hw, fun o ho a ok ha => ?_⟩
  rw [hsilent o ho] at ha
  cases ha

/-- On the way from one world to another no ban was lifted, and whoever was listed in a room other
than this one is still listed there. -/
structure World.KeepsBans (w : World) (room : RoomId) (member : MemberId) (w' : World) : Prop where
  lifted : LiftsNothingSince w.history w'
  listed : w.bot.rooms.KeepsElsewhere room member w'.bot.rooms

theorem World.KeepsBans.of_alike (h : Alike w w') : w.KeepsBans room member w' where
  lifted := ⟨[], h.history, fun _ ho => absurd ho List.not_mem_nil⟩
  listed := by
    rw [h.bot]
    exact fun _ _ hlisted => hlisted

theorem World.KeepsBans.of_speaking (h : Trace Speaking w w') : w.KeepsBans room member w' where
  lifted := by
    have hupkeep : Trace Upkeep w w' := h.within
    exact ((preserves_silentSince _).trace hupkeep (.refl w)).liftsNothingSince
  listed := by
    rw [h.bot_eq]
    exact fun _ _ hlisted => hlisted

/-- On the way from one world to another the lifting of a ban shows in a room and is carried over to
the other rooms. -/
def World.CarriesPardon (w : World) (room : RoomId) (member : MemberId) (w' : World) : Prop :=
  ∃ targets applied made, Propagated
    (w.withRooms ((Transition.unban member member).onStore room w.bot.rooms))
    ⟨room, member, none⟩ targets applied made w'

/-! ### Carrying a ban over -/

/-- Carrying a ban over lifts none. -/
theorem Propagated.liftsNothingSince (h : Propagated w a targets applied made w')
    (hban : a.reason?.isSome = true) : LiftsNothingSince w.history w' := by
  refine ⟨made.reverse, h.history, fun o ho b ok hb => ?_⟩
  have hmade : o ∈ made := List.mem_reverse.1 ho
  cases hdry : w.bot.config.actions.dryRun with
  | true =>
    rw [(h.dry hdry).1] at hmade
    cases hmade
  | false =>
    have hasked : some (b, ok) ∈ targets.map fun room =>
        some (a.moveTo room, decide (room ∈ applied)) := by
      rw [← h.wet hdry, ← hb]
      exact List.mem_map_of_mem hmade
    obtain ⟨target, -, heq⟩ := List.mem_map.1 hasked
    obtain ⟨rfl, -⟩ := Prod.mk.inj (Option.some.inj heq)
    exact hban

/-- Carrying a ban over leaves the member listed wherever they were. -/
theorem Propagated.isBanned (h : Propagated w a targets applied made w')
    (hban : a.reason?.isSome = true) {other : RoomId}
    (hlisted : w.bot.rooms.isBanned other a.member = true) :
    w'.bot.rooms.isBanned other a.member = true := by
  by_cases happlied : other ∈ applied
  · obtain ⟨r, r', -, hr', hshows⟩ := h.changed other happlied
    rw [RoomStore.isBanned, hr', Option.any_some, hshows.lists, hban]
  · rwa [RoomStore.isBanned_congr (h.unchanged other happlied)]

/-! ### One event -/

/-- Of the changes of membership that an own event can mean, only that of a departure where the
member is listed is the lifting of a ban. -/
theorem Event.IsOwn.sanction? (hown : e.IsOwn member) {t : Transition}
    (ht : e.meaning w.bot.selfId w.bot.readyTs w.bot.rooms room = .membership t)
    (hsanction : t.sanction? w.bot.selfId room = some a) :
    a.member = member ∧ (a.reason?.isSome = true ∨
      (∃ content, e.memberContent = .content content ∧ content.membership = .leave) ∧
        w.bot.rooms.isBanned room e.subject = true) := by
  obtain ⟨-, -, ⟨-, rfl⟩ | ⟨content, hcontent, hmeans⟩⟩ := Event.membership_of_meaning ht
  · cases hsanction
  have hsubject := hown.subject (Event.isMembership_of_content hcontent)
  unfold MemberContent.meaning at hmeans
  split at hmeans
  · split at hmeans
    · cases hmeans
    · obtain rfl := Meaning.membership.inj hmeans
      cases hsanction
  · next hleave =>
    obtain rfl := Meaning.membership.inj hmeans
    by_cases hlisted : w.bot.rooms.isBanned room e.subject = true
    · rw [if_pos hlisted] at hsanction
      change (if e.sender ≠ w.bot.selfId then some (⟨room, e.subject, none⟩ : Sanction) else none) =
        some a at hsanction
      split at hsanction
      · rw [← Option.some.inj hsanction]
        exact ⟨hsubject, .inr ⟨⟨content, hcontent, hleave⟩, hlisted⟩⟩
      · cases hsanction
    · rw [if_neg hlisted] at hsanction
      cases hsanction
  · obtain rfl := Meaning.membership.inj hmeans
    unfold Transition.sanction? at hsanction
    dsimp only at hsanction
    split at hsanction
    · rw [← Option.some.inj hsanction]
      exact ⟨hsubject, .inl rfl⟩
    · cases hsanction
  · obtain rfl := Meaning.membership.inj hmeans
    cases hsanction

/-- An own message of someone who is no admin is only spoken of. -/
theorem Received.spoken {body : String} (h : Received room member body w w')
    (hadmin : w.bot.config.isAdmin member = false) : Trace Speaking w w' := by
  cases h with
  | unheeded _ spoken => exact spoken
  | heeded command heeds =>
    have hallowed := heeds.allowed
    rw [Config.mayCommand, hadmin, Bool.and_false] at hallowed
    cases hallowed

/-- An own event of someone who is no admin changes nothing but records. -/
theorem bot_of_applyEvent (room : RoomId) (hown : e.IsOwn member)
    (hadmin : w.bot.config.isAdmin member = false) :
    let w' := ((applyEvent room e).run w).2
    w'.bot = { w.bot with rooms := w'.bot.rooms } := by
  cases applyEvent_cases room e w with
  | passed _ alike =>
    dsimp only
    rw [alike.bot]
  | message sender body meaning received =>
    obtain ⟨-, rfl, -⟩ := Event.chat_of_meaning meaning
    rw [hown.sender] at received
    dsimp only
    rw [(received.spoken hadmin).bot_eq]
  | changed t _ _ _ l series =>
    dsimp only
    rw [series.bot_eq]
    rfl

/-- An own event of a monitored room that is not taken for the lifting of a ban lifts none, and
leaves the member listed in every other room. -/
theorem kept_of_applyEvent (hown : e.IsOwn member)
    (hadmin : w.bot.config.isAdmin member = false)
    (hwelcome : w.bot.welcome.contains room = false)
    (hmonitored : w.bot.config.isMonitored room = true) (hno : ¬ e.Pardons w.bot room) :
    w.KeepsBans room member ((applyEvent room e).run w).2 := by
  cases applyEvent_cases room e w with
  | passed _ alike => exact .of_alike alike
  | message sender body meaning received =>
    obtain ⟨-, rfl, -⟩ := Event.chat_of_meaning meaning
    rw [hown.sender] at received
    exact .of_speaking (received.spoken hadmin)
  | changed t meaning active _ l series carried =>
    obtain ⟨hfresh, -, -⟩ := Event.membership_of_meaning meaning
    have hshown := keepsElsewhere_onStore t room member w.bot.rooms
    rw [Transition.carried] at carried
    cases hsanction : t.sanction? w.bot.selfId room with
    | none =>
      rw [hsanction] at carried
      obtain rfl := List.map_eq_nil_iff.1 carried
      cases series with
      | nil alike =>
        refine ⟨⟨[], alike.history, fun _ h => absurd h List.not_mem_nil⟩, ?_⟩
        rw [alike.bot]
        exact hshown
    | some a =>
      rw [hsanction] at carried
      obtain ⟨hmember, hban⟩ := hown.sanction? meaning hsanction
      have hban' : a.reason?.isSome = true := hban.resolve_right fun h =>
        hno ⟨active, hwelcome, hmonitored, hfresh, h.1, h.2⟩
      obtain ⟨made, hpropagated⟩ := series.propagated carried
      refine ⟨hpropagated.liftsNothingSince hban', fun other hother hlisted => ?_⟩
      have hkept := hshown other hother hlisted
      rw [← hmember] at hkept ⊢
      exact hpropagated.isBanned hban' hkept

/-- An own event that is taken for the lifting of a ban shows in its room, and then it is carried
over as such. -/
theorem pardoned_of_applyEvent (hown : e.IsOwn member) (hself : member ≠ w.bot.selfId)
    (hpardons : e.Pardons w.bot room) :
    w.CarriesPardon room member ((applyEvent room e).run w).2 := by
  obtain ⟨content, hcontent, hleave⟩ := hpardons.departs
  have hsubject := hown.subject (Event.isMembership_of_content hcontent)
  have hlisted := hpardons.listed
  rw [hsubject] at hlisted
  have hmeaning : e.meaning w.bot.selfId w.bot.readyTs w.bot.rooms room =
      .membership (.unban member member) := by
    rw [Event.meaning_of_content hpardons.fresh hcontent, MemberContent.meaning, hleave, hsubject,
      hown.sender, if_pos hlisted]
  cases applyEvent_cases room e w with
  | passed why =>
    rcases why with hpassive | huntracked | hno
    · rw [hpardons.active] at hpassive
      cases hpassive
    · rw [RoomStore.isBanned, RoomStore.find?_eq_none_iff.2 huntracked] at hlisted
      cases hlisted
    · exact absurd hmeaning (hno _)
  | message sender body meaning =>
    rw [hmeaning] at meaning
    cases meaning
  | changed t meaning _ _ l series carried =>
    rw [hmeaning] at meaning
    obtain rfl := Meaning.membership.inj meaning
    rw [Transition.carried, Transition.sanction?, if_pos hself] at carried
    obtain ⟨made, hpropagated⟩ := series.propagated carried
    exact ⟨_, _, made, hpropagated⟩

/-! ### Any own events -/

/-- Delivers the events of one room after another. -/
def deliver (batches : List (RoomId × List Event)) : BotM Unit :=
  batches.forM fun p => applyRoom p.1 p.2

theorem run_deliver_snoc (batches : List (RoomId × List Event)) (room : RoomId)
    (events : List Event) (w : World) : ((deliver (batches ++ [(room, events)])).run w).2 =
      ((applyRoom room events).run ((deliver batches).run w).2).2 := by
  induction batches generalizing w with
  | nil => rfl
  | cons p batches ih => exact ih ((applyRoom p.1 p.2).run w).2

/-- In a monitored room that is no welcome room the last event meets the world that the events
before it leave behind. -/
theorem run_applyRoom_snoc (hwelcome : w.bot.welcome.contains room = false)
    (hmonitored : w.bot.config.isMonitored room = true) (events : List Event) (e : Event) :
    ((applyRoom room (events ++ [e])).run w).2 =
      ((applyEvent room e).run ((applyRoom room events).run w).2).2 := by
  have hforM : ∀ v, ((((events ++ [e]).forM (applyEvent room) : BotM Unit)).run v).2 =
      ((applyEvent room e).run ((events.forM (applyEvent room) : BotM Unit).run v).2).2 := by
    induction events with
    | nil => exact fun _ => rfl
    | cons d events ih => exact fun v => ih ((applyEvent room d).run v).2
  rw [run_applyRoom hwelcome hmonitored, run_applyRoom hwelcome hmonitored, hforM]

theorem bot_of_applyRoom (room : RoomId) {events : List Event} (hown : ∀ e ∈ events, e.IsOwn member)
    (hadmin : w.bot.config.isAdmin member = false) :
    let w' := ((applyRoom room events).run w).2
    w'.bot = { w.bot with rooms := w'.bot.rooms } := by
  have hforM : ∀ v : World, v.bot.config.isAdmin member = false →
      ((events.forM (applyEvent room) : BotM Unit).run v).2.bot =
        { v.bot with rooms :=
          ((events.forM (applyEvent room) : BotM Unit).run v).2.bot.rooms } := by
    induction events with
    | nil => exact fun _ _ => rfl
    | cons e events ih =>
      intro v hv
      have hfirst := bot_of_applyEvent room (hown e List.mem_cons_self) hv
      have hrest := ih (fun d hd => hown d (List.mem_cons_of_mem _ hd))
        ((applyEvent room e).run v).2 (by rw [hfirst]; exact hv)
      change ((events.forM (applyEvent room) : BotM Unit).run
        ((applyEvent room e).run v).2).2.bot = _
      rw [hrest, hfirst]
      rfl
  obtain halike | hrun := applyRoom_cases room events w
  · dsimp only
    rw [halike.bot]
  · rw [hrun]
    exact hforM w hadmin

theorem bot_of_deliver {batches : List (RoomId × List Event)}
    (hown : ∀ p ∈ batches, ∀ e ∈ p.2, e.IsOwn member)
    (hadmin : w.bot.config.isAdmin member = false) :
    let w' := ((deliver batches).run w).2
    w'.bot = { w.bot with rooms := w'.bot.rooms } := by
  induction batches generalizing w with
  | nil => rfl
  | cons p batches ih =>
    have hfirst := bot_of_applyRoom p.1 (hown p List.mem_cons_self) hadmin
    have hadmin' : ((applyRoom p.1 p.2).run w).2.bot.config.isAdmin member = false := by
      rw [hfirst]
      exact hadmin
    have hrest := ih (fun q hq => hown q (List.mem_cons_of_mem _ hq)) hadmin'
    dsimp only at hrest ⊢
    change ((deliver batches).run ((applyRoom p.1 p.2).run w).2).2.bot = _
    rw [hrest, hfirst]
    rfl

/-- The last of some own events in a room, when its turn comes, lifts no ban and leaves the member
listed in every other room, or it is taken for the lifting of a ban and carried over as such. -/
theorem kept_or_pardoned_of_applyRoom (room : RoomId) {earlier : List Event}
    (hearlier : ∀ e ∈ earlier, e.IsOwn member) (hown : e.IsOwn member)
    (hself : member ≠ w.bot.selfId) (hadmin : w.bot.config.isAdmin member = false) :
    let w₁ := ((applyRoom room earlier).run w).2
    let w₂ := ((applyRoom room (earlier ++ [e])).run w).2
    (¬ e.Pardons w₁.bot room → w₁.KeepsBans room member w₂) ∧
    (e.Pardons w₁.bot room → w₁.CarriesPardon room member w₂) := by
  intro w₁ w₂
  have hbot : w₁.bot = { w.bot with rooms := w₁.bot.rooms } :=
    bot_of_applyRoom room hearlier hadmin
  have hwelcome : w₁.bot.welcome = w.bot.welcome := by rw [hbot]
  have hconfig : w₁.bot.config = w.bot.config := by rw [hbot]; rfl
  by_cases h : w.bot.welcome.contains room = false ∧ w.bot.config.isMonitored room = true
  · have hstep : w₂ = ((applyEvent room e).run w₁).2 := run_applyRoom_snoc h.1 h.2 earlier e
    rw [← hwelcome, ← hconfig] at h
    have hself₁ : member ≠ w₁.bot.selfId := by
      rw [hbot]
      exact hself
    have hadmin₁ : w₁.bot.config.isAdmin member = false := by
      rw [hconfig]
      exact hadmin
    rw [hstep]
    exact ⟨kept_of_applyEvent hown hadmin₁ h.1 h.2, pardoned_of_applyEvent hown hself₁⟩
  · have hpassed : ∀ events, Alike w ((applyRoom room events).run w).2 :=
      alike_applyRoom fun hroom => by simpa [hroom] using h
    have halike : Alike w₁ w₂ := (hpassed earlier).symm.trans (hpassed _)
    rw [← hwelcome, ← hconfig] at h
    exact ⟨fun _ => .of_alike halike,
      fun hpardons => absurd ⟨hpardons.notWelcome, hpardons.monitored⟩ h⟩

/-- Someone who is neither the bot nor an admin sends events about themselves, in any rooms and in
any order. Each of them, when its turn comes, lifts no ban and leaves them listed in every other
room, unless it is taken for the lifting of a ban; then it is carried over as such, and does nothing
else. -/
theorem ban_kept_or_pardoned (hself : member ≠ w.bot.selfId)
    (hadmin : w.bot.config.isAdmin member = false) (batches : List (RoomId × List Event))
    (hbatches : ∀ p ∈ batches, ∀ e ∈ p.2, e.IsOwn member) (earlier : List Event)
    (hearlier : ∀ e ∈ earlier, e.IsOwn member) (hown : e.IsOwn member) :
    let w₁ := ((deliver (batches ++ [(room, earlier)])).run w).2
    let w₂ := ((deliver (batches ++ [(room, earlier ++ [e])])).run w).2
    (¬ e.Pardons w₁.bot room → w₁.KeepsBans room member w₂) ∧
    (e.Pardons w₁.bot room → w₁.CarriesPardon room member w₂) := by
  dsimp only
  rw [run_deliver_snoc, run_deliver_snoc]
  have hbefore := bot_of_deliver hbatches hadmin
  dsimp only at hbefore
  refine kept_or_pardoned_of_applyRoom room hearlier hown ?_ ?_
  · rw [hbefore]
    exact hself
  · rw [hbefore]
    exact hadmin

end

/-! ### The exception occurs -/

section

attribute [local instance] Sample.surroundings

namespace Sample

/-- The feed has told of the ban in the lobby, and the bot has repeated it in the attic. -/
def banned : World :=
  started.after [.batch ⟨"s1", .ofList [(lobby, [ban])], ∅, 0⟩]

/-- The member tries to give a command. -/
def remark : Event :=
  .chatMessage mallory "!room del !lobby:x" 1

/-- The member has left the attic, and this becomes known late. -/
def lateDeparture : Event :=
  .membership mallory mallory .leave none 2

theorem reachable_banned : Reachable banned :=
  reachable_started.after _

theorem isOwn_remark : remark.IsOwn mallory where
  sender := rfl
  subject h := absurd h (by decide +kernel)

theorem isOwn_lateDeparture : lateDeparture.IsOwn mallory where
  sender := rfl
  subject _ := by decide +kernel

end Sample

/-- The member tries to give a command, and then their departure from the attic becomes known. This
is taken for the lifting of the ban. -/
theorem late_departure_pardons :
    Sample.lateDeparture.Pardons ((deliver ([(Sample.lobby, [Sample.remark])] ++
      [(Sample.attic, [])])).run Sample.banned).2.bot Sample.attic ∧
    ((deliver ([(Sample.lobby, [Sample.remark])] ++
      [(Sample.attic, [])])).run Sample.banned).2.CarriesPardon Sample.attic Sample.mallory
      ((deliver ([(Sample.lobby, [Sample.remark])] ++
        [(Sample.attic, [] ++ [Sample.lateDeparture])])).run Sample.banned).2 := by
  have hself : Sample.mallory ≠ Sample.banned.bot.selfId := by decide +kernel
  have hadmin : Sample.banned.bot.config.isAdmin Sample.mallory = false := by decide +kernel
  have hremark : ∀ p ∈ [(Sample.lobby, [Sample.remark])], ∀ e ∈ p.2, e.IsOwn Sample.mallory := by
    intro p hp e he
    rw [List.mem_singleton.1 hp] at he
    rw [List.mem_singleton.1 he]
    exact Sample.isOwn_remark
  have hpardons : Sample.lateDeparture.Pardons ((deliver ([(Sample.lobby, [Sample.remark])] ++
      [(Sample.attic, [])])).run Sample.banned).2.bot Sample.attic :=
    { active := by decide +kernel
      notWelcome := by decide +kernel
      monitored := by decide +kernel
      fresh := by decide +kernel
      departs := ⟨⟨.leave, none, none⟩, by decide +kernel, rfl⟩
      listed := by decide +kernel }
  exact ⟨hpardons, (ban_kept_or_pardoned hself hadmin [(Sample.lobby, [Sample.remark])] hremark []
    (fun _ h => absurd h List.not_mem_nil) Sample.isOwn_lateDeparture).2 hpardons⟩

/-- Nobody else has done anything about the ban, and yet the bot lifts it in the room where the
moderator has given it. -/
theorem departure_lifts_ban :
    Reachable Sample.banned ∧ Sample.mallory ≠ Sample.banned.bot.selfId ∧
      Sample.banned.bot.config.isAdmin Sample.mallory = false ∧
      Sample.lateDeparture.IsOwn Sample.mallory ∧
      Sample.banned.bot.rooms.isBanned Sample.lobby Sample.mallory = true ∧
      let w := ((applyRoom Sample.attic [Sample.lateDeparture]).run Sample.banned).2
      ¬ LiftsNothingSince Sample.banned.history w ∧
        w.bot.rooms.isBanned Sample.lobby Sample.mallory = false := by
  refine ⟨Sample.reachable_banned, by decide +kernel, by decide +kernel,
    Sample.isOwn_lateDeparture, by decide +kernel, ?_, by decide +kernel⟩
  have hlifted : Sample.banned.history.length < (((applyRoom Sample.attic
      [Sample.lateDeparture]).run Sample.banned).2.history).length ∧
      (((applyRoom Sample.attic [Sample.lateDeparture]).run Sample.banned).2.history.head?.bind
        (·.sanction?)) = some (⟨Sample.lobby, Sample.mallory, none⟩, true) := by
    decide +kernel
  exact not_liftsNothingSince hlifted.1 hlifted.2

end

end RoomModeration
