import RoomModeration.Bot.Feed
import RoomModeration.Proofs.BanList.Carrying
import RoomModeration.Proofs.Chat
import RoomModeration.Proofs.Upkeep

/-!
# What an event leads to

An event is passed over, or it is a message, or it changes a membership. A change of membership
shows in the record of its room first; if someone else has banned a member or has lifted a ban, it
is then carried over to the other targets.

## Main definitions

* `Transition.onStore` : the store after a change of membership.
* `Transition.carried` : the sanctions by which it is carried over.
* `Applied` : what an event leads to.

## Main results

* `applyTransition_series` : a change of membership shows, and then there is a series.
* `applyEvent_cases` : what an event leads to is one of three things.
-/

namespace RoomModeration

open BotM RoomModeration.Bot

/-! ### Changes of membership -/

namespace Transition

/-- The record after a change of membership. -/
def onRecord : Transition → RoomRecord → RoomRecord
  | join member, r => r.join member
  | leave member, r => r.leave member
  | unban member _, r => r.unban member
  | ban member _ reason _, r => r.ban member reason
  | other _, r => r

@[simp] theorem onRecord_id (t : Transition) (r : RoomRecord) : (t.onRecord r).id = r.id := by
  cases t <;> rfl

@[simp] theorem onRecord_modes (t : Transition) (r : RoomRecord) :
    (t.onRecord r).modes = r.modes := by
  cases t <;> rfl

@[simp] theorem onRecord_params (t : Transition) (r : RoomRecord) :
    (t.onRecord r).params = r.params := by
  cases t <;> rfl

/-- The store after a change of membership in a room. -/
def onStore (t : Transition) (room : RoomId) (s : RoomStore) : RoomStore :=
  s.modify room t.onRecord t.onRecord_id

theorem find?_onStore (t : Transition) (room other : RoomId) (s : RoomStore) :
    (t.onStore room s).find? other =
      if other = room then (s.find? room).map t.onRecord else s.find? other :=
  s.find?_modify room other t.onRecord t.onRecord_id

theorem onStore_other (word : String) (room : RoomId) (s : RoomStore) :
    (other word).onStore room s = s := by
  refine RoomStore.ext' ?_
  change s.records.map (fun r => if r.id = room then r else r) = s.records
  simp

/-- The sanction as which a change of membership is carried over: a ban or the lifting of one,
unless the bot has given it itself. -/
def sanction? (t : Transition) (selfId : MemberId) (room : RoomId) : Option Sanction :=
  match t with
  | ban member _ reason propagate =>
    if propagate = true then some ⟨room, member, some reason⟩ else none
  | unban member moderator => if moderator ≠ selfId then some ⟨room, member, none⟩ else none
  | join _ | leave _ | other _ => none

theorem room_of_sanction? {t : Transition} {selfId : MemberId} {room : RoomId} {a : Sanction}
    (h : t.sanction? selfId room = some a) : a.room = room := by
  unfold sanction? at h
  split at h
  · split at h
    · obtain rfl := Option.some.inj h
      rfl
    · cases h
  · split at h
    · obtain rfl := Option.some.inj h
      rfl
    · cases h
  all_goals cases h

/-- The sanctions by which a change of membership is carried over. -/
def carried (t : Transition) (selfId : MemberId) (room : RoomId) (s : RoomStore) : List Sanction :=
  match t.sanction? selfId room with
  | some a => a.carried s
  | none => []

end Transition

variable [Surroundings]

/-- The world with other records. -/
def World.withRooms (w : World) (s : RoomStore) : World :=
  { w with bot := { w.bot with rooms := s } }

/-- That a change of membership shows in its room moves the bot nowhere. -/
theorem trace_onStore (t : Transition) (room : RoomId) (w : World) :
    Trace Minding w (w.withRooms (t.onStore room w.bot.rooms)) := by
  cases t with
  | join member =>
    exact .single (d := .change (.joined room member)) trivial (.change _ rfl rfl)
  | leave member =>
    exact .single (d := .change (.left room member)) trivial (.change _ rfl rfl)
  | unban member moderator =>
    exact .single (d := .change (.unbanned room member)) trivial (.change _ rfl rfl)
  | ban member moderator reason propagate =>
    exact .single (d := .change (.banned room member reason)) trivial (.change _ rfl rfl)
  | other word =>
    rw [Transition.onStore_other]
    exact .refl w

/-- A change of membership shows in its room, and then it is carried over. -/
theorem applyTransition_series (room : RoomId) (t : Transition) (w : World) :
    ∃ l, Series (w.withRooms (t.onStore room w.bot.rooms)) l ((applyTransition room t).run w).2 ∧
      l.map Prod.fst = t.carried w.bot.selfId room (t.onStore room w.bot.rooms) := by
  have hquiet : ∀ v, Alike (w.withRooms (t.onStore room w.bot.rooms)) v →
      t.sanction? w.bot.selfId room = none →
      ∃ l, Series (w.withRooms (t.onStore room w.bot.rooms)) l v ∧
        l.map Prod.fst = t.carried w.bot.selfId room (t.onStore room w.bot.rooms) := by
    intro v hv hnone
    rw [Transition.carried, hnone]
    exact ⟨[], .nil hv, rfl⟩
  have hcarry : ∀ a : Sanction, t.sanction? w.bot.selfId room = some a →
      ∃ l, Series (w.withRooms (t.onStore room w.bot.rooms)) l
          (a.carry.run (w.withRooms (t.onStore room w.bot.rooms))).2 ∧
        l.map Prod.fst = t.carried w.bot.selfId room (t.onStore room w.bot.rooms) := by
    intro a hsome
    rw [Transition.carried, hsome]
    obtain ⟨l, hl, hmap, -⟩ := carry_series a (w.withRooms (t.onStore room w.bot.rooms))
    exact ⟨l, hl, hmap⟩
  cases t with
  | join member =>
    refine hquiet _ ?_ rfl
    have hgreet : ∀ c : Prop, ∀ _ : Decidable c, ∀ v : World, Alike v
        ((if c then spawn (.greet room member) else pure () : BotM Unit).run v).2 := by
      intro c _ v
      split
      · exact ⟨rfl, rfl, rfl⟩
      · exact .refl v
    exact hgreet _ _ _
  | leave member => exact hquiet _ (.refl _) rfl
  | unban member moderator =>
    have hrun : ((applyTransition room (.unban member moderator)).run w).2 =
        ((if moderator ≠ w.bot.selfId then discard (propagateUnban room member) else pure () :
          BotM Unit).run
          (w.withRooms ((Transition.unban member moderator).onStore room w.bot.rooms))).2 := rfl
    rw [hrun]
    by_cases hself : moderator ≠ w.bot.selfId
    · rw [if_pos hself]
      exact hcarry ⟨room, member, none⟩ (if_pos hself)
    · rw [if_neg hself]
      exact hquiet _ (.refl _) (if_neg hself)
  | ban member moderator reason propagate =>
    cases propagate with
    | true => exact hcarry ⟨room, member, some reason⟩ rfl
    | false => exact hquiet _ ⟨rfl, rfl, rfl⟩ rfl
  | other word =>
    refine hquiet _ ⟨?_, rfl, rfl⟩ rfl
    rw [Transition.onStore_other]
    rfl

/-! ### Events -/

/-- What an event leads to. -/
inductive Applied (room : RoomId) (e : Event) (w w' : World) : Prop
  /-- It is passed over: the bot is passive, or has no record of the room, or the event is neither a
  message nor a change of membership. -/
  | passed (why : w.bot.config.bot.passive = true ∨ w.bot.rooms.isTracked room = false ∨
        ∀ t, e.meaning w.bot.selfId w.bot.readyTs w.bot.rooms room ≠ .membership t)
      (alike : Alike w w')
  /-- It is a message. -/
  | message (sender : MemberId) (body : String)
      (meaning : e.meaning w.bot.selfId w.bot.readyTs w.bot.rooms room = .chat sender body)
      (received : Received room sender body w w')
  /-- It changes a membership. -/
  | changed (t : Transition)
      (meaning : e.meaning w.bot.selfId w.bot.readyTs w.bot.rooms room = .membership t)
      (active : w.bot.config.bot.passive = false) (tracked : w.bot.rooms.isTracked room = true)
      (l : List (Sanction × Bool))
      (series : Series (w.withRooms (t.onStore room w.bot.rooms)) l w')
      (carried : l.map Prod.fst = t.carried w.bot.selfId room (t.onStore room w.bot.rooms))

/-- A change of membership that the feed tells of shows and is carried over, unless the bot is
passive or has no record of the room. -/
theorem observeTransition_cases (room : RoomId) (t : Transition) (w : World) :
    (w.bot.config.bot.passive = true ∨ w.bot.rooms.isTracked room = false) ∧
        Alike w ((observeTransition room t).run w).2 ∨
      w.bot.config.bot.passive = false ∧ w.bot.rooms.isTracked room = true ∧
        ∃ l, Series (w.withRooms (t.onStore room w.bot.rooms)) l
            ((observeTransition room t).run w).2 ∧
          l.map Prod.fst = t.carried w.bot.selfId room (t.onStore room w.bot.rooms) := by
  unfold observeTransition
  rw [run_bind, run_getBot]
  dsimp only
  cases hpassive : w.bot.config.bot.passive with
  | true => exact .inl ⟨.inl rfl, .refl w⟩
  | false =>
    rw [if_neg Bool.false_ne_true]
    cases htracked : w.bot.rooms.isTracked room with
    | false => exact .inl ⟨.inr rfl, ⟨rfl, rfl, rfl⟩⟩
    | true =>
      rw [Bool.not_true, if_neg Bool.false_ne_true, run_bind]
      obtain ⟨l, hl, hmap⟩ := applyTransition_series room t ((count (.transitions t.kind)).run w).2
      refine .inr ⟨rfl, rfl, l, .alike_left ?_ hl, hmap⟩
      exact ⟨rfl, rfl, rfl⟩

/-- An event is passed over, is a message, or changes a membership. -/
theorem applyEvent_cases (room : RoomId) (e : Event) (w : World) :
    Applied room e w ((applyEvent room e).run w).2 := by
  unfold applyEvent
  rw [run_bind, run_getBot]
  dsimp only
  cases hmeaning : e.meaning w.bot.selfId w.bot.readyTs w.bot.rooms room with
  | stale =>
    exact .passed (.inr (.inr fun t => by rw [hmeaning]; exact Meaning.noConfusion)) ⟨rfl, rfl, rfl⟩
  | chat sender body => exact .message sender body hmeaning (receiveChat_cases room sender body w)
  | profile member =>
    exact .passed (.inr (.inr fun t => by rw [hmeaning]; exact Meaning.noConfusion)) ⟨rfl, rfl, rfl⟩
  | ignored =>
    exact .passed (.inr (.inr fun t => by rw [hmeaning]; exact Meaning.noConfusion)) (.refl w)
  | membership t =>
    have hobserve : ∀ v, Alike w v → Applied room e w ((observeTransition room t).run v).2 := by
      intro v hv
      obtain ⟨hpassed, halike⟩ | ⟨hactive, htracked, l, hl, hmap⟩ :=
        observeTransition_cases room t v
      · rw [hv.bot] at hpassed
        exact .passed (hpassed.elim .inl fun h => .inr (.inl h)) (hv.trans halike)
      · rw [hv.bot] at hactive htracked hl hmap
        refine .changed t hmeaning hactive htracked l (.alike_left ?_ hl) hmap
        exact ⟨by simp only [World.withRooms, hv.bot], hv.history, hv.activities⟩
    dsimp only
    split
    · exact hobserve _ ⟨rfl, rfl, rfl⟩
    · exact hobserve w (.refl w)

/-- In a monitored room that is no welcome room the events are applied one after the other. -/
theorem run_applyRoom {room : RoomId} {w : World} (hwelcome : w.bot.welcome.contains room = false)
    (hmonitored : w.bot.config.isMonitored room = true) (events : List Event) :
    (applyRoom room events).run w = (events.forM (applyEvent room)).run w := by
  unfold applyRoom
  rw [run_bind, run_getBot]
  dsimp only
  rw [hwelcome, hmonitored, if_neg Bool.false_ne_true, Bool.not_true, if_neg Bool.false_ne_true]

/-- In a welcome room, or one that is not monitored, the events are passed over together. -/
theorem alike_applyRoom {room : RoomId} {w : World}
    (h : w.bot.welcome.contains room = false → w.bot.config.isMonitored room = false)
    (events : List Event) : Alike w ((applyRoom room events).run w).2 := by
  unfold applyRoom
  rw [run_bind, run_getBot]
  dsimp only
  cases hwelcome : w.bot.welcome.contains room with
  | true =>
    rw [if_pos rfl]
    split
    · exact ⟨rfl, rfl, rfl⟩
    · exact .refl w
  | false =>
    rw [if_neg Bool.false_ne_true, h hwelcome]
    exact ⟨rfl, rfl, rfl⟩

/-- The events of a room are passed over together, or they are applied one after the other. -/
theorem applyRoom_cases (room : RoomId) (events : List Event) (w : World) :
    Alike w ((applyRoom room events).run w).2 ∨
      (applyRoom room events).run w = (events.forM (applyEvent room)).run w := by
  by_cases h : w.bot.welcome.contains room = false ∧ w.bot.config.isMonitored room = true
  · exact .inr (run_applyRoom h.1 h.2 events)
  · exact .inl (alike_applyRoom (fun hwelcome => by simpa [hwelcome] using h) events)

/-! ### A small community -/

namespace Sample

/-- What a homeserver replies that accepts everything and whose rooms are empty. -/
def reply : (c : Call) → c.Reply
  | .whoami => ⟨"@warden:x"⟩
  | .join room _ => room
  | .leave _ | .ban .. | .unban .. | .send .. => ()
  | .create _ => ⟨"!new:x"⟩
  | .listMembers _ | .bannedMembers _ => ∅
  | .displayName _ => ""
  | .joinedRooms => []

/-- Surroundings in which every call is accepted, and no poll is answered. -/
@[reducible] def surroundings : Surroundings where
  Server := Unit
  homeserver :=
    { answer := fun c s => (⟨.ok (reply c), []⟩, s)
      poll := fun _ s => (⟨⟨.error (.decode ""), []⟩, 0⟩, s) }
  render := id
  fileText := fun _ => .error ""
  jitterMs := 0

/-- One of two rooms that share their bans. -/
def lobby : RoomId := ⟨"!lobby:x"⟩

/-- The other one. -/
def attic : RoomId := ⟨"!attic:x"⟩

/-- A member of both rooms. -/
def mallory : MemberId := ⟨"@mallory:x"⟩

/-- A moderator. -/
def alice : MemberId := ⟨"@alice:x"⟩

/-- The modes of both rooms. -/
def modes : ModeSet :=
  .ofList [RoomMode.banlistSync, RoomMode.selfModerator]

/-- A configuration that monitors both rooms. -/
def config : Config :=
  { Config.ofHomeserver ⟨"", "", "", none, none, none⟩ with
    rooms := .ofList [(lobby, RoomConfig.mk modes ∅), (attic, RoomConfig.mk modes ∅)] }

/-- The records of both rooms, in which nobody is banned. -/
def rooms : RoomStore where
  records := [.seeded lobby [mallory] ∅ modes ∅, .seeded attic [mallory] ∅ modes ∅]
  distinct := by decide

/-- A world in which the bot has records of both rooms and is ready. -/
def world : @World surroundings :=
  @World.initial surroundings
    { Bot.initial ⟨"@warden:x"⟩ (.inMemory config) with readyTs := 0, rooms := rooms } ()

/-- The moderator bans the member. -/
def ban : Event :=
  .membership alice mallory .ban (some "spam") 1

end Sample

end RoomModeration
