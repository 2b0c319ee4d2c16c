import RoomModeration.Proofs.Room.Presence
import RoomModeration.Proofs.Task

/-!
# The ledger of welcome rooms

A welcome room may be closed because its member has left it, because it has reached its age, or
because the bot was removed from it, and the three may be attempted in any order and as often as one
likes. Only who takes the entry of the room out of the registry closes it, and nobody can do so
twice. The ledger lists the rooms that have been closed and how: each room that was created is
either still registered or listed once, and what was counted agrees with the list.

Rooms are left for other reasons as well. Where nothing but opening and closing welcome rooms goes
on, the rooms that were left are those that were evicted, each of them once and in the order of the
list.

## Main definitions

* `Closing` : the ways in which a welcome room is closed.
* `createdRooms`, `leftRooms` : what the history tells.
* `Ledger` : a list of closed rooms accounts for what has happened.

## Main results

* `Ledger.conservation` : rooms that were created are registered or have been counted as closed.
* `Ledger.opened`, `Ledger.closed` : how the ledger is carried on.
* `welcome_rooms_closed_once` : there is a ledger of everything that the bot does.
-/

namespace RoomModeration

open BotM RoomModeration.Bot

/-- How a welcome room is closed. -/
inductive Closing where
  /-- The bot leaves it. -/
  | evicted (why : Eviction)
  /-- The bot is removed from it. -/
  | remote
  deriving DecidableEq, Repr

namespace Closing

/-- The reason under which a closing is counted. -/
def reason : Closing → String
  | evicted why => why.word
  | remote => "remote"

theorem reason_inj {c d : Closing} : c.reason = d.reason ↔ c = d := by
  cases c with
  | evicted why =>
    cases d with
    | evicted why' => cases why <;> cases why' <;> decide
    | remote => cases why <;> decide
  | remote =>
    cases d with
    | evicted why' => cases why' <;> decide
    | remote => decide

end Closing

/-- The rooms that the bot has created, the latest one first. -/
def createdRooms (history : List Occurrence) : List RoomId :=
  history.filterMap Occurrence.created?

/-- The room that the bot has asked to leave in an occurrence, if it has. -/
def Occurrence.leave? : Occurrence → Option RoomId
  | called _ _ (.leave room) _ => some room
  | _ => none

/-- The rooms that the bot has asked to leave, the latest one first. -/
def leftRooms (history : List Occurrence) : List RoomId :=
  history.filterMap Occurrence.leave?

/-- The rooms in a list of closed rooms that the bot has left by itself. -/
def evictedRooms (closed : List (RoomId × Closing)) : List RoomId :=
  (closed.filter (·.2 ≠ .remote)).map Prod.fst

/-! ### The registry -/

namespace WelcomeRegistry

theorem contains_iff {r : WelcomeRegistry} {room : RoomId} :
    r.contains room = true ↔ room ∈ r.entries.map (·.id) := by
  simp [contains]

theorem ids_erase (r : WelcomeRegistry) (room : RoomId) :
    (r.erase room).entries.map (·.id) = (r.entries.map (·.id)).erase room := by
  rw [r.distinct.erase_eq_filter, List.filter_map]
  rfl

theorem contains_erase_self (r : WelcomeRegistry) (room : RoomId) :
    (r.erase room).contains room = false := by
  rw [Bool.eq_false_iff, ne_eq, contains_iff, ids_erase]
  exact r.distinct.not_mem_erase

/-- A room that is registered comes off. -/
theorem perm_erase {r : WelcomeRegistry} {room : RoomId} (h : r.contains room = true) :
    (r.entries.map (·.id)).Perm (room :: (r.erase room).entries.map (·.id)) := by
  rw [ids_erase]
  exact List.perm_cons_erase (contains_iff.1 h)

/-- A room that is not registered is added. -/
theorem perm_register {r : WelcomeRegistry} {entry : WelcomeRoom}
    (h : r.contains entry.id = false) :
    ((r.register entry).entries.map (·.id)).Perm (entry.id :: r.entries.map (·.id)) := by
  have hnew : entry.id ∉ r.entries.map (·.id) := by
    rw [← contains_iff, h]
    exact Bool.false_ne_true
  have hids : (r.register entry).entries.map (·.id) = r.entries.map (·.id) ++ [entry.id] := by
    rw [register, List.map_append, ids_erase, List.erase_of_not_mem hnew]
    rfl
  rw [hids]
  exact List.perm_append_singleton _ _

end WelcomeRegistry

theorem Bot.contains_unregister (b : Bot) (room : RoomId) :
    (b.unregister room).2.welcome.contains room = false := by
  cases h : b.welcome.contains room with
  | false => rw [unregister_of_not_contains h, h]
  | true =>
    obtain ⟨entry, hentry⟩ := unregister_eq h
    rw [hentry]
    exact b.welcome.contains_erase_self room

theorem Bot.welcome_unregister {b : Bot} {room : RoomId} (h : b.welcome.contains room = true) :
    (b.unregister room).2.welcome = b.welcome.erase room := by
  obtain ⟨entry, hentry⟩ := unregister_eq h
  rw [hentry]

/-! ### The ledger -/

section

variable [Surroundings] {w w' : World} {exact : Prop} {done : List (RoomId × Closing)}

/-- A list of closed rooms, the latest one first, accounts for what has happened to welcome rooms:
those that were created are registered or closed, closed ones have been counted, and the bot has
left those that it closed itself; and if nothing but that was to happen, it has left no others. -/
structure Ledger (exact : Prop) (w : World) (done : List (RoomId × Closing)) : Prop where
  balance : (w.bot.welcome.entries.map (·.id) ++ done.map Prod.fst).Perm
    (createdRooms w.history)
  counted : ∀ closing : Closing, w.evictions closing.reason = done.countP (·.2 = closing)
  left : (evictedRooms done).Sublist (leftRooms w.history)
  leftOnly : exact → leftRooms w.history = evictedRooms done

namespace Ledger

theorem initial (selfId : MemberId) (store : ConfigStore) (server : Surroundings.Server) :
    Ledger exact (World.initial (Bot.initial selfId store) server) [] where
  balance := .refl _
  counted _ := rfl
  left := .refl _
  leftOnly _ := rfl

/-- Rooms that were created are registered or have been counted as closed. -/
theorem conservation (h : Ledger exact w done) :
    (createdRooms w.history).length = w.bot.welcome.size + w.evictions "departure" +
      w.evictions "timeout" + w.evictions "remote" := by
  have hdone : done.length = done.countP (·.2 = .evicted .departure) +
      done.countP (·.2 = .evicted .timeout) + done.countP (·.2 = .remote) := by
    clear h
    induction done with
    | nil => rfl
    | cons p done ih =>
      obtain ⟨room, closing⟩ := p
      simp only [List.length_cons, List.countP_cons, ih]
      cases closing with
      | evicted why => cases why <;> simp <;> omega
      | remote => simp; omega
  have hdeparture := h.counted (.evicted .departure)
  have htimeout := h.counted (.evicted .timeout)
  have hremote := h.counted .remote
  have hbalance := h.balance.length_eq
  simp only [Closing.reason, Eviction.word] at hdeparture htimeout hremote
  rw [List.length_append, List.length_map, List.length_map] at hbalance
  rw [← hbalance, hdone, hdeparture, htimeout, hremote, WelcomeRegistry.size]
  omega

/-- No room is closed twice, if no room was created twice. -/
theorem nodup (h : Ledger exact w done) (hfresh : (createdRooms w.history).Nodup) :
    (done.map Prod.fst).Nodup :=
  (List.nodup_append.1 (h.balance.nodup_iff.2 hfresh)).2.1

/-- What concerns no welcome room leaves the ledger as it is. -/
theorem of_same (h : Ledger exact w done) (hwelcome : w'.bot.welcome = w.bot.welcome)
    (hevictions : ∀ reason, w'.evictions reason = w.evictions reason)
    (hcreated : createdRooms w'.history = createdRooms w.history)
    (hleft : (leftRooms w.history).Sublist (leftRooms w'.history))
    (hexact : exact → leftRooms w'.history = leftRooms w.history) : Ledger exact w' done where
  balance := by
    rw [hwelcome, hcreated]
    exact h.balance
  counted closing := (hevictions _).trans (h.counted closing)
  left := h.left.trans hleft
  leftOnly hw := (hexact hw).trans (h.leftOnly hw)

/-- A closed room is added to the ledger. -/
theorem closed {room : RoomId} {closing : Closing} (h : Ledger exact w done)
    (hclosed : Closed room closing.reason w w')
    (hcreated : createdRooms w'.history = createdRooms w.history)
    (hleft : leftRooms w'.history =
      if closing = .remote then leftRooms w.history else room :: leftRooms w.history) :
    Ledger exact w' ((room, closing) :: done) where
  balance := by
    rw [hcreated, hclosed.bot, Bot.welcome_unregister hclosed.registered]
    refine .trans ?_ h.balance
    refine .trans List.perm_middle ?_
    exact (WelcomeRegistry.perm_erase hclosed.registered).symm.append_right _
  counted other := by
    rw [hclosed.evictions, List.countP_cons, h.counted]
    simp only [Closing.reason_inj, decide_eq_true_eq]
  left := by
    rw [hleft, evictedRooms]
    by_cases hremote : closing = .remote
    · rw [if_pos hremote, List.filter_cons_of_neg (by simpa using hremote)]
      exact h.left
    · rw [if_neg hremote, List.filter_cons_of_pos (by simpa using hremote)]
      exact h.left.cons_cons room
  leftOnly hexact := by
    rw [hleft, evictedRooms]
    by_cases hremote : closing = .remote
    · rw [if_pos hremote, List.filter_cons_of_neg (by simpa using hremote)]
      exact h.leftOnly hexact
    · rw [if_neg hremote, List.filter_cons_of_pos (by simpa using hremote)]
      exact congrArg (room :: ·) (h.leftOnly hexact)

/-- A room that was just created is registered. -/
theorem opened {entry : WelcomeRoom} (h : Ledger exact w done)
    (hbot : w'.bot = w.bot.register entry)
    (hcreated : createdRooms w'.history = entry.id :: createdRooms w.history)
    (hfresh : (createdRooms w'.history).Nodup)
    (hleft : leftRooms w'.history = leftRooms w.history)
    (hevictions : ∀ reason, w'.evictions reason = w.evictions reason) :
    Ledger exact w' done where
  balance := by
    have hnew : w.bot.welcome.contains entry.id = false := by
      rw [hcreated, List.nodup_cons, ← h.balance.mem_iff] at hfresh
      rw [Bool.eq_false_iff]
      intro hregistered
      exact hfresh.1 (List.mem_append_left _ (WelcomeRegistry.contains_iff.1 hregistered))
    have hwelcome : w'.bot.welcome = w.bot.welcome.register entry := by rw [hbot]; rfl
    rw [hcreated, hwelcome]
    exact ((WelcomeRegistry.perm_register hnew).append_right _).trans (h.balance.cons _)
  counted closing := (hevictions _).trans (h.counted closing)
  left := hleft ▸ h.left
  leftOnly hexact := hleft.trans (h.leftOnly hexact)

end Ledger

/-! ### Carrying the ledger on -/

/-- A ledger of what has happened so far, to which closed rooms may have been added, as long as no
room was created twice. -/
def Accounted (exact : Prop) (done : List (RoomId × Closing)) (w : World) : Prop :=
  (createdRooms w.history).Nodup → ∃ more, Ledger exact w (more ++ done)

namespace Accounted

theorem of_same (h : Accounted exact done w) (hwelcome : w'.bot.welcome = w.bot.welcome)
    (hevictions : ∀ reason, w'.evictions reason = w.evictions reason)
    (hcreated : createdRooms w'.history = createdRooms w.history)
    (hleft : (leftRooms w.history).Sublist (leftRooms w'.history))
    (hexact : exact → leftRooms w'.history = leftRooms w.history) : Accounted exact done w' := by
  intro hfresh
  obtain ⟨more, hledger⟩ := h (hcreated ▸ hfresh)
  exact ⟨more, hledger.of_same hwelcome hevictions hcreated hleft hexact⟩

/-- What makes no call and concerns no welcome room. -/
theorem of_silent (h : Accounted exact done w) (hwelcome : w'.bot.welcome = w.bot.welcome)
    (hevictions : ∀ reason, w'.evictions reason = w.evictions reason)
    (hhistory : w'.history = w.history) : Accounted exact done w' :=
  h.of_same hwelcome hevictions (by rw [hhistory]) (by rw [hhistory]) fun _ => by rw [hhistory]

theorem undisturbed : Undisturbed (Accounted exact done) :=
  fun _ _ hidle h => h.of_silent (congrArg Bot.welcome hidle.bot) hidle.evictions hidle.history

end Accounted

theorem keeps_accounted_evict (room : RoomId) (why : Eviction) :
    Keeps (Accounted exact done) (evict room why) := by
  intro w h
  cases hregistered : w.bot.welcome.contains room with
  | false =>
    rw [run_evict_of_not_contains why hregistered]
    exact h
  | true =>
    obtain ⟨-, hclosed, result, hhistory⟩ := closed_evict why hregistered
    have hcreated : createdRooms ((evict room why).run w).2.history = createdRooms w.history := by
      rw [hhistory]
      rfl
    intro hfresh
    obtain ⟨more, hledger⟩ := h (hcreated ▸ hfresh)
    refine ⟨(room, .evicted why) :: more, hledger.closed hclosed hcreated ?_⟩
    rw [hhistory]
    rfl

theorem keeps_accounted_handleLeft (room : RoomId) :
    Keeps (Accounted exact done) (handleLeft room) := by
  intro w h
  cases hregistered : w.bot.welcome.contains room with
  | false =>
    obtain ⟨hbot, hhistory, hevictions⟩ := handleLeft_of_not_contains hregistered
    exact h.of_silent (by rw [hbot]; rfl) hevictions hhistory
  | true =>
    obtain ⟨hclosed, hhistory⟩ := closed_handleLeft hregistered
    intro hfresh
    rw [hhistory] at hfresh
    obtain ⟨more, hledger⟩ := h hfresh
    refine ⟨(room, .remote) :: more, hledger.closed hclosed (by rw [hhistory]) ?_⟩
    rw [hhistory]
    rfl

/-- Greeting a newcomer neither opens a room nor leaves one. -/
theorem Greeting.rooms {b : Bot} {activities : List Activity} {room source : RoomId}
    {member : MemberId} {made : List Occurrence}
    (h : Greeting b activities room source member made) :
    createdRooms made = [] ∧ leftRooms made = [] := by
  cases h with
  | silent => exact ⟨rfl, rfl⟩
  | spoken template htemplate name result => exact ⟨rfl, rfl⟩

theorem keeps_accounted_welcomeNewcomer (source : RoomId) (member : MemberId) :
    Keeps (Accounted exact done) (welcomeNewcomer source member) := by
  intro w h
  cases hosted_welcomeNewcomer source member w with
  | refused e bot history evictions =>
    exact h.of_same (by rw [bot]) evictions (by rw [history]; rfl) (by rw [history]; exact .refl _)
      fun _ => by rw [history]; rfl
  | opened room made bot history greeting evictions =>
    have hcreated : createdRooms ((welcomeNewcomer source member).run w).2.history =
        room :: createdRooms w.history := by
      rw [history, createdRooms, List.filterMap_append]
      exact congrArg (· ++ _) greeting.rooms.1
    have hleft : leftRooms ((welcomeNewcomer source member).run w).2.history =
        leftRooms w.history := by
      rw [history, leftRooms, List.filterMap_append]
      exact congrArg (· ++ _) greeting.rooms.2
    intro hfresh
    obtain ⟨more, hledger⟩ := h (List.nodup_cons.1 (hcreated ▸ hfresh)).2
    exact ⟨more, hledger.opened bot hcreated hfresh hleft evictions⟩

/-- What is no concern of welcome rooms keeps a ledger that lets other rooms be left. -/
theorem routine_accounted : Routine (Accounted False done) where
  idle := Accounted.undisturbed
  change f hf w h := h.of_silent (hf w.bot).1 (fun _ => rfl) rfl
  call c hc w h := by
    rw [run_call]
    cases c with
    | create request => exact absurd rfl (hc request)
    | leave room => exact h.of_same rfl (fun _ => rfl) rfl (List.sublist_cons_self _ _) False.elim
    | _ => exact h.of_same rfl (fun _ => rfl) rfl (.refl _) fun _ => rfl

/-- The task only opens or closes welcome rooms. -/
def Task.isOfWelcome : Task → Bool
  | welcome .. | evict .. | depart _ | sweep _ => true
  | _ => false

theorem keeps_accounted_task {task : Task} (h : exact → task.isOfWelcome = true) :
    Keeps (Accounted exact done) task.run := by
  by_cases hexact : exact
  · cases task with
    | welcome source member => exact keeps_accounted_welcomeNewcomer source member
    | evict room why => exact .discard (keeps_accounted_evict room why)
    | depart room => exact .discard (keeps_accounted_handleLeft room)
    | sweep moment =>
      exact .discard (keeps_sweep Accounted.undisturbed keeps_accounted_evict moment)
    | _ => cases h hexact
  · obtain rfl : exact = False := eq_false hexact
    refine routine_accounted.task (fun o ho w hw => ?_) (fun readyTs w hw => ?_)
      keeps_accounted_handleLeft keeps_accounted_evict keeps_accounted_welcomeNewcomer task
    · cases o with
      | called before activities c result => cases ho
      | _ => exact hw.of_same rfl (fun _ => rfl) rfl (.refl _) fun _ => rfl
    · exact hw.of_silent rfl (fun _ => rfl) rfl

/-- A ledger is carried on over any tasks. -/
theorem Ledger.doing (tasks : List Task) (h : Ledger exact w done)
    (htasks : exact → ∀ task ∈ tasks, task.isOfWelcome = true)
    (hfresh : (createdRooms (w.doing tasks).history).Nodup) :
    ∃ more, Ledger exact (w.doing tasks) (more ++ done) := by
  have haccounted : Accounted exact done (w.doing tasks) :=
    doing_invariant (fun task htask => keeps_accounted_task fun hexact => htasks hexact task htask)
      fun _ => ⟨[], h⟩
  exact haccounted hfresh

/-- A welcome room is closed by whoever takes it out of the registry: if that is an eviction, it
asks once to leave the room, and the room is no longer registered whatever the answer; otherwise an
eviction does nothing. Learning that it is out of a room, the bot makes no call. So whatever tasks
the bot does, in any order, there is at every moment a ledger of the rooms that were closed until
then, to which later ones are added, with no room twice if no room was created twice. In it each
room that was created is registered or closed once. If the tasks only open or close welcome rooms,
the bot leaves the rooms that it closed by itself, once each, and no others. -/
theorem welcome_rooms_closed_once :
    (∀ (w : World) (room : RoomId) (why : Eviction),
      (w.bot.welcome.contains room = true →
        ((evict room why).run w).1 = true ∧
        ((evict room why).run w).2.bot.welcome.contains room = false ∧
        ∃ before result, ((evict room why).run w).2.history =
          .called before w.activities (.leave room) result :: w.history) ∧
      (w.bot.welcome.contains room = false → (evict room why).run w = (false, w))) ∧
    (∀ (w : World) (room : RoomId),
      ((handleLeft room).run w).2.history = w.history ∧
        ((handleLeft room).run w).2.bot.welcome.contains room = false) ∧
    ∀ (selfId : MemberId) (store : ConfigStore) (server : Surroundings.Server)
      (before after : List Task),
      let exact := ∀ task ∈ before ++ after, task.isOfWelcome = true
      let w := (World.initial (Bot.initial selfId store) server).doing before
      let w' := w.doing after
      (createdRooms w'.history).Nodup →
        ∃ done more, Ledger exact w done ∧ Ledger exact w' (more ++ done) ∧
          ((more ++ done).map Prod.fst).Nodup ∧
          (createdRooms w'.history).length = w'.bot.welcome.size + w'.evictions "departure" +
            w'.evictions "timeout" + w'.evictions "remote" := by
  refine ⟨fun w room why => ⟨fun h => ?_, run_evict_of_not_contains why⟩, fun w room => ?_,
    fun selfId store server before after => ?_⟩
  · obtain ⟨htrue, hclosed, result, hhistory⟩ := closed_evict why h
    refine ⟨htrue, ?_, _, result, hhistory⟩
    rw [hclosed.bot]
    exact w.bot.contains_unregister room
  · cases h : w.bot.welcome.contains room with
    | false =>
      obtain ⟨hbot, hhistory, -⟩ := handleLeft_of_not_contains h
      exact ⟨hhistory, by rw [hbot]; exact h⟩
    | true =>
      obtain ⟨hclosed, hhistory⟩ := closed_handleLeft h
      refine ⟨hhistory, ?_⟩
      rw [hclosed.bot]
      exact w.bot.contains_unregister room
  · intro exact w w' hfresh
    let w₀ := World.initial (Bot.initial selfId store) server
    have hbegin : Ledger exact w₀ [] := .initial selfId store server
    have hearlier : (createdRooms w.history).Nodup :=
      hfresh.sublist ((trace_doing w after).suffix.sublist.filterMap _)
    obtain ⟨done, hdone⟩ := hbegin.doing before
      (fun h task htask => h task (List.mem_append_left _ htask)) hearlier
    rw [List.append_nil] at hdone
    obtain ⟨more, hmore⟩ := hdone.doing after
      (fun h task htask => h task (List.mem_append_right _ htask)) hfresh
    exact ⟨done, more, hdone, hmore, hmore.nodup hfresh, hmore.conservation⟩

end

/-- The departure of the newcomer, the sweep and the removal of the bot all close the welcome room.
-/
def Sample.closings : List Task :=
  [.evict parlour .departure, .evict parlour .timeout, .depart parlour]

section

attribute [local instance] Sample.surroundings

/-- The first of the closings is the one that counts, and the bot leaves once. -/
theorem parlour_closed_once :
    let w₀ := World.initial (Bot.initial ⟨"@warden:x"⟩ (.inMemory Sample.hospitable)) ()
    let w := w₀.doing [.welcome Sample.lobby Sample.bob]
    let w' := w.doing Sample.closings
    w.bot.welcome.contains Sample.parlour = true ∧
    ((evict Sample.parlour .departure).run w).1 = true ∧
    w'.bot.welcome.contains Sample.parlour = false ∧
    (evict Sample.parlour .timeout).run w' = (false, w') ∧
    (createdRooms w'.history).Nodup ∧
    (∃ done more, Ledger True w done ∧ Ledger True w' (more ++ done) ∧
      ((more ++ done).map Prod.fst).Nodup) ∧
    leftRooms w'.history = [Sample.parlour] := by
  intro w₀ w w'
  have hregistered : w.bot.welcome.contains Sample.parlour = true := by decide +kernel
  have hclosed : w'.bot.welcome.contains Sample.parlour = false := by decide +kernel
  have hfresh : (createdRooms w'.history).Nodup := by decide +kernel
  have hwelcome : ∀ task ∈ [.welcome Sample.lobby Sample.bob] ++ Sample.closings,
      task.isOfWelcome = true := by decide +kernel
  obtain ⟨hevict, -, hledger⟩ := welcome_rooms_closed_once
  obtain ⟨done, more, hdone, hmore, honce, -⟩ := hledger _ _ _ _ Sample.closings hfresh
  rw [eq_true hwelcome] at hdone hmore
  exact ⟨hregistered, ((hevict w _ .departure).1 hregistered).1, hclosed,
    (hevict w' _ .timeout).2 hclosed, hfresh, ⟨done, more, hdone, hmore, honce⟩, by decide +kernel⟩

end

end RoomModeration
