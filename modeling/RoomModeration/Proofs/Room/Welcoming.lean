import RoomModeration.Proofs.Keeping
import RoomModeration.Proofs.Room.Joining

/-!
# Opening and closing welcome rooms

A welcome room is opened with one call and registered if that one ends well, and then at most two
more calls greet its member. It is closed by taking it out of the registry first, which is counted
under the reason, and leaving it then with one call, whether the homeserver lets the bot leave or
not; and if the feed tells that the bot is no longer in it, taking it out of the registry is all.
Neither way touches the records, since a welcome room is not supposed to have one. Here it is said
exactly which calls are made and what is counted.

## Main definitions

* `World.evictions` : how many welcome rooms have been counted as closed.
* `Greeting` : the calls by which a newcomer is greeted.
* `Hosted` : what opening a welcome room comes to.
* `Closed` : what taking a welcome room out of the registry comes to.
* `Departed` : what it comes to that the bot is no longer in a room.

## Main results

* `hosted_welcomeNewcomer` : what the bot does for a newcomer.
* `closed_evict`, `closed_handleLeft` : the two ways in which a welcome room is closed.
-/

namespace RoomModeration

open BotM RoomModeration.Bot

/-! ### The registry -/

namespace WelcomeRegistry

theorem contains_eq_isSome (r : WelcomeRegistry) (room : RoomId) :
    r.contains room = (r.get? room).isSome := by
  rw [Bool.eq_iff_iff, contains, get?, List.find?_isSome, List.any_eq_true]

theorem contains_of_contains_erase {r : WelcomeRegistry} {room other : RoomId}
    (h : (r.erase room).contains other = true) : r.contains other = true := by
  obtain ⟨entry, hentry, hid⟩ := List.any_eq_true.1 h
  exact List.any_eq_true.2 ⟨entry, (List.mem_filter.1 hentry).1, hid⟩

theorem contains_of_contains_register {r : WelcomeRegistry} {entry : WelcomeRoom} {room : RoomId}
    (h : (r.register entry).contains room = true) : r.contains room = true ∨ entry.id = room := by
  obtain ⟨found, hfound, hid⟩ := List.any_eq_true.1 h
  rcases List.mem_append.1 hfound with hold | hnew
  · exact .inl (List.any_eq_true.2 ⟨found, (List.mem_filter.1 hold).1, hid⟩)
  · obtain rfl := List.mem_singleton.1 hnew
    exact .inr (beq_iff_eq.1 hid)

end WelcomeRegistry

namespace Bot

/-- All that taking an entry out of the registry changes is the registry and how many it holds. -/
theorem unregister_eq {b : Bot} {room : RoomId} (h : b.welcome.contains room = true) :
    ∃ entry, b.unregister room = (some entry, { b with
      welcome := b.welcome.erase room
      welcomeGauge := (b.welcome.erase room).size }) := by
  rw [WelcomeRegistry.contains_eq_isSome] at h
  obtain ⟨entry, hentry⟩ := Option.isSome_iff_exists.1 h
  exact ⟨entry, by rw [unregister, WelcomeRegistry.remove, hentry]⟩

theorem unregister_of_contains {b : Bot} {room : RoomId} (h : b.welcome.contains room = true) :
    ∃ entry, b.unregister room = (some entry, (b.unregister room).2) := by
  obtain ⟨entry, hentry⟩ := unregister_eq h
  exact ⟨entry, by rw [hentry]⟩

theorem unregister_of_not_contains {b : Bot} {room : RoomId}
    (h : b.welcome.contains room = false) : b.unregister room = (none, b) := by
  rw [WelcomeRegistry.contains_eq_isSome, Option.isSome_eq_false_iff, Option.isNone_iff_eq_none]
    at h
  rw [unregister, WelcomeRegistry.remove, h]

/-- Taking an entry out of the registry touches nothing else of what matters here. -/
theorem unregister_keeps (b : Bot) (room : RoomId) :
    (b.unregister room).2.rooms = b.rooms ∧ (b.unregister room).2.store = b.store ∧
      ∀ other, (b.unregister room).2.welcome.contains other = true →
        b.welcome.contains other = true := by
  cases h : b.welcome.contains room with
  | false =>
    rw [unregister_of_not_contains h]
    exact ⟨rfl, rfl, fun _ hother => hother⟩
  | true =>
    obtain ⟨entry, hentry⟩ := unregister_eq h
    rw [hentry]
    exact ⟨rfl, rfl, fun _ => WelcomeRegistry.contains_of_contains_erase⟩

end Bot

variable [Surroundings] {w w' : World}

/-- How many welcome rooms have been counted as closed for a reason. -/
def World.evictions (w : World) (reason : String) : Nat :=
  w.counters.get (.welcomeEvictions reason)

/-! ### Calls -/

/-- What a call comes to, with the time and what has been counted as closed. -/
structure Attempted (c : Call) (w w' : World) (result : Except ActionError c.Reply) : Prop
    extends Called c w w' result where
  now : w'.now = w.now
  evictions : ∀ reason, w'.evictions reason = w.evictions reason

theorem attempted_attempt (action : String) (c : Call) (w : World) :
    Attempted c w ((attempt action c).run.run w).2 ((attempt action c).run.run w).1 := by
  have hcalled := called_attempt action c w
  unfold attempt at hcalled ⊢
  rw [ExceptT.run_mk, run_bind, run_call] at hcalled ⊢
  cases hresult : (Surroundings.homeserver.answer c w.server).1.result with
  | ok reply =>
    rw [hresult] at hcalled
    exact { hcalled with now := rfl, evictions := fun _ => rfl }
  | error e =>
    rw [hresult] at hcalled
    have hcount := idle_advance (c := .actionFailures action e.code) nofun 1
    exact { hcalled with now := rfl, evictions := fun reason => (hcount _).evictions reason }

theorem attempted_send (room : RoomId) (message : Message) (w : World) :
    Attempted (.send room message) w ((send room message).run.run w).2
      ((send room message).run.run w).1 := by
  unfold send
  rw [ExceptT.run_mk, run_bind]
  have hsend := attempted_attempt "send" (.send room message) w
  cases hrun : (attempt "send" (.send room message)).run.run w with
  | mk result v =>
    rw [hrun] at hsend
    cases result with
    | ok _ => exact hsend
    | error e =>
      exact ⟨⟨hsend.bot, hsend.history, hsend.activities, hsend.mayGive⟩, hsend.now,
        hsend.evictions⟩

/-- The name of a room, or what stands for it if the homeserver does not tell. -/
def nameOr (room : RoomId) : Except ActionError String → String
  | .ok name => name
  | .error _ => room.text

theorem attempted_displayName (room : RoomId) (w : World) :
    ∃ result, Attempted (.displayName room) w ((displayName room).run w).2 result ∧
      ((displayName room).run w).1 = nameOr room result := by
  unfold displayName
  rw [run_bind]
  have hname := attempted_attempt "room_name" (.displayName room) w
  cases hrun : (attempt "room_name" (.displayName room)).run.run w with
  | mk result v =>
    rw [hrun] at hname
    refine ⟨result, ?_⟩
    cases result with
    | ok name => exact ⟨hname, rfl⟩
    | error e => exact ⟨hname, rfl⟩

/-! ### Opening -/

/-- The message with which a member is greeted by a template. -/
def Message.greeting (template : String) (member : MemberId) (name : String) : Message :=
  let text := renderGreeting template member name
  .formatted text (Surroundings.render text)

/-- The calls by which a newcomer is greeted in a welcome room, the latest one first: none, if there
is no greeting for the room that was joined, or else its name is asked for and the greeting is
posted. -/
inductive Greeting (b : Bot) (activities : List Activity) (room source : RoomId)
    (member : MemberId) : List Occurrence → Prop
  | silent (none : b.config.welcomeTemplate? source = none) :
      Greeting b activities room source member []
  | spoken (template : String) (some : b.config.welcomeTemplate? source = some template)
      (name : Except ActionError String) (result : Except ActionError Unit) :
      Greeting b activities room source member
        [.called b activities (.send room (.greeting template member (nameOr source name))) result,
          .called b activities (.displayName source) name]

/-- Greeting is speaking. -/
theorem Greeting.trace {room source : RoomId} {member : MemberId} {made : List Occurrence}
    (h : Greeting w.bot w.activities room source member made) (bot : w'.bot = w.bot)
    (history : w'.history = made ++ w.history) : Trace Speaking w w' := by
  cases h with
  | silent => exact .aside bot history
  | spoken template some name result =>
    let asked : World := { w with
      history := .called w.bot w.activities (.displayName source) name :: w.history }
    have hasked : Trace Speaking w asked :=
      .single (d := .call (.displayName source)) ⟨rfl, rfl⟩ (.call _ name rfl rfl)
    exact hasked.trans
      (.single (d := .call (.send room _)) ⟨rfl, rfl⟩ (.call _ result bot history))

/-- What greeting a newcomer comes to. -/
structure Greeted (room source : RoomId) (member : MemberId) (w w' : World) : Prop where
  bot : w'.bot = w.bot
  history : ∃ made, w'.history = made ++ w.history ∧
    Greeting w.bot w.activities room source member made
  evictions : ∀ reason, w'.evictions reason = w.evictions reason

theorem greeted_greet (room source : RoomId) (member : MemberId) (w : World) :
    Greeted room source member w ((greet room source member).run w).2 := by
  unfold greet
  rw [run_bind, run_getConfig]
  dsimp only
  cases htemplate : w.bot.config.welcomeTemplate? source with
  | none => exact ⟨rfl, ⟨[], rfl, .silent htemplate⟩, fun _ => rfl⟩
  | some template =>
    dsimp only
    rw [run_bind]
    obtain ⟨name, hname, hgiven⟩ := attempted_displayName source w
    rw [hgiven]
    let v := ((displayName source).run w).2
    let message : Message := .greeting template member (nameOr source name)
    have hsend : Attempted (.send room message) v ((send room message).run.run v).2 _ :=
      attempted_send room message v
    refine ⟨hsend.bot.trans hname.bot, ⟨_, ?_, .spoken template htemplate name
      ((send room message).run.run v).1⟩, fun reason =>
        (hsend.evictions reason).trans (hname.evictions reason)⟩
    refine hsend.history.trans ?_
    rw [hname.history, hname.bot, hname.activities]
    rfl

/-- What opening a welcome room for a newcomer comes to. -/
inductive Hosted (source : RoomId) (member : MemberId) (w w' : World) : Prop
  /-- The homeserver refuses. -/
  | refused (e : ActionError) (bot : w'.bot = w.bot)
      (history : w'.history = .called w.bot w.activities
        (.create (w.bot.config.welcome.creation member)) (.error e) :: w.history)
      (evictions : ∀ reason, w'.evictions reason = w.evictions reason)
  /-- The room is created and registered, and its member is greeted. -/
  | opened (room : RoomId) (made : List Occurrence)
      (bot : w'.bot = w.bot.register ⟨room, member, source, w.now⟩)
      (history : w'.history = made ++ .called w.bot w.activities
        (.create (w.bot.config.welcome.creation member)) (.ok room) :: w.history)
      (greeting : Greeting w'.bot w.activities room source member made)
      (evictions : ∀ reason, w'.evictions reason = w.evictions reason)

theorem hosted_welcomeNewcomer (source : RoomId) (member : MemberId) (w : World) :
    Hosted source member w ((welcomeNewcomer source member).run w).2 := by
  have hcreate := attempted_attempt "create" (.create (w.bot.config.welcome.creation member)) w
  unfold welcomeNewcomer createWelcome
  rw [run_bind, run_bind_except, run_lift, run_getConfig]
  dsimp only
  rw [run_bind_except]
  cases hrun : (attempt "create" (.create (w.bot.config.welcome.creation member))).run.run w with
  | mk result v =>
    rw [hrun] at hcreate
    cases result with
    | error e => exact .refused e hcreate.bot hcreate.history hcreate.evictions
    | ok room =>
      let registered : World := { v with
        bot := v.bot.register ⟨room, member, source, v.now⟩
        log := ⟨v.activities, .welcomeCreated room member source⟩ :: v.log }
      have hgreet := greeted_greet room source member registered
      obtain ⟨made, hmade, hgreeting⟩ := hgreet.history
      have hbot : registered.bot = w.bot.register ⟨room, member, source, w.now⟩ := by
        rw [← hcreate.bot, ← hcreate.now]
      refine .opened room made (hgreet.bot.trans hbot) ?_ ?_ fun reason => ?_
      · exact hmade.trans (congrArg (made ++ ·) hcreate.history)
      · have hactivities : registered.activities = w.activities := hcreate.activities
        rw [← hactivities]
        exact hgreet.bot ▸ hgreeting
      · exact (hgreet.evictions reason).trans (hcreate.evictions reason)

/-! ### Closing -/

/-- What taking a welcome room out of the registry comes to, besides the calls that are made. -/
structure Closed (room : RoomId) (reason : String) (w w' : World) : Prop where
  registered : w.bot.welcome.contains room = true
  bot : w'.bot = (w.bot.unregister room).2
  evictions : ∀ other, w'.evictions other = w.evictions other + if reason = other then 1 else 0

/-- Nothing is done about a room that is no welcome room. -/
theorem run_evict_of_not_contains {room : RoomId} (why : Eviction)
    (h : w.bot.welcome.contains room = false) : (evict room why).run w = (false, w) := by
  unfold evict
  rw [run_bind, run_getBot]
  dsimp only
  rw [Bot.unregister_of_not_contains h]
  rfl

theorem evictions_count (reason : String) (w : World) (other : String) :
    ((count (.welcomeEvictions reason)).run w).2.evictions other =
      w.evictions other + if reason = other then 1 else 0 := by
  have hlabel : Counter.welcomeEvictions reason = .welcomeEvictions other ↔ reason = other := by
    simp [Counter.welcomeEvictions]
  change (w.counters.advance _ 1).get _ = _
  rw [Counters.get_advance]
  simp only [hlabel]
  rfl

/-- The call by which a welcome room is left may fail, and that is all. -/
theorem attempted_leave (room : RoomId) (w : World) :
    let step : BotM Bool := do
      if let .error e ← (attempt "leave" (.leave room)).run then note (.welcomeNotLeft room e)
      return true
    (step.run w).1 = true ∧ ∃ result, Attempted (.leave room) w (step.run w).2 result := by
  intro step
  simp only [step]
  rw [run_bind]
  have hleave := attempted_attempt "leave" (.leave room) w
  cases hrun : (attempt "leave" (.leave room)).run.run w with
  | mk result v =>
    rw [hrun] at hleave
    cases result with
    | ok _ => exact ⟨rfl, _, hleave⟩
    | error e =>
      exact ⟨rfl, .error e, ⟨hleave.bot, hleave.history, hleave.activities, hleave.mayGive⟩,
        hleave.now, hleave.evictions⟩

/-- A welcome room is left with one call, whether the homeserver lets the bot leave or not. -/
theorem closed_evict {room : RoomId} (why : Eviction) (h : w.bot.welcome.contains room = true) :
    ((evict room why).run w).1 = true ∧ Closed room why.word w ((evict room why).run w).2 ∧
      ∃ result, ((evict room why).run w).2.history =
        .called (w.bot.unregister room).2 w.activities (.leave room) result :: w.history := by
  obtain ⟨entry, hentry⟩ := Bot.unregister_of_contains h
  unfold evict
  rw [run_bind, run_getBot]
  dsimp only
  rw [hentry]
  let removed : World := { w with bot := (w.bot.unregister room).2 }
  let counted : World := ((count (.welcomeEvictions why.word)).run removed).2
  obtain ⟨htrue, result, hleave⟩ :=
    attempted_leave room ((note (.welcomeClosing room entry.member why)).run counted).2
  refine ⟨htrue, ⟨h, hleave.bot, fun other => ?_⟩, result, hleave.history⟩
  exact (hleave.evictions other).trans (evictions_count why.word removed other)

/-- A welcome room that the bot is no longer in is taken out of the registry without any call. -/
theorem closed_handleLeft {room : RoomId} (h : w.bot.welcome.contains room = true) :
    Closed room "remote" w ((handleLeft room).run w).2 ∧
      ((handleLeft room).run w).2.history = w.history := by
  obtain ⟨entry, hentry⟩ := Bot.unregister_of_contains h
  unfold handleLeft
  rw [run_bind, run_getBot]
  dsimp only
  rw [hentry]
  exact ⟨⟨h, rfl, evictions_count "remote" { w with bot := (w.bot.unregister room).2 }⟩, rfl⟩

/-- No call is made either for a room that is no welcome room; its record is ended. -/
theorem handleLeft_of_not_contains {room : RoomId} (h : w.bot.welcome.contains room = false) :
    ((handleLeft room).run w).2.bot = w.bot.dropRoom room ∧
      ((handleLeft room).run w).2.history = w.history ∧
      ∀ reason, ((handleLeft room).run w).2.evictions reason = w.evictions reason := by
  unfold handleLeft endRecord
  rw [run_bind, run_getBot]
  dsimp only
  rw [Bot.unregister_of_not_contains h]
  dsimp only
  rw [run_bind, run_bind, run_bind, run_getBot, run_getConfig]
  dsimp only
  split
  · split
    · exact ⟨rfl, rfl, fun _ => rfl⟩
    · exact ⟨rfl, rfl, fun _ => rfl⟩
  · split
    · exact ⟨rfl, rfl, fun _ => rfl⟩
    · exact ⟨rfl, rfl, fun _ => rfl⟩

/-- What it comes to that the bot is no longer in a room. -/
inductive Departed (room : RoomId) (w w' : World) : Prop
  /-- A welcome room is taken out of the registry. -/
  | forgotten (registered : w.bot.welcome.contains room = true)
      (bot : w'.bot = (w.bot.unregister room).2) (history : w'.history = w.history)
  /-- The record of any other room is ended. -/
  | ended (unregistered : w.bot.welcome.contains room = false) (bot : w'.bot = w.bot.dropRoom room)
      (history : w'.history = w.history)

theorem departed_handleLeft (room : RoomId) (w : World) :
    Departed room w ((handleLeft room).run w).2 := by
  cases hregistered : w.bot.welcome.contains room with
  | false =>
    obtain ⟨hbot, hhistory, -⟩ := handleLeft_of_not_contains hregistered
    exact .ended hregistered hbot hhistory
  | true =>
    obtain ⟨hclosed, hhistory⟩ := closed_handleLeft hregistered
    exact .forgotten hregistered hclosed.bot hhistory

end RoomModeration
