import RoomModeration.Bot.Chat
import RoomModeration.Proofs.Speaking

/-!
# What a chat message leads to

A message either gives a command or is at most answered. A command is carried out by its handler, as
part of the activity that names the command, its sender and its room; what comes after the handler
is only spoken.

## Main definitions

* `Bot.Heeds` : a message gives a command.
* `Received` : what a message leads to.

## Main results

* `receiveChat_cases` : those are all cases.
* `obey_speaks` : after its handler a command is only spoken of.
-/

namespace RoomModeration

open BotM RoomModeration.Bot

/-- A message gives a command: it starts with the prefix, its sender is not the bot and may give
commands in the room, and what follows the prefix is that command. -/
structure Bot.Heeds (b : Bot) (room : RoomId) (sender : MemberId) (body : String)
    (command : Command) : Prop where
  foreign : sender ≠ b.selfId
  allowed : b.config.mayCommand room sender = true
  parsed : ∃ line, afterPrefix? b.config.bot.commandPrefix body = some line ∧
    Command.parse line = .ok command

/-- A message gives one command only. -/
theorem Bot.Heeds.eq {b : Bot} {room : RoomId} {sender : MemberId} {body : String}
    {command command' : Command} (h : b.Heeds room sender body command)
    (h' : b.Heeds room sender body command') : command = command' := by
  obtain ⟨line, hline, hparsed⟩ := h.parsed
  obtain ⟨line', hline', hparsed'⟩ := h'.parsed
  rw [hline] at hline'
  obtain rfl := Option.some.inj hline'
  rw [hparsed] at hparsed'
  exact Except.ok.inj hparsed'

variable [Surroundings]

/-- The activity of carrying out a command. -/
def CommandOrigin.activity (origin : CommandOrigin) (command : Command) : Activity :=
  .command command.name origin.sender origin.room

/-- The world in which a command is carried out. -/
def CommandOrigin.enter (origin : CommandOrigin) (command : Command) (w : World) : World :=
  { w with activities := w.activities ++ [origin.activity command] }

/-- What a message leads to. -/
inductive Received (room : RoomId) (sender : MemberId) (body : String) (w w' : World) : Prop
  /-- It gives no command, and is at most answered. -/
  | unheeded (none : ∀ command, ¬ w.bot.Heeds room sender body command)
      (spoken : Trace Speaking w w')
  /-- It gives a command, which is obeyed. -/
  | heeded (command : Command) (heeds : w.bot.Heeds room sender body command)
      (obeyed : w' = ((obey ⟨room, sender⟩ command).run w).2)

/-- After its handler a command is only spoken of. -/
theorem obey_speaks (origin : CommandOrigin) (command : Command) (w : World) :
    Trace Speaking ((handle command.handler origin command).run.run (origin.enter command w)).2
      ((obey origin command).run w).2 := by
  have hduring : (during (.command command.name origin.sender origin.room)
      (execute origin command).run).run w =
        let h := (handle command.handler origin command).run.run (origin.enter command w)
        let counted := ((count (.commands command.name)).run h.2).2
        (h.1, { counted with activities := w.activities }) := rfl
  unfold obey
  dsimp only
  rw [run_bind, hduring]
  cases (handle command.handler origin command).run.run (origin.enter command w) with
  | mk result w₁ =>
    cases result with
    | ok _ => exact .aside rfl rfl
    | error e =>
      have hbegin : Trace Speaking w₁
          { ((count (.commands command.name)).run w₁).2 with activities := w.activities } :=
        .aside rfl rfl
      refine hbegin.step (.bind (.count _) fun _ => .bind (.note _) fun _ => ?_)
      split
      · exact .bind (.discard (does_post origin.room _)) fun _ => .pure _
      · exact .pure _

/-- Nothing that matters comes of a message of the bot itself, or of one whose sender may not give
commands. -/
theorem alike_receiveChat {room : RoomId} {sender : MemberId} {w : World}
    (h : sender = w.bot.selfId ∨ w.bot.config.mayCommand room sender = false) (body : String) :
    Alike w ((receiveChat room sender body).run w).2 := by
  unfold receiveChat
  rw [run_bind, run_getBot]
  dsimp only
  split
  · exact .refl w
  · split
    · exact .refl w
    · next hforeign =>
      have hmay := h.resolve_left hforeign
      rw [hmay, Bool.not_false, if_pos rfl]
      exact ⟨rfl, rfl, rfl⟩

/-- A message is at most answered, or gives a command that is obeyed. -/
theorem receiveChat_cases (room : RoomId) (sender : MemberId) (body : String) (w : World) :
    Received room sender body w ((receiveChat room sender body).run w).2 := by
  unfold receiveChat
  rw [run_bind, run_getBot]
  dsimp only
  cases haddressed : afterPrefix? w.bot.config.bot.commandPrefix body with
  | none =>
    refine .unheeded (fun command hheeds => ?_) (.refl w)
    obtain ⟨line, hline, -⟩ := hheeds.parsed
    rw [haddressed] at hline
    cases hline
  | some line =>
    by_cases hself : sender = w.bot.selfId
    · dsimp only
      rw [if_pos hself]
      exact .unheeded (fun command hheeds => hheeds.foreign hself) (.refl w)
    dsimp only
    rw [if_neg hself]
    cases hmay : w.bot.config.mayCommand room sender with
    | false =>
      refine .unheeded (fun command hheeds => ?_) (.aside rfl rfl)
      have hallowed := hheeds.allowed
      rw [hmay] at hallowed
      cases hallowed
    | true =>
      cases hparse : Command.parse line with
      | error e =>
        refine .unheeded (fun command hheeds => ?_) ?_
        · obtain ⟨line', hline', hcommand⟩ := hheeds.parsed
          rw [haddressed] at hline'
          obtain rfl := Option.some.inj hline'
          rw [hparse] at hcommand
          cases hcommand
        · exact (Trace.refl w).step (.bind (.note _) fun _ =>
            .bind (.discard (does_post room e.message)) fun _ => .pure _)
      | ok command => exact .heeded command ⟨hself, hmay, line, haddressed, hparse⟩ rfl

end RoomModeration
