import RoomModeration.Bot.Answering
import RoomModeration.Bot.Greeting
import RoomModeration.Proofs.Deed

/-!
# Speaking

Posting, replying and asking for the names of rooms are rows of calls that ban nobody and that bring
the bot into no room and out of none, and they leave the bot as it is.

## Main results

* `does_post`, `does_displayNames`, `does_report` : what only speaks.
* `Does.acting` : an action as part of a command.
-/

namespace RoomModeration

open BotM RoomModeration.Bot

variable [Surroundings] {α : Type} {K : Permission}

/-- An action does the same as part of a command. -/
theorem Does.acting {act : ActionM α} (h : Does K act.run) : Does K (acting act).run :=
  fun w => h w

theorem does_send (room : RoomId) (message : Message) : Does Speaking (send room message).run := by
  refine .bind (.attempt "send" fun _ => ⟨rfl, rfl⟩) fun result => ?_
  cases result with
  | ok _ => exact .pure _
  | error e => exact .bind (.note _) fun _ => .pure _

theorem does_post (room : RoomId) (text : String) : Does Speaking (post room text).run :=
  does_send room _

theorem does_postMarkdown (room : RoomId) (text : String) :
    Does Speaking (postMarkdown room text).run :=
  does_send room _

theorem does_displayName (room : RoomId) : Does Speaking (displayName room) := by
  refine .bind (.attempt "room_name" fun _ => ⟨rfl, rfl⟩) fun result => ?_
  cases result with
  | ok name => exact .pure _
  | error e => exact .pure _

theorem does_displayNames (rooms : List RoomId) : Does Speaking (displayNames rooms) := by
  induction rooms with
  | nil => exact .pure _
  | cons room rest ih => exact .bind (does_displayName room) fun _ => .bind ih fun _ => .pure _

theorem does_greet (room source : RoomId) (member : MemberId) :
    Does Speaking (greet room source member) := by
  refine .bind .getConfig fun config => ?_
  cases config.welcomeTemplate? source with
  | none => exact .pure _
  | some template =>
    exact .bind (does_displayName source) fun name => .discard (does_postMarkdown room _)

theorem does_reply (origin : CommandOrigin) (text : String) :
    Does Speaking (reply origin text).run :=
  .acting (does_post origin.room text)

theorem does_replyMarkdown (origin : CommandOrigin) (text : String) :
    Does Speaking (replyMarkdown origin text).run :=
  .acting (does_postMarkdown origin.room text)

theorem does_report (origin : CommandOrigin) (verb : String) (member : MemberId)
    (names : RoomMap String) (rooms : List RoomId) :
    Does Speaking (report origin verb member names rooms).run := by
  induction rooms with
  | nil => exact .pure_except _
  | cons room rest ih => exact .bind_except (does_reply origin _) fun _ => ih

theorem does_helpText : Does Speaking helpText := by
  refine .bind .getConfig fun config => ?_
  dsimp only
  split
  · exact .pure _
  · split
    · exact .pure _
    · exact .bind (.note _) fun _ => .pure _

end RoomModeration
