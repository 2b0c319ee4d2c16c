import RoomModeration.Bot.Effect

/-!
# Running a step

What a step does to a world, written out for the ways in which steps are put together and for the
parts that all steps are made of. A step that a failed call can end is run to its result and the
world it leaves behind, whether it has failed or not.

## Main results

* `run_bind`, `run_bind_except`, `run_forM_append` : one step after another.
* `run_call`, `run_attempt` : calling the homeserver.
-/

namespace RoomModeration

open BotM

variable [Surroundings] {α β ε : Type}

/-! ### Putting steps together -/

theorem run_bind (x : BotM α) (f : α → BotM β) (w : World) :
    (x >>= f).run w = (f (x.run w).1).run (x.run w).2 := rfl

theorem run_lift (x : BotM α) (w : World) :
    (liftM x : ExceptT ε BotM α).run.run w = (.ok (x.run w).1, (x.run w).2) := rfl

/-- What comes after a failure is not done. -/
theorem run_bind_except (x : ExceptT ε BotM α) (f : α → ExceptT ε BotM β) (w : World) :
    (x >>= f).run.run w =
      match x.run.run w with
      | (.ok a, w) => (f a).run.run w
      | (.error e, w) => (.error e, w) := by
  rw [ExceptT.run_bind, run_bind]
  cases x.run.run w with
  | mk result w => cases result <;> rfl

/-- Going through two lists is going through the one and then through the other. -/
theorem run_forM_append (step : α → BotM PUnit) (l m : List α) (w : World) :
    ((l ++ m).forM step).run w = (m.forM step).run ((l.forM step).run w).2 := by
  induction l generalizing w with
  | nil => rfl
  | cons a l ih => exact ih ((step a).run w).2

/-! ### The parts of steps -/

theorem run_get (w : World) : (get : BotM World).run w = (w, w) := rfl

theorem run_getBot (w : World) : getBot.run w = (w.bot, w) := rfl

theorem run_getConfig (w : World) : getConfig.run w = (w.bot.config, w) := rfl

/-- A call is answered by the homeserver and goes into the history together with the state of the
bot in which it was made. -/
theorem run_call (c : Call) (w : World) :
    (call c).run.run w =
      ((Surroundings.homeserver.answer c w.server).1.result,
        { w with
          server := (Surroundings.homeserver.answer c w.server).2
          history := .called w.bot w.activities c
            (Surroundings.homeserver.answer c w.server).1.result :: w.history
          log := ((Surroundings.homeserver.answer c w.server).1.notices.map
            (⟨w.activities, ·⟩)).reverse ++ w.log }) := rfl

/-- A call for an action changes nothing else, but for counters and notices. -/
theorem run_attempt (action : String) (c : Call) (w : World) :
    ∃ counters log, (attempt action c).run.run w =
      ((Surroundings.homeserver.answer c w.server).1.result,
        { w with
          server := (Surroundings.homeserver.answer c w.server).2
          counters := counters
          history := .called w.bot w.activities c
            (Surroundings.homeserver.answer c w.server).1.result :: w.history
          log := log }) := by
  unfold attempt
  -- Counting a failure is a matter of the result alone.
  rw [ExceptT.run_mk, run_bind, run_call]
  cases (Surroundings.homeserver.answer c w.server).1.result with
  | ok reply => exact ⟨_, _, rfl⟩
  | error e => exact ⟨_, _, rfl⟩

end RoomModeration
