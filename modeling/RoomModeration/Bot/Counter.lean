/-!
# Counters

The bot counts what it does. Each counter belongs to a family, whose members differ in their
labels.

## Main definitions

* `CounterFamily` : the families, with their names and label names.
* `Counter` : a counter of a family.
* `Counters` : how far each counter has come.
-/

namespace RoomModeration

/-- The families of counters. -/
inductive CounterFamily where
  /-- Batches of the feed that were applied. -/
  | syncBatches
  /-- Events from before the bot was ready. -/
  | staleEvents
  /-- Events that could not be read. -/
  | malformedEvents
  /-- Changes of membership, by kind. -/
  | transitions
  /-- Bans and unbans carried over to other rooms, by action. -/
  | propagations
  /-- Executed commands, by name. -/
  | commands
  /-- Failed commands, by name and cause. -/
  | commandErrors
  /-- Failed calls, by action and cause. -/
  | actionFailures
  /-- Closed welcome rooms, by cause. -/
  | welcomeEvictions
  deriving DecidableEq, Repr

namespace CounterFamily

/-- The name of a family. -/
def name : CounterFamily → String
  | syncBatches => "sync_batches_total"
  | staleEvents => "stale_events_total"
  | malformedEvents => "malformed_events_total"
  | transitions => "transitions_total"
  | propagations => "propagations_total"
  | commands => "command_total"
  | commandErrors => "command_errors_total"
  | actionFailures => "action_failures_total"
  | welcomeEvictions => "welcome_evictions_total"

/-- The names of the labels of a family, in order. -/
def labels : CounterFamily → List String
  | syncBatches | staleEvents | malformedEvents => []
  | transitions => ["kind"]
  | propagations => ["action"]
  | commands => ["command"]
  | commandErrors => ["command", "error"]
  | actionFailures => ["action", "error"]
  | welcomeEvictions => ["reason"]

end CounterFamily

/-- A counter. -/
structure Counter where
  /-- Its family. -/
  family : CounterFamily
  /-- The values of its labels, in the order of the names. -/
  values : List String
  deriving DecidableEq, Repr

namespace Counter

/-- Batches of the feed that were applied. -/
def syncBatches : Counter := ⟨.syncBatches, []⟩

/-- Events from before the bot was ready. -/
def staleEvents : Counter := ⟨.staleEvents, []⟩

/-- Events that could not be read. -/
def malformedEvents : Counter := ⟨.malformedEvents, []⟩

/-- Changes of membership of a kind. -/
def transitions (kind : String) : Counter := ⟨.transitions, [kind]⟩

/-- Bans or unbans carried over to other rooms. -/
def propagations (action : String) : Counter := ⟨.propagations, [action]⟩

/-- Executed commands of a name. -/
def commands (name : String) : Counter := ⟨.commands, [name]⟩

/-- Commands of a name that failed for a cause. -/
def commandErrors (name code : String) : Counter := ⟨.commandErrors, [name, code]⟩

/-- Calls for an action that failed for a cause. -/
def actionFailures (action code : String) : Counter := ⟨.actionFailures, [action, code]⟩

/-- Welcome rooms closed for a cause. -/
def welcomeEvictions (reason : String) : Counter := ⟨.welcomeEvictions, [reason]⟩

/-- The labels with their values, as they are written behind the name. -/
def labelText (c : Counter) : String :=
  if c.values.isEmpty then ""
  else
    let pairs := (c.family.labels.zip c.values).map fun (k, v) => k ++ "=\"" ++ v ++ "\""
    "\x7b" ++ String.intercalate "," pairs ++ "\x7d"

/-- The name of a counter with its labels. -/
def text (c : Counter) : String :=
  c.family.name ++ c.labelText

end Counter

/-- How far counters have come, in the order of their first use. -/
abbrev Counters := List (Counter × Nat)

namespace Counters

/-- How far a counter has come. -/
def get (counters : Counters) (c : Counter) : Nat :=
  (counters.lookup c).getD 0

/-- The counters after one of them has been advanced. -/
def advance (c : Counter) (n : Nat) : Counters → Counters
  | [] => [(c, n)]
  | (d, m) :: rest => if c = d then (d, m + n) :: rest else (d, m) :: advance c n rest

/-- An advanced counter has come further by the amount, and every other is where it was. -/
theorem get_advance (c d : Counter) (n : Nat) (counters : Counters) :
    (advance c n counters).get d = counters.get d + if c = d then n else 0 := by
  induction counters with
  | nil =>
    by_cases h : c = d
    · simp [advance, get, h]
    · have hne : (d == c) = false := by simpa using Ne.symm h
      simp [advance, get, List.lookup_cons, h, hne]
  | cons p rest ih =>
    obtain ⟨e, m⟩ := p
    simp only [get] at ih
    unfold advance
    by_cases hce : c = e
    · subst hce
      by_cases hcd : d = c
      · subst hcd; simp [get]
      · have hne : (d == c) = false := by simpa using hcd
        simp [get, List.lookup_cons, hne, Ne.symm hcd]
    · by_cases hde : d = e
      · subst hde; simp [get, hce]
      · have hne : (d == e) = false := by simpa using hde
        simp [get, List.lookup_cons, hce, hne, ih]

end Counters

end RoomModeration
