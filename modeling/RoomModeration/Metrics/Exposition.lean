import RoomModeration.Bot.Counter

/-!
# Figures in text form

The counters and gauges are shown to a collector as lines of text. Each family has a line of help, a
line with its kind and a line for each of its figures; families stand in the order of their names,
and the figures of a family in the order of their labels. A family without figures is left out.

How long commands take is not kept here, so of that family only the number of commands is shown.

## Main definitions

* `Figures` : what is shown.
* `MetricFamily` : a family as it is written.
* `Figures.lines` : the lines.
-/

namespace RoomModeration

/-- What is shown to a collector. -/
structure Figures where
  /-- How far the counters have come. -/
  counters : Counters
  /-- The number of tracked rooms. -/
  trackedRooms : Nat
  /-- The number of open welcome rooms. -/
  welcomeRooms : Nat

/-- The kinds of families. -/
inductive MetricKind where
  /-- Figures that never go down. -/
  | counter
  /-- Figures that go up and down. -/
  | gauge
  /-- Figures about a distribution. -/
  | histogram
  deriving DecidableEq, Repr

/-- The word for a kind. -/
def MetricKind.word : MetricKind → String
  | counter => "counter"
  | gauge => "gauge"
  | histogram => "histogram"

/-- A family as it is written. -/
structure MetricFamily where
  /-- The name. -/
  name : String
  /-- What the figures mean. -/
  help : String
  /-- The kind. -/
  kind : MetricKind
  /-- The figures, with what stands behind the name. -/
  figures : List (String × Nat)
  deriving DecidableEq, Repr

namespace MetricFamily

/-- The lines of a family. -/
def lines (f : MetricFamily) : List String :=
  if f.figures.isEmpty then []
  else
    s!"# HELP {f.name} {f.help}" :: s!"# TYPE {f.name} {f.kind.word}" ::
      f.figures.map fun (labels, n) => s!"{f.name}{labels} {n}"

/-- What all names start with. -/
def namespaceText : String := "warden_"

/-- What the counters of a family mean. -/
def counterHelp : CounterFamily → String
  | .syncBatches => "Sync batches applied"
  | .staleEvents => "Events dropped as older than startup"
  | .malformedEvents => "Events that could not be decoded"
  | .transitions => "Membership transitions by kind"
  | .propagations => "Bans and unbans replicated to other rooms"
  | .commands => "Commands executed by name"
  | .commandErrors => "Command errors by name"
  | .actionFailures => "Failed homeserver calls"
  | .welcomeEvictions => "Welcome rooms evicted"

/-- The counters of a family, in the order of their labels. A family without labels has one counter,
which is there from the start. -/
def countersOf (counters : Counters) (family : CounterFamily) : List (String × Nat) :=
  if family.labels.isEmpty then [("", counters.get ⟨family, []⟩)]
  else
    let used := counters.filter fun (c, _) => c.family == family
    (used.map fun (c, n) => (c.labelText, n)).mergeSort fun a b => a.1 ≤ b.1

/-- A family of counters. -/
def ofCounters (counters : Counters) (family : CounterFamily) : MetricFamily where
  name := namespaceText ++ family.name
  help := counterHelp family
  kind := .counter
  figures := countersOf counters family

/-- A family that is one gauge. -/
def ofGauge (name help : String) (n : Nat) : MetricFamily where
  name := namespaceText ++ name
  help := help
  kind := .gauge
  figures := [("", n)]

/-- How many commands there are whose time was taken. -/
def ofCommandTimes (counters : Counters) : List String :=
  let name := namespaceText ++ "command_duration_seconds"
  let figures := countersOf counters .commands
  if figures.isEmpty then []
  else
    s!"# HELP {name} Command latency by name" :: s!"# TYPE {name} {MetricKind.histogram.word}" ::
      figures.map fun (labels, n) => s!"{name}_count{labels} {n}"

end MetricFamily

open MetricFamily in
/-- All lines. -/
def Figures.lines (f : Figures) : List String :=
  let family (c : CounterFamily) : List String := (ofCounters f.counters c).lines
  family .actionFailures ++ ofCommandTimes f.counters ++ family .commandErrors ++
    family .commands ++ family .malformedEvents ++ family .propagations ++ family .staleEvents ++
    family .syncBatches ++
    (ofGauge "tracked_rooms" "Monitored rooms with a live record" f.trackedRooms).lines ++
    family .transitions ++ family .welcomeEvictions ++
    (ofGauge "welcome_rooms" "Welcome rooms currently open" f.welcomeRooms).lines

end RoomModeration
