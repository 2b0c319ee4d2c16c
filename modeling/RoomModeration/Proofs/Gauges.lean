import RoomModeration.Metrics.Exposition
import RoomModeration.Proofs.Room.Operation
import RoomModeration.Proofs.Room.Presence
import RoomModeration.Proofs.Task
import Mathlib.Data.Set.Card

/-!
# Gauges that tell the truth

Two gauges show the operator how many rooms have a record and how many are registered as welcome
rooms. They are not worked out when someone looks at them, but set by the changes that begin or end
a record and that register a welcome room or take one out of the registry. A change that comes to
nothing sets no gauge, and one that replaces what was there already does not count it twice.

A collector reads the gauges on a page, where each figure stands in a line of its own behind its
name. Nothing else on the page can be taken for a gauge, whatever the labels of the counters are.

The gauges are there from the beginning, when there are no rooms yet, and the changes of a store and
of its gauge are one deed.

## Main definitions

* `figureName`, `samples` : how a collector reads the lines of a page.
* `Bot.Truthful` : the gauges show how many rooms there are.
* `World.Truthful` : they do, they did at every call, and the page says so.

## Main results

* `samples_gauges` : the lines of the gauges on a page.
* `RoomStore.encard_isTracked`, `WelcomeRegistry.encard_contains` : no room is counted twice.
* `Change.truthful_apply` : every change of the bot leaves the gauges truthful.
* `gauges_never_lie` : the gauges are truthful whatever the bot does.
-/

namespace RoomModeration

open BotM RoomModeration.Bot MetricFamily

/-! ### Reading the page -/

/-- The name of the figure that a line shows, which ends where its labels or its value begin. A line
that is a comment has the name `#`. -/
def figureName (line : String) : String :=
  String.ofList (line.toList.takeWhile fun c => c != '\x7b' && c != ' ')

/-- The lines that show the figure of a name. -/
def samples (figure : String) (lines : List String) : List String :=
  lines.filter (figureName · = figure)

theorem samples_append (figure : String) (lines more : List String) :
    samples figure (lines ++ more) = samples figure lines ++ samples figure more :=
  List.filter_append lines more

/-- Lines with other names do not show a figure. -/
theorem samples_eq_nil {figure other : String} {lines : List String} (hcomment : "#" ≠ figure)
    (hother : other ≠ figure)
    (hlines : ∀ line ∈ lines, figureName line = "#" ∨ figureName line = other) :
    samples figure lines = [] := by
  refine List.filter_eq_nil_iff.2 fun line hline => ?_
  obtain hname | hname := hlines line hline
  · simpa [hname] using hcomment
  · simpa [hname] using hother

/-- A text may be the name of a figure. -/
def IsFigureName (name : String) : Prop :=
  ∀ c ∈ name.toList, (c != '\x7b' && c != ' ') = true

instance (name : String) : Decidable (IsFigureName name) :=
  List.decidableBAll _ _

/-- A text may stand between the name of a figure and its value. -/
def IsLabelText (labels : String) : Prop :=
  labels = "" ∨ labels.toList.head? = some '\x7b'

theorem Counter.isLabelText_labelText (c : Counter) : IsLabelText c.labelText := by
  unfold labelText
  split
  · exact .inl rfl
  · exact .inr (by simp)

/-- What stands before the labels and the value is the name. -/
theorem figureName_sample {name labels : String} (hname : IsFigureName name)
    (hlabels : IsLabelText labels) (value : String) :
    figureName (name ++ labels ++ " " ++ value) = name := by
  have hrest : (labels ++ (" " ++ value)).toList.takeWhile (fun c => c != '\x7b' && c != ' ') =
      [] := by
    rcases hlabels with rfl | hbrace
    · simp
    · obtain ⟨t, ht⟩ := List.head?_eq_some_iff.1 hbrace
      simp [ht]
  rw [String.append_assoc, String.append_assoc, figureName, String.toList_append,
    List.takeWhile_append_of_pos hname, hrest, List.append_nil, String.ofList_toList]

theorem figureName_comment {start : String} {t : List Char}
    (hstart : start.toList = '#' :: ' ' :: t) (rest : String) :
    figureName (start ++ rest) = "#" := by
  rw [figureName, String.toList_append, hstart]
  rfl

namespace MetricFamily

/-- The line of a figure has the name of its family, and the other lines are comments. -/
theorem figureName_of_mem_lines {f : MetricFamily} (hname : IsFigureName f.name)
    (hlabels : ∀ p ∈ f.figures, IsLabelText p.1) {line : String} (hline : line ∈ f.lines) :
    figureName line = "#" ∨ figureName line = f.name := by
  unfold lines at hline
  split at hline
  · cases hline
  · simp only [List.mem_cons, List.mem_map, String.append_assoc] at hline
    obtain rfl | rfl | ⟨p, hp, rfl⟩ := hline
    · exact .inl (figureName_comment rfl _)
    · exact .inl (figureName_comment rfl _)
    · rw [← String.append_assoc, ← String.append_assoc]
      exact .inr (figureName_sample hname (hlabels p hp) _)

theorem isLabelText_of_mem_countersOf {counters : Counters} {family : CounterFamily}
    {p : String × Nat} (hp : p ∈ countersOf counters family) : IsLabelText p.1 := by
  unfold countersOf at hp
  split at hp
  · obtain rfl := List.mem_singleton.1 hp
    exact .inl rfl
  · obtain ⟨⟨c, n⟩, -, rfl⟩ := List.mem_map.1 (List.mem_mergeSort.1 hp)
    exact c.isLabelText_labelText

/-- A gauge has one line, which shows its value. -/
theorem samples_ofGauge_self {name : String} (help : String) (n : Nat)
    (hname : IsFigureName (namespaceText ++ name)) (hcomment : "#" ≠ namespaceText ++ name) :
    samples (namespaceText ++ name) (ofGauge name help n).lines =
      [namespaceText ++ name ++ " " ++ toString n] := by
  have hlines : (ofGauge name help n).lines =
      ["# HELP " ++ (namespaceText ++ name ++ " " ++ help),
        "# TYPE " ++ (namespaceText ++ name ++ " " ++ "gauge"),
        namespaceText ++ name ++ "" ++ " " ++ toString n] := by
    simp only [← String.append_assoc]
    rfl
  have hsample := figureName_sample hname (.inl rfl) (toString n)
  rw [hlines, samples, List.filter_cons_of_neg, List.filter_cons_of_neg, List.filter_cons_of_pos,
    List.filter_nil, String.append_empty]
  · rwa [decide_eq_true_eq]
  · rwa [decide_eq_true_eq, figureName_comment rfl]
  · rwa [decide_eq_true_eq, figureName_comment rfl]

variable {figure : String} (hcomment : "#" ≠ figure)

include hcomment

theorem samples_ofCounters (counters : Counters) {family : CounterFamily}
    (hfamily : namespaceText ++ family.name ≠ figure) :
    samples figure (ofCounters counters family).lines = [] := by
  have hname : IsFigureName (namespaceText ++ family.name) := by
    cases family <;> decide +kernel
  exact samples_eq_nil hcomment hfamily fun line hline =>
    figureName_of_mem_lines hname (fun p hp => isLabelText_of_mem_countersOf hp) hline

theorem samples_ofCommandTimes (counters : Counters)
    (hcount : "warden_command_duration_seconds_count" ≠ figure) :
    samples figure (ofCommandTimes counters) = [] := by
  refine samples_eq_nil hcomment hcount fun line hline => ?_
  unfold ofCommandTimes at hline
  dsimp only at hline
  split at hline
  · cases hline
  · simp only [List.mem_cons, List.mem_map, String.append_assoc] at hline
    obtain rfl | rfl | ⟨p, hp, rfl⟩ := hline
    · exact .inl (figureName_comment rfl _)
    · exact .inl (figureName_comment rfl _)
    · right
      rw [← String.append_assoc, ← String.append_assoc, ← String.append_assoc]
      exact figureName_sample (by decide +kernel) (isLabelText_of_mem_countersOf hp) _

theorem samples_ofGauge_of_ne {name : String} (help : String) (n : Nat)
    (hname : IsFigureName (namespaceText ++ name)) (hne : namespaceText ++ name ≠ figure) :
    samples figure (ofGauge name help n).lines = [] := by
  have hlabels : ∀ p ∈ (ofGauge name help n).figures, IsLabelText p.1 :=
    fun p hp => .inl (congrArg Prod.fst (List.mem_singleton.1 hp))
  exact samples_eq_nil hcomment hne fun _ hline => figureName_of_mem_lines hname hlabels hline

end MetricFamily

/-- A figure that is no counter is shown on the page where the gauges are, and nowhere else. -/
theorem samples_lines (f : Figures) {figure : String} (hcomment : "#" ≠ figure)
    (hcount : "warden_command_duration_seconds_count" ≠ figure)
    (hfamily : ∀ family : CounterFamily, namespaceText ++ family.name ≠ figure) :
    samples figure f.lines =
      samples figure
          (ofGauge "tracked_rooms" "Monitored rooms with a live record" f.trackedRooms).lines ++
        samples figure
          (ofGauge "welcome_rooms" "Welcome rooms currently open" f.welcomeRooms).lines := by
  have hcounters : ∀ family, samples figure (ofCounters f.counters family).lines = [] :=
    fun family => samples_ofCounters hcomment f.counters (hfamily family)
  simp only [Figures.lines, samples_append, hcounters,
    samples_ofCommandTimes hcomment f.counters hcount, List.nil_append, List.append_nil]

/-- Each gauge has one line on the page, which shows its value. -/
theorem samples_gauges (f : Figures) :
    samples "warden_tracked_rooms" f.lines = [s!"warden_tracked_rooms {f.trackedRooms}"] ∧
      samples "warden_welcome_rooms" f.lines = [s!"warden_welcome_rooms {f.welcomeRooms}"] := by
  have htracked : IsFigureName (namespaceText ++ "tracked_rooms") := by decide +kernel
  have hwelcome : IsFigureName (namespaceText ++ "welcome_rooms") := by decide +kernel
  constructor
  · change samples (namespaceText ++ "tracked_rooms") f.lines = _
    rw [samples_lines f (by decide) (by decide) (by intro family; cases family <;> decide +kernel),
      samples_ofGauge_self _ _ htracked (by decide),
      samples_ofGauge_of_ne (by decide) _ _ hwelcome (by decide +kernel), List.append_nil]
    rfl
  · change samples (namespaceText ++ "welcome_rooms") f.lines = _
    rw [samples_lines f (by decide) (by decide) (by intro family; cases family <;> decide +kernel),
      samples_ofGauge_of_ne (by decide) _ _ htracked (by decide +kernel),
      samples_ofGauge_self _ _ hwelcome (by decide), List.nil_append]
    rfl

/-! ### The rooms that are counted -/

namespace RoomStore

/-- A store has as many records as there are rooms with a record. -/
theorem encard_isTracked (s : RoomStore) :
    {room | s.isTracked room = true}.encard = s.size := by
  have hrooms : {room | s.isTracked room = true} = (s.rooms.toFinset : Set RoomId) := by
    ext room
    simp [isTracked_iff, rooms]
  rw [hrooms, Set.encard_coe_eq_coe_finsetCard, rooms, List.toFinset_card_of_nodup s.distinct,
    List.length_map, size]

end RoomStore

/-- A registry has as many entries as there are rooms with an entry. -/
theorem WelcomeRegistry.encard_contains (r : WelcomeRegistry) :
    {room | r.contains room = true}.encard = r.size := by
  have hrooms : {room | r.contains room = true} =
      ((r.entries.map (·.id)).toFinset : Set RoomId) := by
    ext room
    simp [contains]
  rw [hrooms, Set.encard_coe_eq_coe_finsetCard, List.toFinset_card_of_nodup r.distinct,
    List.length_map, size]

/-! ### Gauges and rooms -/

/-- The gauges show how many rooms have a record and how many are registered as welcome rooms. -/
structure Bot.Truthful (b : Bot) : Prop where
  tracked : b.trackedGauge = {room | b.rooms.isTracked room = true}.encard
  welcome : b.welcomeGauge = {room | b.welcome.contains room = true}.encard

theorem Bot.truthful_iff {b : Bot} :
    b.Truthful ↔ b.trackedGauge = b.rooms.size ∧ b.welcomeGauge = b.welcome.size := by
  constructor
  · rintro ⟨htracked, hwelcome⟩
    rw [b.rooms.encard_isTracked] at htracked
    rw [b.welcome.encard_contains] at hwelcome
    exact ⟨Nat.cast_inj.1 htracked, Nat.cast_inj.1 hwelcome⟩
  · rintro ⟨htracked, hwelcome⟩
    exact ⟨by rw [htracked, b.rooms.encard_isTracked], by rw [hwelcome, b.welcome.encard_contains]⟩

theorem Bot.truthful_initial (selfId : MemberId) (store : ConfigStore) :
    (Bot.initial selfId store).Truthful :=
  truthful_iff.2 ⟨rfl, rfl⟩

/-- Every change of the bot leaves the gauges truthful. -/
theorem Change.truthful_apply (c : Change) {b : Bot} (h : b.Truthful) : (c.apply b).Truthful := by
  rw [Bot.truthful_iff] at h ⊢
  obtain ⟨htracked, hwelcome⟩ := h
  cases c with
  | stored | cursorMoved | readied | shutdownAsked => exact ⟨htracked, hwelcome⟩
  | seeded room members banned config => exact ⟨rfl, hwelcome⟩
  | dropped room =>
    refine ⟨?_, hwelcome⟩
    change (if b.rooms.isTracked room = true then _ else _) = (b.rooms.drop room).size
    split
    · rfl
    · next hroom =>
      -- Nothing is shown anew, but neither is there anything that is dropped.
      have hsame : (RoomStore.Operation.drop room).apply b.rooms = b.rooms :=
        RoomStore.Operation.apply_of_untracked rfl (Bool.eq_false_iff.2 hroom)
      exact htracked.trans (congrArg RoomStore.size hsame).symm
  -- A record that is changed stays the only one of its room.
  | joined | left | banned | unbanned | refreshed =>
    exact ⟨htracked.trans (List.length_map _).symm, hwelcome⟩
  | registered entry => exact ⟨htracked, rfl⟩
  | unregistered room =>
    cases hroom : b.welcome.contains room with
    | false =>
      have hsame : (Change.unregistered room).apply b = b :=
        congrArg Prod.snd (Bot.unregister_of_not_contains hroom)
      rw [hsame]
      exact ⟨htracked, hwelcome⟩
    | true =>
      obtain ⟨entry, hentry⟩ := Bot.unregister_eq hroom
      have hless := congrArg Prod.snd hentry
      change (Change.unregistered room).apply b = _ at hless
      rw [hless]
      exact ⟨htracked, rfl⟩
  | measured => exact ⟨rfl, rfl⟩

section

variable [Surroundings]

/-- What is shown of a world to a collector. -/
def World.figures (w : World) : Figures :=
  ⟨w.counters, w.bot.trackedGauge, w.bot.welcomeGauge⟩

/-- The gauges are truthful and were so at every call, and the page shows how many records and how
many welcome rooms there are. -/
structure World.Truthful (w : World) : Prop where
  now : w.bot.Truthful
  called : ∀ before activities c result,
    .called before activities c result ∈ w.history → before.Truthful
  tracked : samples "warden_tracked_rooms" w.figures.lines =
    [s!"warden_tracked_rooms {w.bot.rooms.size}"]
  welcome : samples "warden_welcome_rooms" w.figures.lines =
    [s!"warden_welcome_rooms {w.bot.welcome.size}"]

/-- The page shows what the gauges do. -/
theorem World.truthful_of_bots {w : World} (hnow : w.bot.Truthful)
    (hcalled : ∀ before activities c result,
      .called before activities c result ∈ w.history → before.Truthful) : w.Truthful := by
  obtain ⟨htracked, hwelcome⟩ := samples_gauges w.figures
  obtain ⟨hrecords, hentries⟩ := Bot.truthful_iff.1 hnow
  refine ⟨hnow, hcalled, ?_, ?_⟩
  · rw [← hrecords]
    exact htracked
  · rw [← hentries]
    exact hwelcome

/-- After whatever the bot does, in any order and whatever the homeserver answers, the gauges show
how many rooms have a record and how many are registered as welcome rooms; they did so at every
call, and the page says the same. This holds as well while several operations take turns, one deed
at a time. -/
theorem gauges_never_lie (selfId : MemberId) (store : ConfigStore)
    (server : Surroundings.Server) :
    let w₀ := World.initial (Bot.initial selfId store) server
    (∀ tasks : List Task, (w₀.doing tasks).Truthful) ∧
      ∀ w, Trace Anything w₀ w → w.Truthful := by
  intro w₀
  have hdeeds : ∀ w, Trace Anything w₀ w → w.Truthful := by
    intro w htrace
    have hkept := Anything.preserves_of_change (P := Bot.Truthful) fun c _ => c.truthful_apply
    obtain ⟨hnow, hcalled⟩ := hkept.trace htrace
      ⟨Bot.truthful_initial selfId store, fun _ _ _ _ hmem => absurd hmem List.not_mem_nil⟩
    exact World.truthful_of_bots hnow hcalled
  exact ⟨fun tasks => hdeeds _ (trace_doing w₀ tasks), hdeeds⟩

end

/-- The lobby is entered twice, a room without a record is left, and two welcome rooms are opened
that have one identifier. -/
def Sample.repetitions : List Task :=
  [.join lobby, .join lobby, .leave attic, .welcome lobby bob, .welcome lobby alice]

section

attribute [local instance] Sample.surroundings

/-- What is done twice is counted once, and what was never there is not taken off. -/
theorem repetitions_counted_once :
    let w₀ := World.initial (Bot.initial ⟨"@warden:x"⟩ (.inMemory Sample.hospitable)) ()
    let w := w₀.doing Sample.repetitions
    Trace Anything w₀ w ∧ w.Truthful ∧ w.bot.rooms.size = 1 ∧ w.bot.welcome.size = 1 := by
  intro w₀ w
  have htrace : Trace Anything w₀ w := trace_doing w₀ Sample.repetitions
  exact ⟨htrace, (gauges_never_lie _ _ _).2 w htrace, by decide +kernel, by decide +kernel⟩

end

end RoomModeration
