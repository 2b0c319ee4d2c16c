import RoomModeration.Config.Reading
import RoomModeration.Config.Writing
import RoomModeration.Proofs.Ordered
import RoomModeration.Proofs.Toml.Document

/-!
# The configuration is read as it is written

Everything the configuration says is found again in the text that it is written as: each entry of a
section, each set and each map, whatever characters are in the texts and names. Only numbers have to
be within the bounds of their fields; those of a configuration that has been read are.

## Main definitions

* `Config.Fits` : the numbers of a configuration are within the bounds of their fields.
* `Config.document` : the document that the sections of a configuration fill.

## Main results

* `Config.ofText?_toText` : a configuration is read as it is written.
* `Config.fits_of_ofText?` : the numbers of a configuration that has been read are within bounds.
-/

namespace RoomModeration

open Toml (Written Section Builder Node)

/-! ### Numbers -/

/-- The numbers of the behaviour are within their bounds. -/
structure BotConfig.Fits (b : BotConfig) : Prop where
  /-- The times. -/
  durations : ∀ n ∈ [b.syncTimeoutMs, b.rejoinDelaySecs, b.pollRetrySecs, b.heartbeatSecs,
    b.rebootDelaySecs], n < durationBound
  /-- The port. -/
  port : b.metricsPort < 0x10000

/-- The numbers of the calls are within their bounds. -/
structure ActionsConfig.Fits (a : ActionsConfig) : Prop where
  /-- The calls a second. -/
  rate : a.actionsPerSecond < 0x100000000
  /-- The calls at once. -/
  burst : a.burst < 0x100000000

/-- The numbers of the welcome rooms are within their bounds. -/
structure WelcomeConfig.Fits (w : WelcomeConfig) : Prop where
  /-- The age. -/
  lifetime : w.lifetimeSecs < durationBound
  /-- The time between two looks. -/
  sweep : w.sweepSecs < durationBound

/-- The numbers of a configuration are within the bounds of their fields. -/
structure Config.Fits (c : Config) : Prop where
  /-- The behaviour. -/
  bot : c.bot.Fits
  /-- The calls. -/
  actions : c.actions.Fits
  /-- The welcome rooms. -/
  welcome : c.welcome.Fits

theorem Toml.orDefault?_integer {bound n : Nat} (h : n < bound) (default : Nat) :
    Fields.orDefault? default (natural? bound) (some (.integer n)) = some n := by
  rw [Fields.orDefault?, natural?, if_pos]
  · rfl
  · omega

/-- What holds of the default and of everything that is read holds of a field. -/
theorem Fields.of_orDefault? {α β : Type} {default x : α} {read : β → Option α} {field : Option β}
    {P : α → Prop} (hdefault : P default) (hread : ∀ v x, read v = some x → P x)
    (h : orDefault? default read field = some x) : P x := by
  cases field with
  | none => exact Option.some.inj h ▸ hdefault
  | some v => exact hread v x h

theorem Toml.lt_of_natural? {bound n : Nat} {v : Toml} (h : natural? bound v = some n) :
    n < bound := by
  rw [natural?.eq_def] at h
  split at h
  · split at h
    · cases h
      omega
    · cases h
  · cases h

theorem Toml.lt_of_orDefault? {bound default n : Nat} {field : Option Toml}
    (hdefault : default < bound) (h : Fields.orDefault? default (natural? bound) field = some n) :
    n < bound :=
  Fields.of_orDefault? (P := (· < bound)) hdefault (fun _ _ => lt_of_natural?) h

namespace Config

/-! ### Sections -/

theorem readHomeserver?_ofEntries (h : HomeserverConfig) :
    readHomeserver? (Toml.ofEntries (homeserverEntries h)) = some h := by
  obtain ⟨url, login, password, token, device, user⟩ := h
  cases token <;> cases device <;> cases user <;> rfl

/-- How the section of the behaviour is read. -/
theorem readBot?_eq_some_iff {v : Toml} {b : BotConfig} :
    readBot? v = some b ↔ ∃ commandPrefix passive help timeout rejoin retry heartbeat reboot port,
      v.fields? ["prefix", "passive", "help_file", "sync_timeout_ms", "rejoin_delay_secs",
        "poll_retry_secs", "heartbeat_secs", "reboot_delay_secs", "metrics_port"] =
          some [commandPrefix, passive, help, timeout, rejoin, retry, heartbeat, reboot, port] ∧
      Fields.orDefault? BotConfig.default.commandPrefix Toml.string? commandPrefix =
        some b.commandPrefix ∧
      Fields.orDefault? BotConfig.default.passive Toml.boolean? passive = some b.passive ∧
      Fields.orDefault? BotConfig.default.helpFile (some <$> Toml.string? ·) help =
        some b.helpFile ∧
      Fields.orDefault? BotConfig.default.syncTimeoutMs (Toml.natural? durationBound) timeout =
        some b.syncTimeoutMs ∧
      Fields.orDefault? BotConfig.default.rejoinDelaySecs (Toml.natural? durationBound) rejoin =
        some b.rejoinDelaySecs ∧
      Fields.orDefault? BotConfig.default.pollRetrySecs (Toml.natural? durationBound) retry =
        some b.pollRetrySecs ∧
      Fields.orDefault? BotConfig.default.heartbeatSecs (Toml.natural? durationBound) heartbeat =
        some b.heartbeatSecs ∧
      Fields.orDefault? BotConfig.default.rebootDelaySecs (Toml.natural? durationBound) reboot =
        some b.rebootDelaySecs ∧
      Fields.orDefault? BotConfig.default.metricsPort (Toml.natural? 0x10000) port =
        some b.metricsPort := by
  rw [readBot?]
  simp only [Option.bind_eq_bind, Option.bind_eq_some_iff]
  constructor
  · rintro ⟨fields, hfields, h⟩
    split at h
    · simp only [Option.bind_eq_some_iff] at h
      obtain ⟨_, h₁, _, h₂, _, h₃, _, h₄, _, h₅, _, h₆, _, h₇, _, h₈, _, h₉, h⟩ := h
      cases h
      exact ⟨_, _, _, _, _, _, _, _, _, hfields, h₁, h₂, h₃, h₄, h₅, h₆, h₇, h₈, h₉⟩
    · cases h
  · rintro ⟨_, _, _, _, _, _, _, _, _, hfields, h₁, h₂, h₃, h₄, h₅, h₆, h₇, h₈, h₉⟩
    refine ⟨_, hfields, ?_⟩
    dsimp only
    rw [h₁, h₂, h₃, h₄, h₅, h₆, h₇, h₈, h₉]
    rfl

theorem readBot?_ofEntries {b : BotConfig} (h : b.Fits) :
    readBot? (Toml.ofEntries (botEntries b)) = some b := by
  obtain ⟨hdurations, hport⟩ := h
  simp only [List.forall_mem_cons] at hdurations
  obtain ⟨htimeout, hrejoin, hretry, hheartbeat, hreboot, -⟩ := hdurations
  refine readBot?_eq_some_iff.2 ⟨some (.string b.commandPrefix), some (.boolean b.passive),
    b.helpFile.map .string, _, _, _, _, _, _, ?_, rfl, rfl, ?_, Toml.orDefault?_integer htimeout _,
    Toml.orDefault?_integer hrejoin _, Toml.orDefault?_integer hretry _,
    Toml.orDefault?_integer hheartbeat _, Toml.orDefault?_integer hreboot _,
    Toml.orDefault?_integer hport _⟩
  all_goals
    obtain ⟨_, _, help, _, _, _, _, _, _⟩ := b
    cases help <;> rfl

theorem fits_of_readBot? {v : Toml} {b : BotConfig} (h : readBot? v = some b) : b.Fits := by
  obtain ⟨_, _, _, _, _, _, _, _, _, -, -, -, -, htimeout, hrejoin, hretry, hheartbeat, hreboot,
    hport⟩ := readBot?_eq_some_iff.1 h
  constructor
  · simp only [List.forall_mem_cons]
    exact ⟨Toml.lt_of_orDefault? (by decide) htimeout, Toml.lt_of_orDefault? (by decide) hrejoin,
      Toml.lt_of_orDefault? (by decide) hretry, Toml.lt_of_orDefault? (by decide) hheartbeat,
      Toml.lt_of_orDefault? (by decide) hreboot, List.forall_mem_nil _⟩
  · exact Toml.lt_of_orDefault? (by decide) hport

/-- How the section of the calls is read. -/
theorem readActions?_eq_some_iff {v : Toml} {a : ActionsConfig} :
    readActions? v = some a ↔ ∃ dryRun rate burst,
      v.fields? ["dry_run", "actions_per_second", "burst"] = some [dryRun, rate, burst] ∧
      Fields.orDefault? ActionsConfig.default.dryRun Toml.boolean? dryRun = some a.dryRun ∧
      Fields.orDefault? ActionsConfig.default.actionsPerSecond (Toml.natural? 0x100000000) rate =
        some a.actionsPerSecond ∧
      Fields.orDefault? ActionsConfig.default.burst (Toml.natural? 0x100000000) burst =
        some a.burst := by
  rw [readActions?]
  simp only [Option.bind_eq_bind, Option.bind_eq_some_iff]
  constructor
  · rintro ⟨fields, hfields, h⟩
    split at h
    · simp only [Option.bind_eq_some_iff] at h
      obtain ⟨_, hdryRun, _, hrate, _, hburst, h⟩ := h
      cases h
      exact ⟨_, _, _, hfields, hdryRun, hrate, hburst⟩
    · cases h
  · rintro ⟨dryRun, rate, burst, hfields, hdryRun, hrate, hburst⟩
    refine ⟨_, hfields, ?_⟩
    dsimp only
    rw [hdryRun, hrate, hburst]
    rfl

theorem readActions?_ofEntries {a : ActionsConfig} (h : a.Fits) :
    readActions? (Toml.ofEntries (actionsEntries a)) = some a :=
  readActions?_eq_some_iff.2 ⟨_, _, _, rfl, rfl, Toml.orDefault?_integer h.rate _,
    Toml.orDefault?_integer h.burst _⟩

theorem fits_of_readActions? {v : Toml} {a : ActionsConfig} (h : readActions? v = some a) :
    a.Fits := by
  obtain ⟨_, _, _, -, -, hrate, hburst⟩ := readActions?_eq_some_iff.1 h
  exact ⟨Toml.lt_of_orDefault? (by decide) hrate, Toml.lt_of_orDefault? (by decide) hburst⟩

/-- How the section of the welcome rooms is read. -/
theorem readWelcome?_eq_some_iff {v : Toml} {w : WelcomeConfig} :
    readWelcome? v = some w ↔ ∃ lifetime sweep name topic,
      v.fields? ["lifetime_secs", "sweep_secs", "room_name", "room_topic"] =
        some [lifetime, sweep, name, topic] ∧
      Fields.orDefault? WelcomeConfig.default.lifetimeSecs (Toml.natural? durationBound) lifetime =
        some w.lifetimeSecs ∧
      Fields.orDefault? WelcomeConfig.default.sweepSecs (Toml.natural? durationBound) sweep =
        some w.sweepSecs ∧
      Fields.orDefault? WelcomeConfig.default.roomName Toml.string? name = some w.roomName ∧
      Fields.orDefault? WelcomeConfig.default.roomTopic (some <$> Toml.string? ·) topic =
        some w.roomTopic := by
  rw [readWelcome?]
  simp only [Option.bind_eq_bind, Option.bind_eq_some_iff]
  constructor
  · rintro ⟨fields, hfields, h⟩
    split at h
    · simp only [Option.bind_eq_some_iff] at h
      obtain ⟨_, hlifetime, _, hsweep, _, hname, _, htopic, h⟩ := h
      cases h
      exact ⟨_, _, _, _, hfields, hlifetime, hsweep, hname, htopic⟩
    · cases h
  · rintro ⟨_, _, _, _, hfields, hlifetime, hsweep, hname, htopic⟩
    refine ⟨_, hfields, ?_⟩
    dsimp only
    rw [hlifetime, hsweep, hname, htopic]
    rfl

theorem readWelcome?_ofEntries {w : WelcomeConfig} (h : w.Fits) :
    readWelcome? (Toml.ofEntries (welcomeEntries w)) = some w := by
  refine readWelcome?_eq_some_iff.2 ⟨_, _, some (.string w.roomName), w.roomTopic.map .string, ?_,
    Toml.orDefault?_integer h.lifetime _, Toml.orDefault?_integer h.sweep _, rfl, ?_⟩
  all_goals
    obtain ⟨_, _, _, topic⟩ := w
    cases topic <;> rfl

theorem fits_of_readWelcome? {v : Toml} {w : WelcomeConfig} (h : readWelcome? v = some w) :
    w.Fits := by
  obtain ⟨_, _, _, _, -, hlifetime, hsweep, -⟩ := readWelcome?_eq_some_iff.1 h
  exact ⟨Toml.lt_of_orDefault? (by decide) hlifetime, Toml.lt_of_orDefault? (by decide) hsweep⟩

theorem readLogging?_ofEntries (l : LoggingConfig) :
    readLogging? (Toml.ofEntries (loggingEntries l)) = some l := by
  obtain ⟨level, format⟩ := l
  cases format <;> rfl

/-! ### Sets, maps and rooms -/

/-- Items are read in a row if each of them is read as it is written. -/
theorem mapM_map_eq_some {α β : Type} {read : β → Option α} {write : α → β} {items : List α}
    (h : ∀ x ∈ items, read (write x) = some x) : (items.map write).mapM read = some items := by
  induction items with
  | nil => rfl
  | cons x items ih =>
    obtain ⟨hx, hitems⟩ := List.forall_mem_cons.1 h
    rw [List.map_cons, List.mapM_cons, hx, ih hitems]
    rfl

theorem readMembers?_toToml (members : MemberSet) :
    readMembers? (Written.texts (members.toList.map MemberId.text)).toToml = some members := by
  have hread : ((members.toList.map MemberId.text).map Toml.string).mapM readMember? =
      some members.toList := by
    rw [List.map_map]
    exact mapM_map_eq_some fun _ _ => rfl
  change Option.bind (((members.toList.map MemberId.text).map Toml.string).mapM _) _ = _
  rw [hread]
  exact congrArg some (ofList_toList_set members)

theorem readModes?_toToml (modes : ModeSet) :
    readModes? (Written.texts (modes.toList.map RoomMode.name)).toToml = some modes := by
  have hread : ((modes.toList.map RoomMode.name).map Toml.string).mapM
      (fun v => v.choice? >>= modeOfCanonicalName?) = some modes.toList := by
    rw [List.map_map]
    exact mapM_map_eq_some fun mode _ => by cases mode <;> rfl
  change Option.bind (((modes.toList.map RoomMode.name).map Toml.string).mapM _) _ = _
  rw [hread]
  exact congrArg some (ofList_toList_set modes)

theorem readNameMap?_ofEntries (m : NameMap String) :
    readNameMap? Toml.string? (Toml.ofEntries (nameEntries m)) = some m := by
  have hread : ((nameEntries m).map fun entry => (entry.1, entry.2.toToml)).reverse.mapM
      (fun entry => do return (entry.1, ← Toml.string? entry.2)) = some m.toList.reverse := by
    rw [nameEntries, List.map_map, ← List.map_reverse]
    exact mapM_map_eq_some fun _ _ => rfl
  change Option.bind (List.mapM _ _) _ = _
  rw [hread]
  exact congrArg some (ofList_reverse_toList m)

/-- The table of a room that its sections have filled. -/
def roomNode (r : RoomConfig) : Node :=
  .table false false [("params", .table false false (Node.ofEntries (nameEntries r.params))),
    ("modes", .value (Written.texts (r.modes.toList.map RoomMode.name)).toToml)]

theorem readRoom?_roomNode (r : RoomConfig) : readRoom? (roomNode r).toToml = some r := by
  have hfields : (roomNode r).toToml.fields? ["modes", "params"] =
      some [some (Written.texts (r.modes.toList.map RoomMode.name)).toToml,
        some (Toml.ofEntries (nameEntries r.params))] := by
    rw [← Toml.Node.toToml_ofEntries false]
    rfl
  rw [readRoom?, hfields]
  change (readModes? _).bind (fun modes => (readNameMap? Toml.string? _).bind _) = _
  rw [readModes?_toToml, readNameMap?_ofEntries]
  rfl

/-- The rooms that their sections have filled, the last one first. -/
def roomNodes (rooms : RoomMap RoomConfig) : List (String × Node) :=
  (rooms.toList.map fun entry => (entry.1.text, roomNode entry.2)).reverse

theorem readRooms?_roomNodes (rooms : RoomMap RoomConfig) (implicit : Bool) :
    readRooms? (Node.table implicit false (roomNodes rooms)).toToml = some rooms := by
  have hread : (Node.entriesToToml (roomNodes rooms)).mapM
      (fun entry => do return (RoomId.mk entry.1, ← readRoom? entry.2)) =
        some rooms.toList.reverse := by
    rw [Toml.Node.entriesToToml_eq_map, roomNodes, ← List.map_reverse, List.map_map]
    refine mapM_map_eq_some fun entry _ => ?_
    change (readRoom? (roomNode entry.2).toToml).bind _ = _
    rw [readRoom?_roomNode]
    rfl
  change Option.bind ((Node.entriesToToml (roomNodes rooms)).mapM _) _ = _
  rw [hread]
  exact congrArg some (ofList_reverse_toList rooms)

/-! ### The document -/

/-- The tables of a configuration, without those of rooms. -/
def tables (c : Config) : List (String × List (String × Written)) :=
  [("homeserver", homeserverEntries c.homeserver), ("bot", botEntries c.bot),
    ("actions", actionsEntries c.actions), ("welcome", welcomeEntries c.welcome),
    ("logging", loggingEntries c.logging), ("vars", nameEntries c.vars)]

/-- The sections of rooms, below the table of all rooms. -/
def roomsSections (rooms : RoomMap RoomConfig) : List Section :=
  if rooms.isEmpty then [⟨["rooms"], []⟩]
  else rooms.toList.flatMap fun (room, r) => roomSections room r

/-- The sections of one room, as they stand below the table of all rooms. -/
def sectionsBelow (entry : RoomId × RoomConfig) : List Section :=
  [⟨[entry.1.text], [("modes", .texts (entry.2.modes.toList.map RoomMode.name))]⟩,
    Section.under entry.1.text ⟨["params"], nameEntries entry.2.params⟩]

theorem roomsSections_of_nonempty {rooms : RoomMap RoomConfig} (h : ¬rooms.isEmpty = true) :
    roomsSections rooms = (rooms.toList.flatMap sectionsBelow).map (Section.under "rooms") := by
  rw [roomsSections, if_neg h, List.map_flatMap]
  rfl

/-- What holds of the sections of each room, and of that of no rooms, holds of the sections of
rooms. -/
theorem forall_mem_roomsSections {P : Section → Prop} (hnone : P ⟨["rooms"], []⟩)
    (hmodes : ∀ room modes, P ⟨["rooms", room], [("modes", .texts modes)]⟩)
    (hparams : ∀ room params, P ⟨["rooms", room, "params"], nameEntries params⟩)
    (rooms : RoomMap RoomConfig) : ∀ sec ∈ roomsSections rooms, P sec := by
  intro sec hsec
  rw [roomsSections] at hsec
  split at hsec
  · rw [List.mem_singleton.1 hsec]
    exact hnone
  · obtain ⟨entry, -, hsec⟩ := List.mem_flatMap.1 hsec
    simp only [roomSections, List.mem_cons, List.not_mem_nil, or_false] at hsec
    obtain rfl | rfl := hsec
    · exact hmodes _ _
    · exact hparams _ _

theorem sections_eq (c : Config) :
    c.sections = ⟨[], [("admins", .texts (c.admins.toList.map MemberId.text))]⟩ ::
      ((c.tables.map fun table => ⟨[table.1], table.2⟩) ++ roomsSections c.rooms) :=
  rfl

theorem nodup_nameEntries (m : NameMap String) : ((nameEntries m).map Prod.fst).Nodup := by
  rw [nameEntries, List.map_map]
  exact nodup_map_toList id m

theorem nodup_tables (c : Config) : ∀ table ∈ c.tables, (table.2.map Prod.fst).Nodup := by
  obtain ⟨_, ⟨_, _, _, token, device, user⟩, ⟨_, _, help, _, _, _, _, _, _⟩, _, ⟨_, _, _, topic⟩, _,
    vars, _⟩ := c
  simp only [tables, List.forall_mem_cons]
  refine ⟨?_, ?_, ?_, ?_, ?_, nodup_nameEntries vars, List.forall_mem_nil _⟩
  · cases token <;> cases device <;> cases user <;> simp [homeserverEntries, optionalEntry]
  · cases help <;> simp [botEntries, optionalEntry]
  · simp [actionsEntries]
  · cases topic <;> simp [welcomeEntries, optionalEntry]
  · simp [loggingEntries]

/-- The sections of a room make the table of the room. -/
theorem fillAll?_sectionsBelow (entry : RoomId × RoomConfig) {t : Builder}
    (hnew : t.get? entry.1.text = none) :
    Toml.fillAll? (sectionsBelow entry) t = some (t.set entry.1.text (roomNode entry.2)) := by
  obtain ⟨room, r⟩ := entry
  let modes : Builder :=
    ⟨false, false, Node.ofEntries [("modes", .texts (r.modes.toList.map RoomMode.name))]⟩
  have hmodes : Section.fill? ⟨[room.text], [("modes", .texts (r.modes.toList.map RoomMode.name))]⟩
      t = some (t.set room.text modes.toNode) :=
    Toml.fill?_singleton (by simp) hnew
  have hnone : modes.get? "params" = none := rfl
  have hparams : Section.fill? ⟨["params"], nameEntries r.params⟩ modes =
      some (modes.set "params" (.table false false (Node.ofEntries (nameEntries r.params)))) :=
    Toml.fill?_singleton (nodup_nameEntries r.params) hnone
  have hboth : Section.fill? (Section.under room.text ⟨["params"], nameEntries r.params⟩)
      (t.set room.text modes.toNode) = some (t.set room.text (roomNode r)) := by
    rw [Toml.fill?_under (List.cons_ne_nil _ _), Builder.alter?_of_table (c := modes) (by simp),
      Builder.alter?, hparams, Builder.set_of_get?_eq_none hnone, Option.map_some, Builder.set_set]
    rfl
  change (Section.fill? _ t).bind (fun t => (Section.fill? _ t).bind some) = _
  rw [hmodes, Option.bind_some, hboth, Option.bind_some]

/-- The sections of rooms make the table of all rooms. -/
theorem fillAll?_roomsSections (rooms : RoomMap RoomConfig) {t : Builder}
    (hnew : t.get? "rooms" = none) :
    ∃ implicit, Toml.fillAll? (roomsSections rooms) t =
      some (t.set "rooms" (.table implicit false (roomNodes rooms))) := by
  by_cases hempty : rooms.isEmpty = true
  · refine ⟨false, ?_⟩
    have hnone : rooms.toList = [] := by
      rw [← List.isEmpty_iff, Std.ExtTreeMap.isEmpty_toList, hempty]
    rw [roomsSections, if_pos hempty, roomNodes, hnone]
    change (Section.fill? ⟨["rooms"], []⟩ t).bind some = _
    rw [Toml.fill?_singleton (by simp) hnew]
    rfl
  · refine ⟨true, ?_⟩
    have hsome : rooms.toList.flatMap sectionsBelow ≠ [] := by
      have hne : rooms.toList ≠ [] := by
        rwa [← List.isEmpty_eq_false_iff, Std.ExtTreeMap.isEmpty_toList, ← Bool.not_eq_true]
      obtain ⟨entry, entries, hentries⟩ := List.exists_cons_of_ne_nil hne
      rw [hentries]
      exact List.cons_ne_nil _ _
    have hpath : ∀ sec ∈ rooms.toList.flatMap sectionsBelow, sec.path ≠ [] := by
      intro sec hsec
      obtain ⟨entry, -, hsec⟩ := List.mem_flatMap.1 hsec
      simp only [sectionsBelow, List.mem_cons, List.not_mem_nil, or_false] at hsec
      obtain rfl | rfl := hsec
      all_goals exact List.cons_ne_nil _ _
    have hfill := Builder.foldlM_set (fun entry => Toml.fillAll? (sectionsBelow entry))
      (fun entry => entry.1.text) (fun entry => roomNode entry.2)
      (fun entry _ _ _ hnew => fillAll?_sectionsBelow entry hnew)
      (nodup_map_toList (congrArg RoomId.mk) rooms) (t := ⟨true, false, []⟩) rfl (fun _ _ => rfl)
    rw [roomsSections_of_nonempty hempty, Toml.fillAll?_under hsome hpath,
      Builder.alter?_of_none hnew, Builder.alter?, Toml.fillAll?_flatMap, hfill, List.append_nil]
    rfl

/-- The document that the sections of a configuration fill. -/
def document (c : Config) (implicit : Bool) : Builder :=
  ⟨false, false, ("rooms", .table implicit false (roomNodes c.rooms)) ::
    ((c.tables.map fun table =>
      (table.1, .table false false (Node.ofEntries table.2))).reverse ++
    [("admins", .value (Written.texts (c.admins.toList.map MemberId.text)).toToml)])⟩

theorem fillAll?_sections (c : Config) :
    ∃ implicit, Toml.fillAll? c.sections .empty = some (c.document implicit) := by
  let admins : List (String × Written) := [("admins", .texts (c.admins.toList.map MemberId.text))]
  have hadmins : Section.fill? ⟨[], admins⟩ .empty = some ⟨false, false, Node.ofEntries admins⟩ :=
    Builder.insertAll?_empty (by simp [admins]) false
  have hnew : ∀ table ∈ c.tables,
      (⟨false, false, Node.ofEntries admins⟩ : Builder).get? table.1 = none := by
    simp only [tables, List.forall_mem_cons]
    exact ⟨rfl, rfl, rfl, rfl, rfl, rfl, nofun⟩
  have htables := Toml.fillAll?_tables (nodup_tables c) (by simp [tables]) rfl hnew
  obtain ⟨implicit, hrooms⟩ := fillAll?_roomsSections c.rooms (t := ⟨false, false,
    (c.tables.map fun table => (table.1, .table false false (Node.ofEntries table.2))).reverse ++
      Node.ofEntries admins⟩) rfl
  refine ⟨implicit, ?_⟩
  rw [sections_eq]
  change (Section.fill? ⟨[], admins⟩ .empty).bind (Toml.fillAll? _) = _
  rw [hadmins, Option.bind_some, Toml.fillAll?_append, htables, Option.bind_some, hrooms,
    Builder.set_of_get?_eq_none rfl]
  rfl

/-- How a document is read. -/
theorem ofToml?_eq_some_iff {v : Toml} {c : Config} :
    ofToml? v = some c ↔ ∃ admins homeserver bot actions welcome logging vars rooms,
      v.fields? ["admins", "homeserver", "bot", "actions", "welcome", "logging", "vars",
        "rooms"] = some [admins, homeserver, bot, actions, welcome, logging, vars, rooms] ∧
      Fields.orDefault? ∅ readMembers? admins = some c.admins ∧
      Fields.required? readHomeserver? homeserver = some c.homeserver ∧
      Fields.orDefault? .default readBot? bot = some c.bot ∧
      Fields.orDefault? .default readActions? actions = some c.actions ∧
      Fields.orDefault? .default readWelcome? welcome = some c.welcome ∧
      Fields.orDefault? .default readLogging? logging = some c.logging ∧
      Fields.orDefault? ∅ (readNameMap? Toml.string?) vars = some c.vars ∧
      Fields.orDefault? ∅ readRooms? rooms = some c.rooms := by
  rw [ofToml?]
  simp only [Option.bind_eq_bind, Option.bind_eq_some_iff]
  constructor
  · rintro ⟨fields, hfields, h⟩
    split at h
    · simp only [Option.bind_eq_some_iff] at h
      obtain ⟨_, h₁, _, h₂, _, h₃, _, h₄, _, h₅, _, h₆, _, h₇, _, h₈, h⟩ := h
      cases h
      exact ⟨_, _, _, _, _, _, _, _, hfields, h₁, h₂, h₃, h₄, h₅, h₆, h₇, h₈⟩
    · cases h
  · rintro ⟨_, _, _, _, _, _, _, _, hfields, h₁, h₂, h₃, h₄, h₅, h₆, h₇, h₈⟩
    refine ⟨_, hfields, ?_⟩
    dsimp only
    rw [h₁, h₂, h₃, h₄, h₅, h₆, h₇, h₈]
    rfl

/-- The numbers of a configuration that has been read are within bounds. -/
theorem fits_of_ofText? {text : String} {c : Config} (h : ofText? text = some c) : c.Fits := by
  obtain ⟨v, -, hv⟩ := Option.bind_eq_some_iff.1 h
  obtain ⟨_, _, _, _, _, _, _, _, -, -, -, hbot, hactions, hwelcome, -⟩ :=
    ofToml?_eq_some_iff.1 hv
  constructor
  · exact Fields.of_orDefault? ⟨by decide, by decide⟩ (fun _ _ => fits_of_readBot?) hbot
  · exact Fields.of_orDefault? ⟨by decide, by decide⟩ (fun _ _ => fits_of_readActions?) hactions
  · exact Fields.of_orDefault? ⟨by decide, by decide⟩ (fun _ _ => fits_of_readWelcome?) hwelcome

theorem readable_nameEntries (m : NameMap String) :
    ∀ entry ∈ nameEntries m, entry.2.Readable := by
  intro entry hentry
  obtain ⟨_, -, rfl⟩ := List.mem_map.1 hentry
  trivial

theorem readable_optionalEntry (key : String) (value : Option String) :
    ∀ entry ∈ optionalEntry key value, entry.2.Readable := by
  cases value with
  | none => exact List.forall_mem_nil _
  | some s => exact List.forall_mem_singleton.2 trivial

theorem readable_tables {c : Config} (h : c.Fits) :
    ∀ table ∈ c.tables, ∀ entry ∈ table.2, entry.2.Readable := by
  have hdurations := h.bot.durations
  simp only [List.forall_mem_cons] at hdurations
  obtain ⟨htimeout, hrejoin, hretry, hheartbeat, hreboot, -⟩ := hdurations
  have hport : c.bot.metricsPort < Toml.naturalBound :=
    Nat.lt_of_lt_of_le h.bot.port (by decide)
  have hrate : c.actions.actionsPerSecond < Toml.naturalBound :=
    Nat.lt_of_lt_of_le h.actions.rate (by decide)
  have hburst : c.actions.burst < Toml.naturalBound :=
    Nat.lt_of_lt_of_le h.actions.burst (by decide)
  simp only [tables, List.forall_mem_cons, homeserverEntries, botEntries, actionsEntries,
    welcomeEntries, loggingEntries, List.forall_mem_append]
  refine ⟨⟨⟨⟨⟨trivial, trivial, trivial, List.forall_mem_nil _⟩, readable_optionalEntry _ _⟩,
    readable_optionalEntry _ _⟩, readable_optionalEntry _ _⟩, ?_, ?_, ?_, ?_,
    readable_nameEntries _, List.forall_mem_nil _⟩
  · exact ⟨⟨⟨trivial, trivial, List.forall_mem_nil _⟩, readable_optionalEntry _ _⟩, htimeout,
      hrejoin, hretry, hheartbeat, hreboot, hport, List.forall_mem_nil _⟩
  · exact ⟨trivial, hrate, hburst, List.forall_mem_nil _⟩
  · exact ⟨⟨h.welcome.lifetime, h.welcome.sweep, trivial, List.forall_mem_nil _⟩,
      readable_optionalEntry _ _⟩
  · exact ⟨trivial, trivial, List.forall_mem_nil _⟩

/-- The sections of a configuration are within the limits of the reader if its numbers are. -/
theorem readable_of_mem_sections {c : Config} (h : c.Fits) :
    ∀ sec ∈ c.sections, sec.Readable := by
  rw [sections_eq]
  refine List.forall_mem_cons.2 ⟨⟨Nat.zero_le _, List.forall_mem_singleton.2 trivial⟩,
    List.forall_mem_append.2 ⟨?_, ?_⟩⟩
  · intro sec hsec
    obtain ⟨table, htable, rfl⟩ := List.mem_map.1 hsec
    exact ⟨by simp [Toml.maxDepth], readable_tables h table htable⟩
  · refine forall_mem_roomsSections ⟨by decide, List.forall_mem_nil _⟩ (fun room modes => ?_)
      (fun room params => ?_) c.rooms
    · exact ⟨by simp [Toml.maxDepth], List.forall_mem_singleton.2 trivial⟩
    · exact ⟨by simp [Toml.maxDepth], readable_nameEntries params⟩

/-- The document has the sections of the configuration for fields. -/
theorem fields?_document (c : Config) (implicit : Bool) :
    (c.document implicit).toToml.fields?
        ["admins", "homeserver", "bot", "actions", "welcome", "logging", "vars", "rooms"] =
      some [some (Written.texts (c.admins.toList.map MemberId.text)).toToml,
        some (Toml.ofEntries (homeserverEntries c.homeserver)),
        some (Toml.ofEntries (botEntries c.bot)), some (Toml.ofEntries (actionsEntries c.actions)),
        some (Toml.ofEntries (welcomeEntries c.welcome)),
        some (Toml.ofEntries (loggingEntries c.logging)),
        some (Toml.ofEntries (nameEntries c.vars)),
        some (Node.table implicit false (roomNodes c.rooms)).toToml] := by
  simp only [← Toml.Node.toToml_ofEntries false]
  rfl

theorem path_ne_nil_of_mem_sections (c : Config) :
    ∀ sec ∈ (c.tables.map fun table => (⟨[table.1], table.2⟩ : Section)) ++
      roomsSections c.rooms, sec.path ≠ [] := by
  refine List.forall_mem_append.2 ⟨?_, ?_⟩
  · intro sec hsec
    obtain ⟨table, -, rfl⟩ := List.mem_map.1 hsec
    exact List.cons_ne_nil _ _
  · exact forall_mem_roomsSections (List.cons_ne_nil _ _) (fun _ _ => List.cons_ne_nil _ _)
      (fun _ _ => List.cons_ne_nil _ _) c.rooms

/-- A configuration is read as it is written. -/
theorem ofText?_toText {c : Config} (h : c.Fits) : ofText? c.toText = some c := by
  obtain ⟨implicit, hfill⟩ := fillAll?_sections c
  have hdocument := Toml.ofText?_writeSections (sections_eq c ▸ readable_of_mem_sections h)
    (path_ne_nil_of_mem_sections c)
  rw [← sections_eq, hfill, Option.map_some] at hdocument
  rw [ofText?, toText, hdocument, Option.bind_eq_bind, Option.bind_some]
  refine ofToml?_eq_some_iff.2 ⟨_, _, _, _, _, _, _, _, fields?_document c implicit,
    ?_, ?_, ?_, ?_, ?_, ?_, ?_, ?_⟩
  · rw [Fields.orDefault?, readMembers?_toToml]
  · exact readHomeserver?_ofEntries c.homeserver
  · rw [Fields.orDefault?, readBot?_ofEntries h.bot]
  · rw [Fields.orDefault?, readActions?_ofEntries h.actions]
  · rw [Fields.orDefault?, readWelcome?_ofEntries h.welcome]
  · rw [Fields.orDefault?, readLogging?_ofEntries]
  · rw [Fields.orDefault?, readNameMap?_ofEntries]
  · rw [Fields.orDefault?, readRooms?_roomNodes]

end Config

end RoomModeration
