import Mathlib.Data.String.Basic
import RoomModeration.Proofs.Config.Rooms
import RoomModeration.Proofs.Ordered

/-!
# Parameters of modes

The parameter of a mode stands under the name of the mode in any case of its letters. Whoever writes
the configuration by hand may give a mode several parameters in this way, and then its two readings
need not agree: `RoomConfig.param?` is the one under the first of these names and
`RoomConfig.typedParams` holds the one under the last. They agree if there is but one, and so they
do after a command has set the parameter, since it takes the place of all that the mode had.

## Main definitions

* `RoomConfig.Spelled` : a mode has a parameter under a key.
* `RoomConfig.Spread` : what stands under the first key that names a mode, and under the last.
* `RoomConfig.Assigned` : what a room is like after a parameter has been set.

## Main results

* `RoomConfig.param?_eq_some_iff`, `RoomConfig.typedParams_eq_some_iff` : what the two readings are.
* `RoomConfig.readings_of_spelled` : where they agree.
* `ConfigStore.setParam_replaces_spellings` : setting a parameter replaces all that the mode had and
  touches nothing else.
-/

namespace RoomModeration

theorem isLE_compare_iff {s t : String} : (compare s t).isLE = true ↔ s ≤ t := by
  rw [← compare_le_iff_le, Ordering.isLE_iff_ne_gt]

namespace RoomConfig

/-- A mode has a parameter under a key, which is its name in any case of its letters. -/
structure Spelled (r : RoomConfig) (mode : RoomMode) (key value : String) : Prop where
  /-- The key names the mode. -/
  named : Text.sameWord key mode.name = true
  /-- The value stands under the key. -/
  entry : r.params[key]? = some value

variable {r : RoomConfig} {mode : RoomMode} {key value value' : String}

/-! ### The entries that name a mode -/

/-- The parameters whose keys name a mode. -/
def spellings (r : RoomConfig) (mode : RoomMode) : NameMap String :=
  r.params.filter fun key _ => Text.sameWord key mode.name

theorem getElem?_spellings_eq_some_iff :
    (r.spellings mode)[key]? = some value ↔ r.Spelled mode key value := by
  rw [spellings, Std.ExtTreeMap.getElem?_filter', Option.filter_eq_some_iff]
  exact ⟨fun ⟨entry, named⟩ => ⟨named, entry⟩, fun ⟨named, entry⟩ => ⟨entry, named⟩⟩

theorem mem_spellings_iff : key ∈ r.spellings mode ↔ ∃ value, r.Spelled mode key value := by
  rw [Std.ExtTreeMap.mem_iff_isSome_getElem?, Option.isSome_iff_exists]
  exact exists_congr fun _ => getElem?_spellings_eq_some_iff

theorem param?_eq_head? :
    r.param? mode = ((r.spellings mode).toList.head?).map Prod.snd := by
  rw [param?, spellings, Std.ExtTreeMap.toList_filter, List.head?_filter]

theorem getElem?_typedParams :
    r.typedParams[mode]? = ((r.spellings mode).toList.getLast?).map Prod.snd := by
  have hentry : ∀ entry : String × String,
      ((RoomMode.ofName? entry.1).map fun m => (m, entry.2)).filter (·.1 = mode) =
        if Text.sameWord entry.1 mode.name = true then some (mode, entry.2) else none := by
    intro entry
    rw [Text.sameWord_comm]
    simp only [← RoomMode.ofName?_eq_some_iff]
    cases RoomMode.ofName? entry.1 with
    | none => rfl
    | some m => by_cases hm : m = mode <;> simp [hm]
  -- Both sides go through the entries once, so they can be compared entry by entry.
  have hkept : ((r.params.toList.filterMap fun entry =>
        (RoomMode.ofName? entry.1).map fun m => (m, entry.2)).filter (·.1 = mode)) =
      (r.spellings mode).toList.map fun entry => (mode, entry.2) := by
    rw [spellings, Std.ExtTreeMap.toList_filter, ← List.filterMap_eq_map', List.filterMap_filter,
      List.filter_filterMap]
    exact List.filterMap_congr fun entry _ => hentry entry
  rw [typedParams, getElem?_ofList, hkept, List.getLast?_map, Option.map_map]
  rfl

theorem toList_spellings_eq_nil_iff :
    (r.spellings mode).toList = [] ↔ ∀ key value, ¬ r.Spelled mode key value := by
  simp only [List.eq_nil_iff_forall_not_mem, Prod.forall,
    Std.ExtTreeMap.mem_toList_iff_getElem?_eq_some, getElem?_spellings_eq_some_iff]

/-! ### The two readings -/

/-- The one reading is the parameter under the first key that names the mode. -/
theorem param?_eq_some_iff : r.param? mode = some value ↔
    ∃ key, r.Spelled mode key value ∧ ∀ other v, r.Spelled mode other v → key ≤ other := by
  simp only [param?_eq_head?, Option.map_eq_some_iff, Prod.exists, exists_eq_right,
    head?_toList_eq_some_iff, getElem?_spellings_eq_some_iff, mem_spellings_iff,
    forall_exists_index, isLE_compare_iff]

/-- The other reading is the parameter under the last key that names the mode. -/
theorem typedParams_eq_some_iff : r.typedParams[mode]? = some value ↔
    ∃ key, r.Spelled mode key value ∧ ∀ other v, r.Spelled mode other v → other ≤ key := by
  simp only [getElem?_typedParams, Option.map_eq_some_iff, Prod.exists, exists_eq_right,
    getLast?_toList_eq_some_iff, getElem?_spellings_eq_some_iff, mem_spellings_iff,
    forall_exists_index, isLE_compare_iff]

theorem param?_eq_none_iff :
    r.param? mode = none ↔ ∀ key value, ¬ r.Spelled mode key value := by
  rw [param?_eq_head?, Option.map_eq_none_iff, List.head?_eq_none_iff,
    toList_spellings_eq_nil_iff]

theorem typedParams_eq_none_iff :
    r.typedParams[mode]? = none ↔ ∀ key value, ¬ r.Spelled mode key value := by
  rw [getElem?_typedParams, Option.map_eq_none_iff, List.getLast?_eq_none_iff,
    toList_spellings_eq_nil_iff]

/-- What stands under the first key that names a mode and what stands under the last. -/
structure Spread (r : RoomConfig) (mode : RoomMode) (value value' : String) : Prop where
  /-- A key names the mode, and no such key comes before it. -/
  first : ∃ key, r.Spelled mode key value ∧ ∀ other v, r.Spelled mode other v → key ≤ other
  /-- A key names the mode, and no such key comes after it. -/
  last : ∃ key, r.Spelled mode key value' ∧ ∀ other v, r.Spelled mode other v → other ≤ key

theorem spread_iff : r.Spread mode value value' ↔
    r.param? mode = some value ∧ r.typedParams[mode]? = some value' := by
  rw [param?_eq_some_iff, typedParams_eq_some_iff]
  exact ⟨fun h => ⟨h.first, h.last⟩, fun h => ⟨h.1, h.2⟩⟩

/-- If a key names the mode, both readings give something. -/
theorem exists_readings (h : ¬ ∀ key value, ¬ r.Spelled mode key value) :
    ∃ value value', r.param? mode = some value ∧ r.typedParams[mode]? = some value' := by
  obtain ⟨value, hvalue⟩ := Option.ne_none_iff_exists'.1 (mt param?_eq_none_iff.1 h)
  obtain ⟨value', hvalue'⟩ := Option.ne_none_iff_exists'.1 (mt typedParams_eq_none_iff.1 h)
  exact ⟨value, value', hvalue, hvalue'⟩

theorem readings_eq_iff : r.param? mode = r.typedParams[mode]? ↔
    ∀ value value', r.Spread mode value value' → value = value' := by
  by_cases h : ∀ key value, ¬ r.Spelled mode key value
  · rw [param?_eq_none_iff.2 h, typedParams_eq_none_iff.2 h]
    refine iff_of_true rfl fun value value' hspread => ?_
    obtain ⟨key, hkey, -⟩ := hspread.first
    exact absurd hkey (h key value)
  · obtain ⟨value, value', hvalue, hvalue'⟩ := exists_readings h
    rw [hvalue, hvalue', Option.some.injEq]
    constructor
    · rintro rfl v v' hspread
      obtain ⟨hv, hv'⟩ := spread_iff.1 hspread
      exact Option.some.inj ((hv.symm.trans hvalue).trans (hvalue'.symm.trans hv'))
    · exact fun hall => hall value value' (spread_iff.2 ⟨hvalue, hvalue'⟩)

/-- If no key names a mode, there is nothing to be read; otherwise the one reading is what stands
under the first such key, and the other what stands under the last. So they agree if and only if the
same stands under both, in particular if no two keys name the mode. -/
theorem readings_of_spelled (r : RoomConfig) (mode : RoomMode) :
    ((∀ key value, ¬ r.Spelled mode key value) ∧
        r.param? mode = none ∧ r.typedParams[mode]? = none ∨
      ∃ value value', r.Spread mode value value' ∧
        r.param? mode = some value ∧ r.typedParams[mode]? = some value') ∧
    (r.param? mode = r.typedParams[mode]? ↔
      ∀ value value', r.Spread mode value value' → value = value') ∧
    ((∀ key value other v, r.Spelled mode key value → r.Spelled mode other v → key = other) →
      r.param? mode = r.typedParams[mode]?) := by
  refine ⟨?_, readings_eq_iff, fun hsingle => readings_eq_iff.2 fun value value' hspread => ?_⟩
  · by_cases h : ∀ key value, ¬ r.Spelled mode key value
    · exact .inl ⟨h, param?_eq_none_iff.2 h, typedParams_eq_none_iff.2 h⟩
    · obtain ⟨value, value', hreadings⟩ := exists_readings h
      exact .inr ⟨value, value', spread_iff.2 hreadings, hreadings⟩
  · obtain ⟨key, hkey, -⟩ := hspread.first
    obtain ⟨key', hkey', -⟩ := hspread.last
    obtain rfl := hsingle _ _ _ _ hkey hkey'
    exact Option.some.inj (hkey.entry.symm.trans hkey'.entry)

end RoomConfig

namespace Sample

/-- The text of a configuration in which the greeting of a room is written twice. -/
def greetings : String :=
  "[homeserver]\nurl = 'https://x'\n\n[rooms.'!den:x']\nmodes = ['WELCOME']\n" ++
    "params = \x7b WELCOME = 'hello', welcome = 'goodbye', Test = 'quiet', colour = 'red' \x7d\n"

/-- The room with two greetings. -/
def den : RoomId := ⟨"!den:x"⟩

end Sample

/-- In a configuration that is loaded from a text the two readings may differ. -/
theorem greetings_read_apart :
    ∃ c r, Config.ofText? Sample.greetings = some c ∧ c.rooms[Sample.den]? = some r ∧
      r.param? .welcome = some "hello" ∧ r.typedParams[RoomMode.welcome]? = some "goodbye" ∧
      r.param? .welcome ≠ r.typedParams[RoomMode.welcome]? := by
  have hread : (Config.ofText? Sample.greetings >>= fun c => c.rooms[Sample.den]?).map (fun r =>
      (r.param? .welcome, r.typedParams[RoomMode.welcome]?)) =
        some (some "hello", some "goodbye") := by
    decide +kernel
  obtain ⟨r, hroom, hreadings⟩ := Option.map_eq_some_iff.1 hread
  obtain ⟨c, hconfig, hroom⟩ := Option.bind_eq_some_iff.1 hroom
  obtain ⟨hparam, htyped⟩ := Prod.mk.inj hreadings
  refine ⟨c, r, hconfig, hroom, hparam, htyped, ?_⟩
  rw [hparam, htyped]
  decide

namespace RoomConfig

variable {r r' r'' : RoomConfig} {mode other : RoomMode} {key value last : String}

/-! ### Setting a parameter -/

/-- In the second configuration of a room a mode has this parameter under its canonical name and
under no other; all else is as in the first. -/
structure Assigned (r r' : RoomConfig) (mode : RoomMode) (value : String) : Prop where
  /-- The modes stay. -/
  modes : r'.modes = r.modes
  /-- Of the keys that name the mode only its canonical name is there, with the value. -/
  named : ∀ key v, r'.Spelled mode key v ↔ key = mode.name ∧ v = value
  /-- Keys that do not name the mode keep what stands under them. -/
  unnamed : ∀ key, Text.sameWord key mode.name = false → r'.params[key]? = r.params[key]?

theorem assigned_withParam (r : RoomConfig) (mode : RoomMode) (value : String) :
    r.Assigned { r with params := Config.withParam r.params mode value } mode value where
  modes := rfl
  named key v := by
    constructor
    · rintro ⟨hnamed, hentry⟩
      dsimp only [Config.withParam] at hentry
      by_cases hkey : key = mode.name
      · rw [hkey, Std.ExtTreeMap.getElem?_insert_self] at hentry
        exact ⟨hkey, (Option.some.inj hentry).symm⟩
      · rw [getElem?_insert_of_ne hkey, Std.ExtTreeMap.getElem?_filter',
          Option.filter_eq_some_iff, hnamed] at hentry
        cases hentry.2
    · rintro ⟨rfl, rfl⟩
      exact ⟨Text.sameWord_self _, Std.ExtTreeMap.getElem?_insert_self⟩
  unnamed key hkey := by
    have hother : key ≠ mode.name := by
      rintro rfl
      rw [Text.sameWord_self] at hkey
      cases hkey
    rw [Config.withParam, getElem?_insert_of_ne hother, Std.ExtTreeMap.getElem?_filter', hkey]
    cases r.params[key]? <;> rfl

namespace Assigned

/-- What is set later takes the place of what was set before. -/
theorem trans (h : r.Assigned r' mode value) (h' : r'.Assigned r'' mode last) :
    r.Assigned r'' mode last where
  modes := h'.modes.trans h.modes
  named := h'.named
  unnamed key hkey := (h'.unnamed key hkey).trans (h.unnamed key hkey)

theorem param?_eq (h : r.Assigned r' mode value) : r'.param? mode = some value := by
  refine param?_eq_some_iff.2 ⟨mode.name, (h.named _ _).2 ⟨rfl, rfl⟩, fun other v hother => ?_⟩
  rw [((h.named _ _).1 hother).1]

theorem typedParams_eq (h : r.Assigned r' mode value) :
    r'.typedParams[mode]? = some value := by
  refine typedParams_eq_some_iff.2
    ⟨mode.name, (h.named _ _).2 ⟨rfl, rfl⟩, fun other v hother => ?_⟩
  rw [((h.named _ _).1 hother).1]

/-- Whatever names another mode keeps what it has. -/
theorem spelled_iff (h : r.Assigned r' mode value) (hother : other ≠ mode) {v : String} :
    r'.Spelled other key v ↔ r.Spelled other key v := by
  have hunnamed : Text.sameWord key other.name = true → r'.params[key]? = r.params[key]? := by
    intro hkey
    refine h.unnamed key (Bool.eq_false_iff.2 fun hsame => hother ?_)
    rw [Text.sameWord_eq_true_iff] at hkey hsame
    exact RoomMode.eq_of_sameWord_name (Text.sameWord_eq_true_iff.2 (hkey.symm.trans hsame))
  constructor
  · rintro ⟨hnamed, hentry⟩
    exact ⟨hnamed, hunnamed hnamed ▸ hentry⟩
  · rintro ⟨hnamed, hentry⟩
    exact ⟨hnamed, (hunnamed hnamed).trans hentry⟩

/-- The parameters of other modes are read as before. -/
theorem readings_eq (h : r.Assigned r' mode value) (hother : other ≠ mode) :
    r'.param? other = r.param? other ∧ r'.typedParams[other]? = r.typedParams[other]? := by
  constructor
  · refine Option.ext fun v => ?_
    simp only [param?_eq_some_iff, h.spelled_iff hother]
  · refine Option.ext fun v => ?_
    simp only [typedParams_eq_some_iff, h.spelled_iff hother]

end Assigned

end RoomConfig

/-! ### Setting a parameter in the configuration -/

/-- A parameter can be set for monitored rooms, and only the configuration of this room changes. -/
theorem Config.eq_of_setParam {c c' : Config} {room : RoomId} {mode : RoomMode} {value : String}
    {u : Unit} (h : Config.setParam room mode value c = .ok (u, c')) :
    ∃ r r', c.rooms[room]? = some r ∧ r.Assigned r' mode value ∧
      c' = { c with rooms := c.rooms.insert room r' } := by
  rw [setParam, editRoom] at h
  split at h
  · cases h
  · next r hroom =>
    cases h
    exact ⟨r, _, hroom, r.assigned_withParam mode value, rfl⟩

namespace ConfigStore

variable {s : ConfigStore} {room : RoomId} {mode : RoomMode} {value : String}

theorem config_update_of_setParam
    (h : (s.update (Config.setParam room mode value)).1 = .ok ()) :
    ∃ r r', s.config.rooms[room]? = some r ∧ r.Assigned r' mode value ∧
      (s.update (Config.setParam room mode value)).2.config =
        { s.config with rooms := s.config.rooms.insert room r' } := by
  obtain ⟨e, herror, -⟩ | ⟨u, c, hedit, -, hconfig⟩ :=
    s.update_cases (Config.setParam room mode value)
  · rw [herror] at h
    cases h
  · rw [hconfig]
    exact Config.eq_of_setParam hedit

/-- After a parameter has been set for a room, the mode has it under its canonical name and has no
other, and so both readings give it. All other keys of the room, the readings of all other modes,
all other rooms and the rest of the configuration are as before. To set it twice is to set it to the
later value only. -/
theorem setParam_replaces_spellings
    (h : (s.update (Config.setParam room mode value)).1 = .ok ()) :
    ∃ r r', s.config.rooms[room]? = some r ∧ r.Assigned r' mode value ∧
      (s.update (Config.setParam room mode value)).2.config =
        { s.config with rooms := s.config.rooms.insert room r' } ∧
      r'.param? mode = some value ∧ r'.typedParams[mode]? = some value ∧
      (∀ other, other ≠ mode → r'.param? other = r.param? other ∧
        r'.typedParams[other]? = r.typedParams[other]?) ∧
      ∀ last, ((s.update (Config.setParam room mode value)).2.update
          (Config.setParam room mode last)).1 = .ok () →
        ∃ r'', r.Assigned r'' mode last ∧
          ((s.update (Config.setParam room mode value)).2.update
            (Config.setParam room mode last)).2.config =
              { s.config with rooms := s.config.rooms.insert room r'' } := by
  obtain ⟨r, r', hroom, hassigned, hconfig⟩ := config_update_of_setParam h
  refine ⟨r, r', hroom, hassigned, hconfig, hassigned.param?_eq, hassigned.typedParams_eq,
    fun _ => hassigned.readings_eq, fun last hlast => ?_⟩
  obtain ⟨_, r'', hroom', hassigned', hconfig'⟩ := config_update_of_setParam hlast
  rw [hconfig, Std.ExtTreeMap.getElem?_insert_self] at hroom'
  cases hroom'
  refine ⟨r'', hassigned.trans hassigned', ?_⟩
  rw [hconfig', hconfig, insert_insert]

end ConfigStore

namespace Sample

/-- What comes of another greeting. -/
def regreeted (c : Config) : Except ConfigError Unit × ConfigStore :=
  (ConfigStore.inMemory c).update (Config.setParam den .welcome "hi")

/-- What comes of yet another one. -/
def dismissed (c : Config) : Except ConfigError Unit × ConfigStore :=
  (regreeted c).2.update (Config.setParam den .welcome "bye")

end Sample

/-- Another greeting takes the place of both that the room had, and a later one the place of it. -/
theorem greetings_replaced :
    ∃ c r r' r'', Config.ofText? Sample.greetings = some c ∧
      (Sample.regreeted c).1 = .ok () ∧ (Sample.dismissed c).1 = .ok () ∧
      c.rooms[Sample.den]? = some r ∧ r.param? .test = some "quiet" ∧
      r.Assigned r' .welcome "hi" ∧ r.Assigned r'' .welcome "bye" ∧
      (Sample.regreeted c).2.config = { c with rooms := c.rooms.insert Sample.den r' } ∧
      (Sample.dismissed c).2.config = { c with rooms := c.rooms.insert Sample.den r'' } ∧
      r'.param? .welcome = some "hi" ∧ r'.typedParams[RoomMode.welcome]? = some "hi" ∧
      r'.param? .test = some "quiet" := by
  have hread : (Config.ofText? Sample.greetings).map (fun c => ((Sample.regreeted c).1,
      (Sample.dismissed c).1, c.rooms[Sample.den]?.map (·.param? .test))) =
        some (.ok (), .ok (), some (some "quiet")) := by
    decide +kernel
  obtain ⟨c, hconfig, houtcome⟩ := Option.map_eq_some_iff.1 hread
  obtain ⟨hregreeted, houtcome⟩ := Prod.mk.inj houtcome
  obtain ⟨hdismissed, htest⟩ := Prod.mk.inj houtcome
  obtain ⟨r, r', hroom, hassigned, hregreeting, hparam, htyped, hothers, hagain⟩ :=
    ConfigStore.setParam_replaces_spellings hregreeted
  obtain ⟨r'', hassigned', hdismissal⟩ := hagain "bye" hdismissed
  have hquiet : r.param? .test = some "quiet" := by
    have hroom' : c.rooms[Sample.den]? = some r := hroom
    rw [hroom'] at htest
    exact Option.some.inj htest
  exact ⟨c, r, r', r'', hconfig, hregreeted, hdismissed, hroom, hquiet, hassigned, hassigned',
    hregreeting, hdismissal, hparam, htyped, (hothers .test (by decide)).1.trans hquiet⟩

end RoomModeration
