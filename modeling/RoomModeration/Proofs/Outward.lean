import RoomModeration.Bot.Answering
import RoomModeration.Proofs.Config.Rooms

/-!
# What can be seen of the bot

Of the password of the account nothing can be seen but whether there is one, and of the session
nothing at all; and what the bot says and records does not depend on whether it runs dry. The
outward side of a bot has all of this taken away. A change of the configuration is discreet if it
comes to the same on the outward side, whatever has been taken away; all changes that a command can
make are.

What the bot has written into its file is out of sight as well, as it reads the file only once.

## Main definitions

* `Config.outward`, `ConfigStore.outward`, `Bot.outward` : the outward side.
* `Config.Edit.Discreet` : a change that depends on the outward side only.

## Main results

* `Setting.shown_outward` : what an admin is shown of a setting.
* `ConfigStore.update_outward` : a discreet change comes to the same on the outward side.
-/

namespace RoomModeration

/-! ### The outward side -/

/-- A password as far as it can be seen: whether there is one. -/
def maskedPassword (password : String) : String :=
  if password = "" then "" else "********"

theorem maskedPassword_of_ne {password : String} (h : password ≠ "") :
    maskedPassword password = "********" :=
  if_neg h

theorem maskedPassword_masked (password : String) :
    maskedPassword (maskedPassword password) = maskedPassword password := by
  by_cases h : password = ""
  · rw [h]
    rfl
  · rw [maskedPassword_of_ne h]
    rfl

/-- The connection without its session and with its password masked. -/
def HomeserverConfig.outward (h : HomeserverConfig) : HomeserverConfig :=
  { h.clearSession with password := maskedPassword h.password }

/-- The configuration as far as it can be seen. -/
def Config.outward (c : Config) : Config :=
  { c with
    homeserver := c.homeserver.outward
    actions := { c.actions with dryRun := false } }

/-- A file without what is in it. -/
def ConfigFile.outward (f : ConfigFile) : ConfigFile :=
  { f with text := "" }

/-- The configuration as far as it can be seen, and where it is kept. -/
def ConfigStore.outward (s : ConfigStore) : ConfigStore :=
  ⟨s.config.outward, s.file.map ConfigFile.outward⟩

/-- The bot as far as it can be seen. -/
def Bot.outward (b : Bot) : Bot :=
  { b with store := b.store.outward }

/-- What an admin is shown of a setting can be seen. -/
theorem Setting.shown_outward (setting : Setting) (c : Config) :
    setting.shown (c.outward.setting setting) = setting.shown (c.setting setting) := by
  cases setting with
  | login | host => rfl
  | password =>
    change Setting.password.shown (maskedPassword c.homeserver.password) =
      Setting.password.shown c.homeserver.password
    by_cases h : c.homeserver.password = ""
    · rw [h]
      rfl
    · rw [maskedPassword_of_ne h, Setting.shown, if_neg (by decide), Setting.shown, if_neg h]

theorem HomeserverConfig.outward_outward (h : HomeserverConfig) :
    h.outward.outward = h.outward := by
  rw [outward, outward, maskedPassword_masked]
  rfl

theorem Config.outward_outward (c : Config) : c.outward.outward = c.outward := by
  rw [outward, outward, HomeserverConfig.outward_outward]

/-! ### Discreet changes -/

namespace Config

/-- A change of the configuration does not depend on what cannot be seen, does not switch dry runs
on or off and does not touch what is decided about welcome rooms. -/
structure Edit.Discreet {α : Type} (edit : Edit α) : Prop where
  sees : ∀ c, (edit c.outward).map (Prod.map id outward) = (edit c).map (Prod.map id outward)
  actions : ∀ {c a c'}, edit c = .ok (a, c') → c'.actions = c.actions
  welcome : ∀ {c a c'}, edit c = .ok (a, c') → c'.welcome = c.welcome

/-- A change that succeeds always and leaves the connection alone is discreet. -/
theorem Edit.Discreet.of_ok {α : Type} {edit : Edit α} {g : Config → α} {f : Config → Config}
    (hedit : ∀ c, edit c = .ok (g c, f c)) (hg : ∀ c, g c.outward = g c)
    (hf : ∀ c, f c.outward = (f c).outward) (hactions : ∀ c, (f c).actions = c.actions)
    (hwelcome : ∀ c, (f c).welcome = c.welcome) : edit.Discreet where
  sees c := by
    rw [hedit, hedit, hg, hf]
    exact congrArg (fun c' => Except.ok (g c, c')) (f c).outward_outward
  actions {c a c'} h := by
    rw [hedit] at h
    cases h
    exact hactions c
  welcome {c a c'} h := by
    rw [hedit] at h
    cases h
    exact hwelcome c

theorem discreet_grantAdmin (member : MemberId) : (grantAdmin member).Discreet :=
  .of_ok (fun _ => rfl) (fun _ => rfl) (fun _ => rfl) (fun _ => rfl) fun _ => rfl

theorem discreet_revokeAdmin (member : MemberId) : (revokeAdmin member).Discreet :=
  .of_ok (fun _ => rfl) (fun _ => rfl) (fun _ => rfl) (fun _ => rfl) fun _ => rfl

theorem discreet_removeRoom (room : RoomId) : (removeRoom room).Discreet :=
  .of_ok (fun _ => rfl) (fun _ => rfl) (fun _ => rfl) (fun _ => rfl) fun _ => rfl

theorem discreet_setVar (name payload : String) : (setVar name payload).Discreet :=
  .of_ok (fun _ => rfl) (fun _ => rfl) (fun _ => rfl) (fun _ => rfl) fun _ => rfl

theorem discreet_deleteVar (name : String) : (deleteVar name).Discreet :=
  .of_ok (fun _ => rfl) (fun _ => rfl) (fun _ => rfl) (fun _ => rfl) fun _ => rfl

theorem discreet_addRoom (room : RoomId) : (addRoom room).Discreet := by
  refine .of_ok (g := fun c => !c.rooms.contains room)
    (f := fun c => if c.rooms.contains room then c
      else { c with rooms := c.rooms.insert room .default })
    (fun c => ?_) (fun _ => rfl) (fun c => ?_) (fun c => ?_) fun c => ?_
  · unfold addRoom
    cases c.rooms.contains room <;> rfl
  · change (if c.rooms.contains room then _ else _) = Config.outward (if _ then _ else _)
    cases c.rooms.contains room <;> rfl
  · cases c.rooms.contains room <;> rfl
  · cases c.rooms.contains room <;> rfl

theorem discreet_editRoom {α : Type} (room : RoomId) (f : RoomConfig → α × RoomConfig) :
    (editRoom room f).Discreet where
  sees c := by
    have hrooms : c.outward.rooms = c.rooms := rfl
    unfold editRoom
    rw [hrooms]
    cases c.rooms[room]? with
    | none => rfl
    | some r =>
      exact congrArg (fun c' => Except.ok ((f r).1, c'))
        (Config.outward_outward { c with rooms := c.rooms.insert room (f r).2 })
  actions {c a c'} h := by
    unfold editRoom at h
    cases hroom : c.rooms[room]? with
    | none => simp [hroom] at h
    | some r =>
      simp only [hroom] at h
      cases h
      rfl
  welcome {c a c'} h := by
    unfold editRoom at h
    cases hroom : c.rooms[room]? with
    | none => simp [hroom] at h
    | some r =>
      simp only [hroom] at h
      cases h
      rfl

theorem discreet_setSetting (setting : Setting) (value : String) :
    (setSetting setting value).Discreet where
  sees c := by
    refine congrArg (fun h => Except.ok ((), { c.outward with homeserver := h })) ?_
    -- A setting other than the password leaves the password masked as it was.
    cases setting with
    | login =>
      exact congrArg (fun p => { c.homeserver.clearSession with login := value, password := p })
        (maskedPassword_masked c.homeserver.password)
    | host =>
      exact congrArg (fun p => { c.homeserver.clearSession with url := value, password := p })
        (maskedPassword_masked c.homeserver.password)
    | password => rfl
  actions {c a c'} h := by
    cases h
    rfl
  welcome {c a c'} h := by
    cases h
    rfl

end Config

/-! ### Making a change -/

/-- Whether a text can be written does not depend on the text or on what was written before. -/
theorem ConfigFile.write_outward (f : ConfigFile) (text text' : String) :
    (f.outward.write text).1 = (f.write text').1 ∧
      (f.outward.write text).2.outward = (f.write text').2.outward := by
  obtain ⟨path, old, attempts, failure?⟩ := f
  unfold write outward
  dsimp only
  cases failure? attempts with
  | some cause => exact ⟨rfl, rfl⟩
  | none => exact ⟨rfl, rfl⟩

namespace ConfigStore

theorem outward_outward (s : ConfigStore) : s.outward.outward = s.outward := by
  obtain ⟨config, file⟩ := s
  cases file with
  | none => exact congrArg (ConfigStore.mk · none) config.outward_outward
  | some file => exact congrArg (ConfigStore.mk · (some file.outward)) config.outward_outward

/-- Takes a changed configuration over, if it can be written where it is kept. -/
def adopt {α : Type} (s : ConfigStore) (a : α) (config : Config) :
    Except ConfigError α × ConfigStore :=
  match s.file with
  | none => (.ok a, { s with config := config })
  | some file =>
    match file.write config.toText with
    | (.error e, file) => (.error e, { s with file := some file })
    | (.ok (), file) => (.ok a, ⟨config, some file⟩)

theorem update_eq {α : Type} (edit : Config.Edit α) (s : ConfigStore) :
    s.update edit =
      match edit s.config with
      | .error e => (.error e, s)
      | .ok (a, config) => s.adopt a config := rfl

/-- Whether a configuration is taken over cannot be told from what is out of sight. -/
theorem adopt_outward {α : Type} (s : ConfigStore) (a : α) {c c' : Config}
    (h : c.outward = c'.outward) :
    (s.outward.adopt a c).1 = (s.adopt a c').1 ∧
      (s.outward.adopt a c).2.outward = (s.adopt a c').2.outward := by
  obtain ⟨config, file⟩ := s
  cases file with
  | none => exact ⟨rfl, congrArg (ConfigStore.mk · none) h⟩
  | some file =>
    obtain ⟨hresult, hfile⟩ := file.write_outward c.toText c'.toText
    unfold adopt outward
    dsimp only [Option.map]
    rcases hv : file.outward.write c.toText with ⟨v, f⟩
    rcases hw : file.write c'.toText with ⟨w, f'⟩
    rw [hv, hw] at hresult hfile
    obtain rfl : v = w := hresult
    have hfiles : some f.outward = some f'.outward := congrArg some hfile
    cases v with
    | error e => exact ⟨rfl, congr (congrArg ConfigStore.mk config.outward_outward) hfiles⟩
    | ok _ => exact ⟨rfl, congr (congrArg ConfigStore.mk h) hfiles⟩

/-- A discreet change comes to the same on the outward side. -/
theorem update_outward {α : Type} {edit : Config.Edit α} (hedit : edit.Discreet)
    (s : ConfigStore) :
    (s.outward.update edit).1 = (s.update edit).1 ∧
      (s.outward.update edit).2.outward = (s.update edit).2.outward := by
  have hsees := hedit.sees s.config
  have hconfig : s.outward.config = s.config.outward := rfl
  rw [update_eq, update_eq, hconfig]
  cases hseen : edit s.config.outward with
  | error e =>
    cases hfull : edit s.config with
    | error e' =>
      rw [hseen, hfull] at hsees
      cases hsees
      exact ⟨rfl, s.outward_outward⟩
    | ok changed =>
      rw [hseen, hfull] at hsees
      cases hsees
  | ok seen =>
    cases hfull : edit s.config with
    | error e' =>
      rw [hseen, hfull] at hsees
      cases hsees
    | ok changed =>
      obtain ⟨a, c⟩ := seen
      obtain ⟨a', c'⟩ := changed
      rw [hseen, hfull] at hsees
      obtain ⟨rfl, hsame⟩ : a = a' ∧ c.outward = c'.outward := by
        simpa [Except.map] using hsees
      exact s.adopt_outward a hsame

/-- Where a configuration is kept can be seen. -/
theorem ofUpdate_outward {α : Type} {s t : ConfigStore} (h : s.outward = t.outward)
    (result : Except ConfigError α) :
    Notice.ofUpdate (result, s) = Notice.ofUpdate (result, t) := by
  obtain ⟨c, file⟩ := s
  obtain ⟨c', file'⟩ := t
  have hfile : file.map ConfigFile.outward = file'.map ConfigFile.outward :=
    congrArg ConfigStore.file h
  cases result with
  | error e => rfl
  | ok a =>
    cases file with
    | none =>
      cases file' with
      | none => rfl
      | some f' => cases hfile
    | some f =>
      cases file' with
      | none => cases hfile
      | some f' =>
        have hfiles : f.outward = f'.outward := Option.some.inj hfile
        have hpath : f.outward.path = f'.outward.path := congrArg ConfigFile.path hfiles
        exact congrArg (fun path => [Notice.configPersisted path]) hpath

/-- A discreet change comes to the same wherever the same can be seen. -/
theorem update_congr {α : Type} {edit : Config.Edit α} (hedit : edit.Discreet) {s t : ConfigStore}
    (h : s.outward = t.outward) :
    (s.update edit).1 = (t.update edit).1 ∧
      (s.update edit).2.outward = (t.update edit).2.outward := by
  obtain ⟨hs, hs'⟩ := update_outward hedit s
  obtain ⟨ht, ht'⟩ := update_outward hedit t
  rw [h] at hs hs'
  exact ⟨hs.symm.trans ht, hs'.symm.trans ht'⟩

/-- A discreet change leaves the way in which calls are made as it is. -/
theorem actions_update {α : Type} {edit : Config.Edit α} (hedit : edit.Discreet)
    (s : ConfigStore) : (s.update edit).2.config.actions = s.config.actions := by
  obtain ⟨e, -, hconfig⟩ | ⟨a, c, hmade, -, hconfig⟩ := s.update_cases edit
  · rw [hconfig]
  · rw [hconfig]
    exact hedit.actions hmade

/-- A discreet change leaves what is decided about welcome rooms as it is. -/
theorem welcome_update {α : Type} {edit : Config.Edit α} (hedit : edit.Discreet)
    (s : ConfigStore) : (s.update edit).2.config.welcome = s.config.welcome := by
  obtain ⟨e, -, hconfig⟩ | ⟨a, c, hmade, -, hconfig⟩ := s.update_cases edit
  · rw [hconfig]
  · rw [hconfig]
    exact hedit.welcome hmade

end ConfigStore

/-- The bot with dry runs switched on or off. -/
def Bot.withDryRun (b : Bot) (dryRun : Bool) : Bot :=
  { b with store := { b.store with
      config := { b.config with actions := { b.config.actions with dryRun := dryRun } } } }

/-- Bots that look the same look the same with configurations that do. -/
theorem Bot.outward_withStore {b b' : Bot} {s s' : ConfigStore} (hb : b.outward = b'.outward)
    (hs : s.outward = s'.outward) :
    ({ b with store := s } : Bot).outward = ({ b' with store := s' } : Bot).outward := by
  change ({ b.outward with store := s.outward } : Bot) = { b'.outward with store := s'.outward }
  rw [hb, hs]

end RoomModeration
