import RoomModeration.Proofs.Config.Rooms
import RoomModeration.Proofs.Config.RoundTrip

/-!
# The file never lags behind the configuration

A store that has been loaded from a file keeps the configuration and the file in step. A change is
made in the file first; if it cannot be made there, or is refused, neither of them changes. What is
in the file is a configuration as it is written, so loading the file gives the configuration back,
whatever names, identifiers and texts have been put into it.

Which attempts to write to the file fail is part of the file, and left open.

## Main definitions

* `Mutation` : the changes a store can be asked for, and `ConfigStore.perform` for making them.
* `ConfigStore.InStep` : the file holds the configuration.

## Main results

* `ConfigStore.InStep.perform` : a change keeps the file in step, whether it fails or is made.
* `ConfigStore.load_after_mutations` : after every change, loading the file gives the configuration.
-/

namespace RoomModeration

/-- A change that a store can be asked for. -/
inductive Mutation where
  /-- Makes a member an admin. -/
  | grantAdmin (member : MemberId)
  /-- Takes a member off the list of admins. -/
  | revokeAdmin (member : MemberId)
  /-- Starts monitoring a room. -/
  | addRoom (room : RoomId)
  /-- Stops monitoring a room. -/
  | removeRoom (room : RoomId)
  /-- Switches a mode on. -/
  | addMode (room : RoomId) (mode : RoomMode)
  /-- Switches a mode off. -/
  | removeMode (room : RoomId) (mode : RoomMode)
  /-- Gives a mode its parameter. -/
  | setParam (room : RoomId) (mode : RoomMode) (value : String)
  /-- Stores a text under a name. -/
  | setVar (name payload : String)
  /-- Forgets a name. -/
  | deleteVar (name : String)
  /-- Changes a connection setting. -/
  | setSetting (setting : Setting) (value : String)
  /-- Remembers a session. -/
  | storeSession (session : Session)
  deriving DecidableEq, Repr

namespace Config.Edit

/-- A change leaves the numbers of the configuration as they are. -/
def LeavesNumbers {α : Type} (edit : Config.Edit α) : Prop :=
  ∀ c a c', edit c = .ok (a, c') → c'.bot = c.bot ∧ c'.actions = c.actions ∧ c'.welcome = c.welcome

theorem LeavesNumbers.fits {α : Type} {edit : Config.Edit α} (hedit : edit.LeavesNumbers)
    {c c' : Config} {a : α} (h : edit c = .ok (a, c')) (hfits : c.Fits) : c'.Fits := by
  obtain ⟨hbot, hactions, hwelcome⟩ := hedit c a c' h
  exact ⟨hbot ▸ hfits.bot, hactions ▸ hfits.actions, hwelcome ▸ hfits.welcome⟩

/-- A change that is never refused and leaves the numbers as they are. -/
theorem LeavesNumbers.of_ok {α : Type} {result : Config → α} {change : Config → Config}
    (h : ∀ c, (change c).bot = c.bot ∧ (change c).actions = c.actions ∧
      (change c).welcome = c.welcome) :
    LeavesNumbers fun c => .ok (result c, change c) := by
  intro c a c' hedit
  cases hedit
  exact h c

theorem LeavesNumbers.addRoom (room : RoomId) : (Config.addRoom room).LeavesNumbers := by
  intro c a c' hedit
  unfold Config.addRoom at hedit
  split at hedit <;> cases hedit <;> exact ⟨rfl, rfl, rfl⟩

theorem LeavesNumbers.editRoom {α : Type} (room : RoomId) (f : RoomConfig → α × RoomConfig) :
    (Config.editRoom room f).LeavesNumbers := by
  intro c a c' hedit
  unfold Config.editRoom at hedit
  split at hedit <;> cases hedit
  exact ⟨rfl, rfl, rfl⟩

end Config.Edit

namespace ConfigStore

/-- What a change comes to, but for its result. -/
def outcome {α : Type} (made : Except ConfigError α × ConfigStore) :
    Except ConfigError Unit × ConfigStore :=
  (made.1.map fun _ => (), made.2)

/-- Makes a change. -/
def perform (m : Mutation) (s : ConfigStore) : Except ConfigError Unit × ConfigStore :=
  match m with
  | .grantAdmin member => outcome (s.update (Config.grantAdmin member))
  | .revokeAdmin member => outcome (s.update (Config.revokeAdmin member))
  | .addRoom room => outcome (s.update (Config.addRoom room))
  | .removeRoom room => outcome (s.update (Config.removeRoom room))
  | .addMode room mode => outcome (s.update (Config.addMode room mode))
  | .removeMode room mode => outcome (s.update (Config.removeMode room mode))
  | .setParam room mode value => outcome (s.update (Config.setParam room mode value))
  | .setVar name payload => outcome (s.update (Config.setVar name payload))
  | .deleteVar name => outcome (s.update (Config.deleteVar name))
  | .setSetting setting value => outcome (s.update (Config.setSetting setting value))
  | .storeSession session => outcome (s.update (Config.storeSession session))

/-- Makes some changes, one after the other, whether they fail or not. -/
def performAll (ms : List Mutation) (s : ConfigStore) : ConfigStore :=
  ms.foldl (fun s m => (s.perform m).2) s

/-- Whatever is asked for, it is a change that leaves the numbers of the configuration as they
are. -/
theorem perform_eq (m : Mutation) (s : ConfigStore) :
    ∃ (α : Type) (edit : Config.Edit α), edit.LeavesNumbers ∧
      s.perform m = outcome (s.update edit) := by
  cases m with
  | grantAdmin member =>
    exact ⟨_, Config.grantAdmin member, .of_ok fun _ => ⟨rfl, rfl, rfl⟩, rfl⟩
  | revokeAdmin member =>
    exact ⟨_, Config.revokeAdmin member, .of_ok fun _ => ⟨rfl, rfl, rfl⟩, rfl⟩
  | addRoom room => exact ⟨_, Config.addRoom room, .addRoom room, rfl⟩
  | removeRoom room => exact ⟨_, Config.removeRoom room, .of_ok fun _ => ⟨rfl, rfl, rfl⟩, rfl⟩
  | addMode room mode => exact ⟨_, Config.addMode room mode, .editRoom room _, rfl⟩
  | removeMode room mode => exact ⟨_, Config.removeMode room mode, .editRoom room _, rfl⟩
  | setParam room mode value => exact ⟨_, Config.setParam room mode value, .editRoom room _, rfl⟩
  | setVar name payload =>
    exact ⟨_, Config.setVar name payload, .of_ok fun _ => ⟨rfl, rfl, rfl⟩, rfl⟩
  | deleteVar name => exact ⟨_, Config.deleteVar name, .of_ok fun _ => ⟨rfl, rfl, rfl⟩, rfl⟩
  | setSetting setting value =>
    exact ⟨_, Config.setSetting setting value, .of_ok fun _ => ⟨rfl, rfl, rfl⟩, rfl⟩
  | storeSession session =>
    exact ⟨_, Config.storeSession session, .of_ok fun _ => ⟨rfl, rfl, rfl⟩, rfl⟩

/-- The file of a store holds the configuration. -/
structure InStep (path : String) (s : ConfigStore) : Prop where
  /-- The numbers are within the bounds of their fields, so that they can be read again. -/
  fits : s.config.Fits
  /-- The file is there, and its text is read as the configuration. -/
  holds : ∃ file, s.file = some file ∧ file.path = path ∧ Config.ofText? file.text = some s.config

variable {path text : String} {failure? : Nat → Option String} {s : ConfigStore}

theorem inStep_of_load (h : load path text failure? = .ok s) : s.InStep path := by
  rw [load] at h
  split at h
  · cases h
  · next config hread =>
    cases h
    exact ⟨Config.fits_of_ofText? hread, _, rfl, rfl, hread⟩

/-- A store whose file holds the configuration gives it back when the file is loaded. -/
theorem InStep.load (h : s.InStep path) :
    ∃ file again, s.file = some file ∧ file.path = path ∧
      load file.path file.text file.failure? = .ok again ∧ again.config = s.config := by
  obtain ⟨file, hfile, hpath, hread⟩ := h.holds
  refine ⟨file, ⟨s.config, some { file with attempts := 0 }⟩, hfile, hpath, ?_, rfl⟩
  rw [ConfigStore.load, hread]

/-- A change that is written to the file is what is in the file; one that is not written leaves the
file as it is. -/
theorem InStep.update {α : Type} {edit : Config.Edit α} (hedit : edit.LeavesNumbers)
    (h : s.InStep path) : (s.update edit).2.InStep path := by
  obtain ⟨file, hfile, hpath, hread⟩ := h.holds
  unfold ConfigStore.update
  cases hmade : edit s.config with
  | error e => exact h
  | ok made =>
    obtain ⟨a, c⟩ := made
    have hfits : c.Fits := hedit.fits hmade h.fits
    rw [hfile]
    dsimp only [ConfigFile.write]
    cases file.failure? file.attempts with
    | some cause => exact ⟨h.fits, _, rfl, hpath, hread⟩
    | none => exact ⟨hfits, _, rfl, hpath, Config.ofText?_toText hfits⟩

/-- A change keeps the file in step, whether it fails or is made. -/
theorem InStep.perform (h : s.InStep path) (m : Mutation) : (s.perform m).2.InStep path := by
  obtain ⟨α, edit, hedit, hperform⟩ := perform_eq m s
  rw [hperform]
  exact h.update hedit

theorem InStep.performAll (h : s.InStep path) (ms : List Mutation) :
    (s.performAll ms).InStep path := by
  induction ms generalizing s with
  | nil => exact h
  | cons m ms ih => exact ih (h.perform m)

/-- A change that fails leaves the configuration as it is. -/
theorem config_perform_of_error {m : Mutation} {e : ConfigError} (h : (s.perform m).1 = .error e) :
    (s.perform m).2.config = s.config := by
  obtain ⟨α, edit, -, hperform⟩ := perform_eq m s
  rw [hperform] at h ⊢
  obtain ⟨-, -, hconfig⟩ | ⟨a, c, -, hmade, -⟩ := s.update_cases edit
  · exact hconfig
  · rw [outcome, hmade] at h
    cases h

/-- After a store has been loaded from a file and after any changes, some of which may have failed,
the next change leaves the configuration as it is if it fails, and in any case the file can then be
loaded and holds the configuration. -/
theorem load_after_mutations (hload : load path text failure? = .ok s) (earlier : List Mutation)
    (m : Mutation) :
    (∀ e, ((s.performAll earlier).perform m).1 = .error e →
      ((s.performAll earlier).perform m).2.config = (s.performAll earlier).config) ∧
    ∃ file again, ((s.performAll earlier).perform m).2.file = some file ∧ file.path = path ∧
      load file.path file.text file.failure? = .ok again ∧
      again.config = ((s.performAll earlier).perform m).2.config :=
  ⟨fun _ => config_perform_of_error,
    (((inStep_of_load hload).performAll earlier).perform m).load⟩

end ConfigStore

/-! ### A store whose file is full for a while -/

namespace Sample

/-- The text of a file, with one room. -/
def jotted : String :=
  "[homeserver]\nurl = 'https://x'\n\n[rooms.'!den:x']\nmodes = ['TEST']\n"

/-- The second attempt to write fails. -/
def fullDisk (attempt : Nat) : Option String :=
  if attempt = 1 then some "No space left on device" else none

/-- A text of two lines under a name with quotes, and a parameter that cannot be written down. -/
def jottings : List Mutation :=
  [.setVar "the \"first\" line" "one\ntwo", .setParam ⟨"!den:x"⟩ .welcome "it's me"]

end Sample

/-- A mode for a room that is not monitored is refused, and the file is still in step. -/
theorem jottings_reload :
    ∃ s, ConfigStore.load "warden.toml" Sample.jotted Sample.fullDisk = .ok s ∧
      ((s.performAll Sample.jottings).perform (.addMode ⟨"!attic:x"⟩ .test)).1 =
        .error (.unknownRoom ⟨"!attic:x"⟩) ∧
      ((s.performAll Sample.jottings).perform (.addMode ⟨"!attic:x"⟩ .test)).2.config =
        (s.performAll Sample.jottings).config ∧
      ∃ file again,
        ((s.performAll Sample.jottings).perform (.addMode ⟨"!attic:x"⟩ .test)).2.file = some file ∧
        file.path = "warden.toml" ∧
        ConfigStore.load file.path file.text file.failure? = .ok again ∧
        again.config =
          ((s.performAll Sample.jottings).perform (.addMode ⟨"!attic:x"⟩ .test)).2.config := by
  have hrun : (ConfigStore.load "warden.toml" Sample.jotted Sample.fullDisk).map (fun s =>
      ((s.performAll Sample.jottings).perform (.addMode ⟨"!attic:x"⟩ .test)).1) =
        .ok (.error (.unknownRoom ⟨"!attic:x"⟩)) := by
    decide +kernel
  cases hload : ConfigStore.load "warden.toml" Sample.jotted Sample.fullDisk with
  | error e =>
    rw [hload] at hrun
    cases hrun
  | ok s =>
    rw [hload] at hrun
    have hrefused := Except.ok.inj hrun
    obtain ⟨hconfig, hfile⟩ :=
      ConfigStore.load_after_mutations hload Sample.jottings (.addMode ⟨"!attic:x"⟩ .test)
    exact ⟨s, rfl, hrefused, hconfig _ hrefused, hfile⟩

end RoomModeration
