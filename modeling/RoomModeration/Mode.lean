import RoomModeration.Text.AsciiCase
import Std.Data.ExtTreeMap
import Std.Data.ExtTreeSet

/-!
# Room modes

A monitored room carries a set of behaviour flags. Two of them say that the bot holds the power to
ban in the room. Modes are ordered as they are declared.

## Main definitions

* `RoomMode` : the flags, with their canonical names.
* `RoomMode.parse` : the mode named by a word, in any case of its letters.
-/

namespace RoomModeration

/-- A behaviour flag of a monitored room. -/
inductive RoomMode where
  /-- A room for testing, without any behaviour of its own. -/
  | test
  /-- The bot is an administrator of the room. -/
  | selfAdministrator
  /-- The bot is a moderator of the room. -/
  | selfModerator
  /-- Admins may give commands in the room. -/
  | administration
  /-- Newcomers are greeted in a private room. -/
  | welcome
  /-- Bans are shared with the other rooms that have this flag. -/
  | banlistSync
  deriving DecidableEq, Repr

namespace RoomMode

/-- Every mode, in declaration order. -/
def all : List RoomMode :=
  [test, selfAdministrator, selfModerator, administration, welcome, banlistSync]

/-- The canonical name of a mode. -/
def name : RoomMode → String
  | test => "TEST"
  | selfAdministrator => "SELF_ADMINISTRATOR"
  | selfModerator => "SELF_MODERATOR"
  | administration => "ADMINISTRATION"
  | welcome => "WELCOME"
  | banlistSync => "BANLIST_SYNC"

/-- The place of a mode in the declaration order. -/
def rank : RoomMode → Nat
  | test => 0
  | selfAdministrator => 1
  | selfModerator => 2
  | administration => 3
  | welcome => 4
  | banlistSync => 5

theorem mem_all (mode : RoomMode) : mode ∈ all := by
  cases mode <;> decide

theorem rank_injective {a b : RoomMode} (h : a.rank = b.rank) : a = b := by
  cases a <;> cases b <;> simp_all [rank]

instance : Ord RoomMode := ⟨compareOn rank⟩

instance : Std.TransOrd RoomMode := inferInstanceAs (Std.TransCmp (compareOn rank))

instance : Std.LawfulEqOrd RoomMode where
  compare_self {a} := Std.ReflOrd.compare_self (a := rank a)
  eq_of_compare {_ _} h := rank_injective (Std.LawfulEqOrd.eq_of_compare h)

/-- The modes that give the bot the power to ban. -/
def grantsBanPower : RoomMode → Bool
  | selfAdministrator | selfModerator => true
  | _ => false

end RoomMode

/-- A word that names no room mode. -/
structure ModeError where
  /-- The rejected word. -/
  value : String
  deriving DecidableEq, Repr

/-- The wording of a mode error. -/
def ModeError.message (e : ModeError) : String :=
  s!"invalid room mode '{e.value}'"

/-- The mode with this name, in any case of its letters. -/
def RoomMode.ofName? (word : String) : Option RoomMode :=
  all.find? (Text.sameWord ·.name word)

/-- No two modes have names that differ only in the case of their letters. -/
theorem RoomMode.eq_of_sameWord_name {a b : RoomMode} (h : Text.sameWord a.name b.name = true) :
    a = b := by
  cases a <;> cases b <;> first | rfl | exact absurd h (by decide)

theorem RoomMode.ofName?_eq_some_iff {word : String} {mode : RoomMode} :
    ofName? word = some mode ↔ Text.sameWord mode.name word = true := by
  have hfound : ∀ {m : RoomMode}, ofName? word = some m → Text.sameWord m.name word = true := by
    intro m h
    rw [ofName?] at h
    simpa using List.find?_some h
  constructor
  · exact hfound
  · intro h
    have hsome : (ofName? word).isSome = true := List.find?_isSome.2 ⟨mode, mode.mem_all, h⟩
    obtain ⟨other, hother⟩ := Option.isSome_iff_exists.1 hsome
    have hsame := hfound hother
    rw [Text.sameWord_eq_true_iff] at h hsame
    rw [eq_of_sameWord_name (Text.sameWord_eq_true_iff.2 (h.trans hsame.symm))]
    exact hother

/-- Reads a mode name that a person typed. -/
def RoomMode.parse (word : String) : Except ModeError RoomMode :=
  match ofName? word with
  | some mode => .ok mode
  | none => .error ⟨word⟩

theorem RoomMode.parse_eq_ok_iff {word : String} {mode : RoomMode} :
    parse word = .ok mode ↔ Text.sameWord mode.name word = true := by
  rw [← ofName?_eq_some_iff, parse]
  split <;> simp_all

/-- A set of modes. -/
abbrev ModeSet := Std.ExtTreeSet RoomMode

/-- A map from modes. -/
abbrev ModeMap (α : Type) := Std.ExtTreeMap RoomMode α

end RoomModeration
