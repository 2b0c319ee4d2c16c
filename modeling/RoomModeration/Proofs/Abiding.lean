import RoomModeration.Proofs.BanList.Reconciliation
import RoomModeration.Proofs.Feed
import RoomModeration.Proofs.Room.Joining
import RoomModeration.Proofs.Run

/-!
# What abides by commands and events

Much of what is to be said of the rooms has nothing to do with bans. Such a property is preserved by
minding and by every sanction, and only three kinds of commands have to be looked at more closely:
those that set the modes of a room, those that take a room in and those that give one up. Whatever
else a message, an event or the uniting of the ban lists leads to then keeps the property as well.

## Main definitions

* `Abides` : a property is preserved by minding, by sanctions and by those commands.

## Main results

* `Abides.chat`, `Abides.event`, `Abides.reconcile` : messages, events and the uniting of the ban
  lists keep what abides.
-/

namespace RoomModeration

open BotM RoomModeration.Bot

/-- The activity of carrying out a command about rooms. -/
def CommandOrigin.aboutRooms (origin : CommandOrigin) : Activity :=
  .command "room" origin.sender origin.room

variable [Surroundings]

/-- A property of worlds abides: minding and sanctions preserve it, and so do the commands that set
the modes of a room, take a room in or give one up. -/
structure Abides (I : World → Prop) : Prop where
  minding : Minding.Preserves I
  series : ∀ {w w' : World} {l : List (Sanction × Bool)}, Series w l w' → I w → I w'
  modesSet : ∀ {w w' : World} {room : RoomId}, ModesSet room w w' → I w → I w'
  takenIn : ∀ {w w' : World} {asked : RoomId} (origin : CommandOrigin),
    origin.aboutRooms ∈ w.activities → TakenIn asked w w' → I w → I w'
  givenUp : ∀ {w w' : World} {given : RoomId} (origin : CommandOrigin),
    origin.aboutRooms ∈ w.activities → GivenUp origin given w w' → I w → I w'

namespace Abides

variable {I : World → Prop} {w w' : World} {room : RoomId}

/-- A trace of what may be done while minding preserves what abides. -/
theorem trace {K : Permission} [K.Within Minding] (h : Abides I) (htrace : Trace K w w')
    (hw : I w) : I w' :=
  h.minding.trace htrace.within hw

/-- Whatever is commanded keeps what abides. -/
theorem obey (h : Abides I) (origin : CommandOrigin) (command : Command) :
    Keeps I (obey origin command) := by
  intro w hw
  refine h.trace (obey_speaks origin command w) ?_
  have henter : I (origin.enter command w) := h.minding (Minding.aside w) (.aside rfl rfl) hw
  have hactivity : origin.activity command ∈ (origin.enter command w).activities :=
    List.mem_append_right _ List.mem_cons_self
  by_cases hban : command.handler = .ban
  · cases command with
    | ban member reason =>
      obtain ⟨l, v, -, hseries, hspeaks⟩ :=
        handleBan_series origin member reason (origin.enter (.ban member reason) w)
      exact h.trace hspeaks (h.series hseries henter)
    | _ => cases hban
  by_cases hunban : command.handler = .unban
  · cases command with
    | unban member =>
      obtain ⟨l, v, -, hseries, hspeaks⟩ :=
        handleUnban_series origin member (origin.enter (.unban member) w)
      exact h.trace hspeaks (h.series hseries henter)
    | _ => cases hunban
  cases hmoves : command.movesRooms with
  | true =>
    obtain ⟨moved, rfl | rfl⟩ := Command.movesRooms_iff.1 hmoves
    · exact h.takenIn origin hactivity (takenIn_handleRoom origin moved _) henter
    · exact h.givenUp origin hactivity (givenUp_handleRoom origin moved _) henter
  | false =>
    cases hsets : command.setsModes with
    | true =>
      cases command with
      | room action =>
        obtain ⟨set, hset⟩ := modesSet_handleRoom origin hsets (origin.enter (.room action) w)
        exact h.modesSet hset henter
      | _ => cases hsets
    | false =>
      exact (does_handle_of_minds origin hban hunban hmoves hsets).keeps h.minding _ henter

theorem received {sender : MemberId} {body : String} (h : Abides I)
    (hreceived : Received room sender body w w') (hw : I w) : I w' := by
  cases hreceived with
  | unheeded _ spoken => exact h.trace spoken hw
  | heeded command _ obeyed =>
    rw [obeyed]
    exact h.obey _ command w hw

theorem chat (h : Abides I) (room : RoomId) (sender : MemberId) (body : String) :
    Keeps I (receiveChat room sender body) :=
  fun w hw => h.received (receiveChat_cases room sender body w) hw

theorem event (h : Abides I) (room : RoomId) (e : Event) : Keeps I (applyEvent room e) := by
  intro w hw
  cases applyEvent_cases room e w with
  | passed _ alike => exact h.minding.alike alike hw
  | message sender body _ received => exact h.received received hw
  | changed t _ _ _ l series => exact h.series series (h.trace (trace_onStore t room w) hw)

theorem reconcile (h : Abides I) : Keeps I Bot.reconcile := by
  intro w hw
  obtain ⟨l, hl, -⟩ := reconcile_series w
  exact h.series hl hw

end Abides

end RoomModeration
