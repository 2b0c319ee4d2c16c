import RoomModeration.Proofs.BanList.Series
import RoomModeration.Proofs.Speaking

/-!
# Carrying sanctions over

A sanction in one room is repeated in every other target that does not agree with it yet. A command
gives it in its own room first, where that is possible and new, and what it has to say comes last;
if the homeserver refuses it there it is not carried over.

## Main definitions

* `Sanction.Due` : the bot can give a sanction, and it would change something.
* `Sanction.carried` : the sanctions by which a sanction is carried over.
* `Commanded` : the sanctions by which a command is carried out.
* `Ordered` : what a command comes to before it is told about.

## Main results

* `carry_series` : carrying over is a series of those sanctions.
* `ordered_handle` : a command is that, and then the telling.
* `handleBan_series`, `handleUnban_series` : a command is a series, and then speaking.
-/

namespace RoomModeration

open BotM RoomModeration.Bot

namespace Sanction

variable {s : RoomStore} {a b : Sanction}

/-- A sanction is due: the bot can ban in its room, and the record does not agree with it yet. -/
def Due (s : RoomStore) (a : Sanction) : Prop :=
  ∃ r, s.find? a.room = some r ∧ r.canBan = true ∧ r.lists a.member = !a.reason?.isSome

/-- The same sanction in another room. -/
def moveTo (a : Sanction) (room : RoomId) : Sanction :=
  { a with room := room }

/-- The sanctions by which a sanction is carried over: one in each other target that does not agree
with it yet. -/
def carried (s : RoomStore) (a : Sanction) : List Sanction :=
  (s.recordsWhere fun r => r.id != a.room && r.isBanTarget && r.lists a.member != a.reason?.isSome)
    |>.map fun r => a.moveTo r.id

theorem mem_carried_iff : b ∈ a.carried s ↔ ∃ r ∈ s.records, r.id ≠ a.room ∧
    r.isBanTarget = true ∧ r.lists a.member = (!a.reason?.isSome) ∧ a.moveTo r.id = b := by
  simp only [carried, RoomStore.recordsWhere, List.mem_map, List.mem_filter, Bool.and_eq_true,
    bne_iff_ne, Bool.eq_not]
  constructor
  · rintro ⟨r, ⟨hmem, ⟨hroom, htarget⟩, hlists⟩, hb⟩
    exact ⟨r, hmem, hroom, htarget, hlists, hb⟩
  · rintro ⟨r, hmem, hroom, htarget, hlists, hb⟩
    exact ⟨r, ⟨hmem, ⟨hroom, htarget⟩, hlists⟩, hb⟩

theorem member_of_mem_carried (h : b ∈ a.carried s) : b.member = a.member := by
  obtain ⟨r, -, -, -, -, rfl⟩ := mem_carried_iff.1 h
  rfl

theorem reason?_of_mem_carried (h : b ∈ a.carried s) : b.reason? = a.reason? := by
  obtain ⟨r, -, -, -, -, rfl⟩ := mem_carried_iff.1 h
  rfl

/-- The rooms that a sanction is carried to are different from its own and from each other. -/
theorem nodup_rooms_carried (s : RoomStore) (a : Sanction) :
    ((a :: a.carried s).map (·.room)).Nodup := by
  rw [List.map_cons, List.nodup_cons]
  constructor
  · rw [List.mem_map]
    rintro ⟨b, hb, heq⟩
    obtain ⟨r, -, hroom, -, -, rfl⟩ := mem_carried_iff.1 hb
    exact hroom heq
  · rw [carried, List.map_map]
    exact s.distinct.sublist (List.filter_sublist.map _)

/-- To where a sanction is carried does not depend on its being given in its own room. -/
theorem carried_onStore (s : RoomStore) (a : Sanction) : a.carried (a.onStore s) = a.carried s := by
  simp only [carried, onStore, RoomStore.recordsWhere, RoomStore.modify]
  induction s.records with
  | nil => rfl
  | cons r records ih =>
    rw [List.map_cons, List.filter_cons, List.filter_cons]
    by_cases h : r.id = a.room
    · simp only [h, onRecord_id, if_true, bne_self_eq_false, Bool.false_and, Bool.false_eq_true,
        if_false, ih]
    · rw [if_neg h]
      split
      · rw [List.map_cons, List.map_cons, ih]
      · exact ih

theorem due_iff_ban {room : RoomId} {member : MemberId} {reason : String} :
    (s.canBan room && !s.isBanned room member) = true ↔ Due s ⟨room, member, some reason⟩ := by
  rw [RoomStore.canBan, RoomStore.isBanned, Due]
  cases s.find? room <;> simp

theorem due_iff_unban {room : RoomId} {member : MemberId} :
    (s.canBan room && s.isBanned room member) = true ↔ Due s ⟨room, member, none⟩ := by
  rw [RoomStore.canBan, RoomStore.isBanned, Due]
  cases s.find? room <;> simp

end Sanction

variable [Surroundings] {w w' : World} {a : Sanction}

/-! ### Carrying over -/

/-- Carries a sanction over. -/
def Sanction.carry (a : Sanction) : BotM (List RoomId) :=
  match a.reason? with
  | some reason => propagateBan a.room a.member reason
  | none => propagateUnban a.room a.member

/-- Carrying a sanction over is a series. -/
theorem carry_series (a : Sanction) (w : World) :
    ∃ l, Series w l (a.carry.run w).2 ∧ l.map Prod.fst = a.carried w.bot.rooms ∧
      (a.carry.run w).1 = (accepted l).map (·.room) := by
  obtain ⟨room, member, reason?⟩ := a
  cases reason? with
  | some reason =>
    obtain ⟨l, hl, hmap, hres⟩ := propagateBan_series room member reason w
    refine ⟨l, hl, ?_, hres⟩
    rw [hmap, RoomStore.banTargets, Sanction.carried, List.map_map]
    simp only [Option.isSome_some, Bool.bne_true]
    rfl
  | none =>
    obtain ⟨l, hl, hmap, hres⟩ := propagateUnban_series room member w
    refine ⟨l, hl, ?_, hres⟩
    rw [hmap, RoomStore.unbanTargets, Sanction.carried, List.map_map]
    simp only [Option.isSome_none, Bool.bne_false]
    rfl

/-! ### Commands -/

/-- The sanctions by which a command is carried out: the one that is commanded, if it is due, and
those by which it is carried over. -/
inductive Commanded (s : RoomStore) (a : Sanction) : List (Sanction × Bool) → Prop
  | elsewhere {l : List (Sanction × Bool)} (notDue : ¬ a.Due s)
      (carried : l.map Prod.fst = a.carried s) : Commanded s a l
  | everywhere {l : List (Sanction × Bool)} (due : a.Due s)
      (carried : l.map Prod.fst = a :: a.carried s) : Commanded s a l
  | refused (due : a.Due s) : Commanded s a [(a, false)]

/-- What a command comes to before it is told about: the rooms in which the sanction was given, or
the error with which the homeserver has refused it in its own room. -/
inductive Ordered (w : World) (a : Sanction) : Except HandlerError (List RoomId) → World → Prop
  | elsewhere {w' : World} {l : List (Sanction × Bool)} (notDue : ¬ a.Due w.bot.rooms)
      (series : Series w l w') (carried : l.map Prod.fst = a.carried w.bot.rooms) :
      Ordered w a (.ok ((accepted l).map (·.room))) w'
  | everywhere {w' : World} {l : List (Sanction × Bool)} (due : a.Due w.bot.rooms)
      (series : Series w ((a, true) :: l) w') (carried : l.map Prod.fst = a.carried w.bot.rooms) :
      Ordered w a (.ok ((accepted ((a, true) :: l)).map (·.room))) w'
  | refused {w' : World} (due : a.Due w.bot.rooms) (given : Sanctioned w a false w')
      (e : ActionError)
      (history : w'.history = .called w.bot w.activities a.call (.error e) :: w.history) :
      Ordered w a (.error (.action e)) w'

namespace Sanction

/-- The word for a sanction in a reply. -/
def verb (a : Sanction) : String :=
  match a.reason? with
  | some _ => "Banned"
  | none => "Unbanned"

/-- The reply if there was nothing to do. -/
def nowhere (a : Sanction) : String :=
  match a.reason? with
  | some _ => s!"{a.member.text} was not banned anywhere new"
  | none => s!"{a.member.text} was not banned in any room I moderate"

/-- The command for a sanction. -/
def toCommand (a : Sanction) : Command :=
  match a.reason? with
  | some reason => .ban a.member reason
  | none => .unban a.member

/-- The notice of a command. -/
def notice (a : Sanction) (sender : MemberId) (rooms : Nat) : Notice :=
  match a.reason? with
  | some _ => .banCommanded a.member sender rooms
  | none => .unbanCommanded a.member sender rooms

/-- Tells in which rooms a sanction was given. -/
def tell (a : Sanction) (origin : CommandOrigin) (rooms : List RoomId) : HandlerM Unit := do
  note (a.notice origin.sender rooms.length)
  if rooms.isEmpty then reply origin a.nowhere
  else report origin a.verb a.member (← displayNames rooms) rooms

end Sanction

/-- Whether a sanction is due, as a command finds it out. -/
def Sanction.dueIn (a : Sanction) (s : RoomStore) : Bool :=
  match a.reason? with
  | some _ => s.canBan a.room && !s.isBanned a.room a.member
  | none => s.canBan a.room && s.isBanned a.room a.member

omit [Surroundings] in
theorem Sanction.dueIn_iff {s : RoomStore} : a.dueIn s = true ↔ a.Due s := by
  obtain ⟨room, member, reason?⟩ := a
  cases reason? with
  | some reason => exact due_iff_ban
  | none => exact due_iff_unban

/-- A command gives the sanction if it is due, carries it over, and tells where it was given. -/
theorem handle_eq (origin : CommandOrigin) (a : Sanction) (hroom : a.room = origin.room) :
    handle a.toCommand.handler origin a.toCommand = (do
      let rooms := (← getBot).rooms
      let here := a.dueIn rooms
      if here then acting a.give
      let others ← a.carry
      a.tell origin ((if here then [a.room] else []) ++ others)) := by
  obtain ⟨room, member, reason?⟩ := a
  obtain rfl : room = origin.room := hroom
  cases reason? with
  | some reason => rfl
  | none => rfl

/-- A command is a sanction that is given if it is due and is carried over, and then the telling of
where it was given. -/
theorem ordered_handle (origin : CommandOrigin) (a : Sanction) (hroom : a.room = origin.room)
    (w : World) :
    ∃ answer w₁, Ordered w a answer w₁ ∧
      (handle a.toCommand.handler origin a.toCommand).run.run w =
        match answer with
        | .ok rooms => (a.tell origin rooms).run.run w₁
        | .error e => (.error e, w₁) := by
  have htell : ∀ (here : List RoomId) (v : World),
      ((liftM a.carry : HandlerM _) >>= fun others => a.tell origin (here ++ others)).run.run v =
        (a.tell origin (here ++ (a.carry.run v).1)).run.run (a.carry.run v).2 :=
    fun _ _ => rfl
  rw [handle_eq origin a hroom, run_bind_except, run_lift, run_getBot]
  dsimp only
  by_cases hdue : a.Due w.bot.rooms
  · have hgive := a.sanctioned_give w
    have hrefused := fun e => a.history_give_of_error (w := w) (e := e)
    have hacting : (acting a.give).run.run w =
        ((a.give.run.run w).1.mapError .action, (a.give.run.run w).2) := rfl
    rw [if_pos (Sanction.dueIn_iff.2 hdue), if_pos (Sanction.dueIn_iff.2 hdue), run_bind_except,
      hacting]
    rcases hrun : a.give.run.run w with ⟨e | ⟨⟩, w₁⟩
    all_goals rw [hrun] at hgive hrefused
    · exact ⟨_, w₁, .refused hdue hgive e (hrefused e rfl), rfl⟩
    · obtain ⟨l, hl, hmap, hres⟩ := carry_series a w₁
      have hrooms : w₁.bot.rooms = a.onStore w.bot.rooms := congrArg Bot.rooms hgive.bot
      rw [hrooms, Sanction.carried_onStore] at hmap
      refine ⟨_, _, .everywhere hdue (.cons hgive hl) hmap, (htell [a.room] w₁).trans ?_⟩
      rw [hres]
      rfl
  · obtain ⟨l, hl, hmap, hres⟩ := carry_series a w
    rw [if_neg (mt Sanction.dueIn_iff.1 hdue), if_neg (mt Sanction.dueIn_iff.1 hdue)]
    refine ⟨_, _, .elsewhere hdue hl hmap, (htell [] w).trans ?_⟩
    rw [hres]
    rfl

theorem Ordered.commanded {answer : Except HandlerError (List RoomId)} (h : Ordered w a answer w') :
    ∃ l, Commanded w.bot.rooms a l ∧ Series w l w' := by
  cases h with
  | elsewhere notDue series carried => exact ⟨_, .elsewhere notDue carried, series⟩
  | @everywhere _ l due series carried =>
    exact ⟨(a, true) :: l, .everywhere due (congrArg (a :: ·) carried), series⟩
  | refused due given => exact ⟨_, .refused due, .cons given (.nil (.refl _))⟩

theorem does_tell (origin : CommandOrigin) (a : Sanction) (rooms : List RoomId) :
    Does Speaking (a.tell origin rooms).run := by
  refine .bind_except (.lift (.note _)) fun _ => ?_
  split
  · exact does_reply origin _
  · exact .bind_except (.lift (does_displayNames rooms)) fun names => does_report origin _ _ _ _

/-- A command is a series, and then speaking. -/
private theorem handle_series (origin : CommandOrigin) (a : Sanction) (hroom : a.room = origin.room)
    (w : World) :
    ∃ l w₁, Commanded w.bot.rooms a l ∧ Series w l w₁ ∧
      Trace Speaking w₁ ((handle a.toCommand.handler origin a.toCommand).run.run w).2 := by
  obtain ⟨answer, w₁, hordered, hrun⟩ := ordered_handle origin a hroom w
  obtain ⟨l, hl, hseries⟩ := hordered.commanded
  refine ⟨l, w₁, hl, hseries, ?_⟩
  rw [hrun]
  cases answer with
  | ok rooms => exact does_tell origin a rooms w₁
  | error e => exact .refl w₁

/-- A command to ban is a series, and then speaking. -/
theorem handleBan_series (origin : CommandOrigin) (member : MemberId) (reason : String)
    (w : World) :
    ∃ l w₁, Commanded w.bot.rooms ⟨origin.room, member, some reason⟩ l ∧ Series w l w₁ ∧
      Trace Speaking w₁ ((handleBan origin member reason).run.run w).2 :=
  handle_series origin ⟨origin.room, member, some reason⟩ rfl w

/-- A command to lift a ban is a series, and then speaking. -/
theorem handleUnban_series (origin : CommandOrigin) (member : MemberId) (w : World) :
    ∃ l w₁, Commanded w.bot.rooms ⟨origin.room, member, none⟩ l ∧ Series w l w₁ ∧
      Trace Speaking w₁ ((handleUnban origin member).run.run w).2 :=
  handle_series origin ⟨origin.room, member, none⟩ rfl w

end RoomModeration
