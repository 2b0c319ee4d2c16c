import RoomModeration.Proofs.BanList.Carrying

/-!
# Carrying over is exact

A sanction is carried over to each other target that does not agree with it yet, and to no other
room. Each of them is asked once, with the same member and the same reason; the records of those
that accept show the sanction, and nothing else changes. What is left over is what was refused, so
that carrying the same sanction over once more asks exactly the rooms that refused it, and where
none has refused it there is nothing to do.

Nothing is assumed about the store, about the order in which its records are visited, or about what
the homeserver answers.

## Main definitions

* `Sanction.Targets` : the rooms to which a sanction is to be carried.
* `RoomRecord.Shows` : what becomes of the record of a room that accepts a sanction.
* `Repeated` : what becomes of the bot when one sanction is given in some rooms.
* `Propagated` : what becomes of the world when a sanction is carried over.
* `CarriesExactly` : carrying over is exact, and so is carrying over once more.

## Main results

* `Series.repeated`, `Series.propagated` : what a series of such sanctions comes to.
* `Propagated.targets_iff` : what is left over is what was refused.
* `propagation_exact` : bans and the liftings of bans are carried over exactly.
-/

namespace RoomModeration

open BotM RoomModeration.Bot

/-! ### The rooms that are asked -/

namespace Sanction

variable {s t : RoomStore} {a : Sanction} {room : RoomId}

/-- A sanction is to be carried to a room: it is not the room of the sanction, it is a target, and
it does not agree with the sanction yet. -/
def Targets (s : RoomStore) (a : Sanction) (room : RoomId) : Prop :=
  room ≠ a.room ∧ ∃ r, s.find? room = some r ∧ r.isBanTarget = true ∧
    r.lists a.member = !a.reason?.isSome

theorem mem_rooms_carried_iff : room ∈ (a.carried s).map (·.room) ↔ a.Targets s room := by
  rw [List.mem_map]
  constructor
  · rintro ⟨b, hb, rfl⟩
    obtain ⟨r, hr, hroom, htarget, hlists, rfl⟩ := mem_carried_iff.1 hb
    exact ⟨hroom, r, RoomStore.find?_of_mem_records hr, htarget, hlists⟩
  · rintro ⟨hroom, r, hr, htarget, hlists⟩
    obtain ⟨hmem, rfl⟩ := RoomStore.find?_eq_some_iff.1 hr
    exact ⟨_, mem_carried_iff.2 ⟨r, hmem, hroom, htarget, hlists, rfl⟩, rfl⟩

theorem eq_moveTo_of_mem_carried {b : Sanction} (h : b ∈ a.carried s) : b = a.moveTo b.room := by
  obtain ⟨r, -, -, -, -, rfl⟩ := mem_carried_iff.1 h
  rfl

/-- Where a sanction is to be carried is no matter of the order of the records. -/
theorem targets_iff_of_perm (h : s.records.Perm t.records) :
    a.Targets s room ↔ a.Targets t room := by
  simp only [Targets, RoomStore.find?_eq_some_iff, h.mem_iff]

end Sanction

/-! ### The records of those that accept -/

/-- A record after a sanction: the entry of the member is the one that the sanction gives, a ban
removes the member from those present, and all else is as it was. -/
structure RoomRecord.Shows (a : Sanction) (r r' : RoomRecord) : Prop where
  modes : r'.modes = r.modes
  params : r'.params = r.params
  banned : ∀ member, r'.banned[member]? = if a.member = member then a.reason? else r.banned[member]?
  members : ∀ member, r'.members.contains member =
    (r.members.contains member && !(a.member == member && a.reason?.isSome))

theorem RoomRecord.Shows.lists {a : Sanction} {r r' : RoomRecord} (h : RoomRecord.Shows a r r') :
    r'.lists a.member = a.reason?.isSome := by
  rw [RoomRecord.lists_eq_isSome, h.banned, if_pos rfl]

/-- Sanctions that differ from one another at most in their rooms come to one of them. -/
theorem RoomRecord.shows_sanctionAll (a : Sanction) (r : RoomRecord) {l : List Sanction}
    (hl : ∀ b ∈ l, b.member = a.member ∧ b.reason? = a.reason?) (hne : l ≠ []) :
    RoomRecord.Shows a r (r.sanctionAll l) := by
  obtain ⟨b, hb⟩ := List.exists_mem_of_ne_nil l hne
  refine ⟨r.sanctionAll_modes l, r.sanctionAll_params l, fun member => ?_, fun member => ?_⟩
  · by_cases hmember : a.member = member
    · obtain ⟨c, hc, -, hbanned⟩ := r.exists_banned_sanctionAll hb ((hl b hb).1.trans hmember)
      rw [if_pos hmember, hbanned, (hl c hc).2]
    · rw [if_neg hmember]
      exact r.banned_sanctionAll_of_forall_ne l member fun c hc h =>
        hmember ((hl c hc).1.symm.trans h)
  · have hany : (l.any fun b => b.member == member && b.reason?.isSome) =
        (a.member == member && a.reason?.isSome) := by
      rw [Bool.eq_iff_iff, List.any_eq_true]
      constructor
      · rintro ⟨c, hc, h⟩
        rwa [(hl c hc).1, (hl c hc).2] at h
      · intro h
        refine ⟨b, hb, ?_⟩
        rwa [(hl b hb).1, (hl b hb).2]
    rw [r.members_sanctionAll, hany]

/-! ### The world -/

section

variable {l : List (Sanction × Bool)}

/-- Where each room is asked once, the rooms that accept are those whose call ended well. -/
theorem mem_rooms_accepted_iff (h : (l.map (·.1.room)).Nodup) {p : Sanction × Bool} (hp : p ∈ l) :
    p.1.room ∈ (accepted l).map (·.room) ↔ p.2 = true := by
  simp only [accepted, List.map_map, List.mem_map, List.mem_filter]
  constructor
  · rintro ⟨q, ⟨hq, hok⟩, hroom⟩
    rwa [← List.inj_on_of_nodup_map h hq hp hroom]
  · intro hok
    exact ⟨p, ⟨hp, hok⟩, rfl⟩

end

variable [Surroundings] {w w' : World} {a : Sanction} {targets applied : List RoomId}
  {made : List Occurrence} {l : List (Sanction × Bool)}

/-- What becomes of the bot when one and the same sanction is given in some rooms: the rooms that
accept, and the calls that are made, in order. -/
structure Repeated (b : Bot) (a : Sanction) (rooms applied : List RoomId) (made : List Occurrence)
    (b' : Bot) : Prop where
  sublist : applied.Sublist rooms
  /-- In a dry run there are no calls, and all rooms count as accepting. -/
  dry : b.config.actions.dryRun = true → made = [] ∧ applied = rooms
  /-- Otherwise there is one call in each room, for the same sanction, and no other call; the rooms
  that accept are those whose call ends well. -/
  wet : b.config.actions.dryRun = false → made.map Occurrence.sanction? =
    rooms.map fun room => some (a.moveTo room, decide (room ∈ applied))
  /-- Only the records of the bot change. -/
  bot : b' = { b with rooms := b'.rooms }
  unchanged : ∀ room, room ∉ applied → b'.rooms.find? room = b.rooms.find? room
  changed : ∀ room, room ∈ applied → ∃ r r', b.rooms.find? room = some r ∧
    b'.rooms.find? room = some r' ∧ RoomRecord.Shows a r r'

omit [Surroundings] in
/-- Where no call fails, every room that is asked accepts. -/
theorem Repeated.mem_applied {b b' : Bot} (h : Repeated b a targets applied made b')
    (hok : ∀ o ∈ made, o.isFailedModeration = false) {room : RoomId} (hroom : room ∈ targets) :
    room ∈ applied := by
  cases hdry : b.config.actions.dryRun with
  | true => rwa [(h.dry hdry).2]
  | false =>
    have hasked : some (a.moveTo room, decide (room ∈ applied)) ∈
        made.map Occurrence.sanction? := by
      rw [h.wet hdry]
      exact List.mem_map_of_mem hroom
    obtain ⟨o, ho, hsanction⟩ := List.mem_map.1 hasked
    have hfailed := Occurrence.isFailedModeration_eq hsanction
    rw [hok o ho] at hfailed
    exact of_decide_eq_true (by simpa using hfailed.symm)

/-- What becomes of a world when a sanction is carried over: the rooms that are asked, those among
them that accept, and the calls that are made, in order. -/
structure Propagated (w : World) (a : Sanction) (targets applied : List RoomId)
    (made : List Occurrence) (w' : World) : Prop where
  nodup : targets.Nodup
  mem_targets_iff : ∀ room, room ∈ targets ↔ a.Targets w.bot.rooms room
  sublist : applied.Sublist targets
  history : w'.history = made.reverse ++ w.history
  /-- In a dry run there are no calls, and all rooms count as accepting. -/
  dry : w.bot.config.actions.dryRun = true → made = [] ∧ applied = targets
  /-- Otherwise there is one call in each room, for the same sanction, and no other call; the rooms
  that accept are those whose call ends well. -/
  wet : w.bot.config.actions.dryRun = false → made.map Occurrence.sanction? =
    targets.map fun room => some (a.moveTo room, decide (room ∈ applied))
  /-- Only the records of the bot change. -/
  bot : w'.bot = { w.bot with rooms := w'.bot.rooms }
  unchanged : ∀ room, room ∉ applied → w'.bot.rooms.find? room = w.bot.rooms.find? room
  changed : ∀ room, room ∈ applied → ∃ r r', w.bot.rooms.find? room = some r ∧
    w'.bot.rooms.find? room = some r' ∧ RoomRecord.Shows a r r'

/-- Where nothing is accepted, nothing changes. -/
theorem Series.find?_eq_of_notMem (h : Series w l w') {room : RoomId}
    (hroom : room ∉ (accepted l).map (·.room)) :
    w'.bot.rooms.find? room = w.bot.rooms.find? room := by
  have hnone : (accepted l).filter (·.room = room) = [] :=
    List.filter_eq_nil_iff.2 fun b hb h =>
      hroom (List.mem_map.2 ⟨b, hb, of_decide_eq_true h⟩)
  rw [h.find?_eq, hnone]
  exact Option.map_id'

/-- Where something is accepted, the record shows it. -/
theorem Series.shows (h : Series w l w')
    (hl : ∀ p ∈ l, p.1 = a.moveTo p.1.room ∧ ∃ r, w.bot.rooms.find? p.1.room = some r)
    {room : RoomId} (hroom : room ∈ (accepted l).map (·.room)) :
    ∃ r r', w.bot.rooms.find? room = some r ∧ w'.bot.rooms.find? room = some r' ∧
      RoomRecord.Shows a r r' := by
  have hgiven : ∀ b ∈ accepted l, b = a.moveTo b.room ∧
      ∃ r, w.bot.rooms.find? b.room = some r := by
    intro b hb
    obtain ⟨p, hp, rfl⟩ := List.mem_map.1 ((accepted_sublist l).subset hb)
    exact hl p hp
  obtain ⟨b, hb, rfl⟩ := List.mem_map.1 hroom
  obtain ⟨r, hr⟩ := (hgiven b hb).2
  refine ⟨r, _, hr, by rw [h.find?_eq, hr]; rfl, r.shows_sanctionAll a (fun c hc => ?_) ?_⟩
  · rw [(hgiven c (List.mem_filter.1 hc).1).1]
    exact ⟨rfl, rfl⟩
  · exact List.ne_nil_of_mem (List.mem_filter.2 ⟨hb, decide_eq_true rfl⟩)

/-- What a series of one and the same sanction in different rooms comes to. -/
theorem Series.repeated (h : Series w l w')
    (hl : ∀ p ∈ l, p.1 = a.moveTo p.1.room ∧ ∃ r, w.bot.rooms.find? p.1.room = some r)
    (hnodup : (l.map (·.1.room)).Nodup) :
    ∃ made, w'.history = made.reverse ++ w.history ∧
      Repeated w.bot a (l.map (·.1.room)) ((accepted l).map (·.room)) made w'.bot := by
  have hsublist : ((accepted l).map (·.room)).Sublist (l.map (·.1.room)) := by
    have := (accepted_sublist l).map Sanction.room
    rwa [List.map_map] at this
  have hbot : w'.bot = { w.bot with rooms := w'.bot.rooms } := by
    rw [h.bot_eq]
  cases hdry : w.bot.config.actions.dryRun with
  | true =>
    obtain ⟨haccepted, hhistory⟩ := h.dry hdry
    refine ⟨[], hhistory, hsublist, fun _ => ⟨rfl, ?_⟩, fun hwet => ?_, hbot,
      fun _ => h.find?_eq_of_notMem, fun _ => h.shows hl⟩
    · rw [haccepted, List.map_map]
      rfl
    · rw [hdry] at hwet
      cases hwet
  | false =>
    obtain ⟨made, hhistory, hmade⟩ := h.wet hdry
    refine ⟨made, hhistory, hsublist, fun hdry' => ?_, fun _ => ?_, hbot,
      fun _ => h.find?_eq_of_notMem, fun _ => h.shows hl⟩
    · rw [hdry] at hdry'
      cases hdry'
    · rw [hmade, List.map_map, List.map_inj_left]
      intro p hp
      have hok : decide (p.1.room ∈ (accepted l).map (·.room)) = p.2 := by
        rw [Bool.eq_iff_iff, decide_eq_true_iff, mem_rooms_accepted_iff hnodup hp]
      simp only [Function.comp_apply, hok, ← (hl p hp).1]

/-- What a series of the carried sanctions comes to. -/
theorem Series.propagated (h : Series w l w') (hl : l.map Prod.fst = a.carried w.bot.rooms) :
    ∃ made, Propagated w a (l.map (·.1.room)) ((accepted l).map (·.room)) made w' := by
  have hrooms : l.map (·.1.room) = (a.carried w.bot.rooms).map (·.room) := by
    rw [← hl, List.map_map]
    rfl
  have hnodup : (l.map (·.1.room)).Nodup := by
    rw [hrooms]
    exact (List.nodup_cons.1 (Sanction.nodup_rooms_carried w.bot.rooms a)).2
  have hmem : ∀ room, room ∈ l.map (·.1.room) ↔ a.Targets w.bot.rooms room := by
    intro room
    rw [hrooms, Sanction.mem_rooms_carried_iff]
  have hgiven : ∀ p ∈ l, p.1 = a.moveTo p.1.room ∧ ∃ r, w.bot.rooms.find? p.1.room = some r := by
    intro p hp
    obtain ⟨-, r, hr, -⟩ := (hmem p.1.room).1 (List.mem_map_of_mem hp)
    refine ⟨Sanction.eq_moveTo_of_mem_carried (s := w.bot.rooms) ?_, r, hr⟩
    rw [← hl]
    exact List.mem_map_of_mem hp
  obtain ⟨made, hhistory, hrepeated⟩ := h.repeated hgiven hnodup
  exact ⟨made, hnodup, hmem, hrepeated.sublist, hhistory, hrepeated.dry, hrepeated.wet,
    hrepeated.bot, hrepeated.unchanged, hrepeated.changed⟩

namespace Propagated

/-- What is left over is what was refused. -/
theorem targets_iff (h : Propagated w a targets applied made w') (room : RoomId) :
    a.Targets w'.bot.rooms room ↔ room ∈ targets ∧ room ∉ applied := by
  constructor
  · rintro ⟨hroom, r', hr', htarget, hlists⟩
    have hrefused : room ∉ applied := by
      intro happlied
      obtain ⟨r, t, -, ht, hshows⟩ := h.changed room happlied
      rw [hr'] at ht
      obtain rfl := Option.some.inj ht
      rw [hshows.lists, Bool.eq_not_self] at hlists
      exact hlists
    rw [h.unchanged room hrefused] at hr'
    exact ⟨(h.mem_targets_iff room).2 ⟨hroom, r', hr', htarget, hlists⟩, hrefused⟩
  · rintro ⟨htargets, hrefused⟩
    obtain ⟨hroom, r, hr, htarget, hlists⟩ := (h.mem_targets_iff room).1 htargets
    exact ⟨hroom, r, by rw [h.unchanged room hrefused, hr], htarget, hlists⟩

theorem repeated (h : Propagated w a targets applied made w') :
    Repeated w.bot a targets applied made w'.bot :=
  ⟨h.sublist, h.dry, h.wet, h.bot, h.unchanged, h.changed⟩

end Propagated

/-- A step carries a sanction over exactly; and so it does when it is done once more, for the rooms
that have refused it, in whatever order it visits the records then. Where no call has failed, that
does nothing. -/
def CarriesExactly (step : BotM (List RoomId)) (a : Sanction) (w : World) : Prop :=
  ∃ targets made, Propagated w a targets (step.run w).1 made (step.run w).2 ∧
    ∀ v : World, v.bot.rooms.records.Perm (step.run w).2.bot.rooms.records →
      (∃ targets' made', Propagated v a targets' (step.run v).1 made' (step.run v).2 ∧
        ∀ room, room ∈ targets' ↔ room ∈ targets ∧ room ∉ (step.run w).1) ∧
      ((∀ o ∈ made, o.isFailedModeration = false) →
        (step.run v).1 = [] ∧ (step.run v).2.bot = v.bot ∧ (step.run v).2.history = v.history)

theorem carriesExactly_carry (a : Sanction) (w : World) : CarriesExactly a.carry a w := by
  obtain ⟨l, hl, hmap, hres⟩ := carry_series a w
  obtain ⟨made, hmade⟩ := hl.propagated hmap
  rw [← hres] at hmade
  refine ⟨_, made, hmade, fun v hperm => ?_⟩
  have hleft : ∀ room, a.Targets v.bot.rooms room ↔
      room ∈ l.map (·.1.room) ∧ room ∉ (a.carry.run w).1 := by
    intro room
    rw [Sanction.targets_iff_of_perm hperm, hmade.targets_iff]
  obtain ⟨l', hl', hmap', hres'⟩ := carry_series a v
  obtain ⟨made', hmade'⟩ := hl'.propagated hmap'
  rw [← hres'] at hmade'
  refine ⟨⟨_, made', hmade', fun room => by rw [hmade'.mem_targets_iff, hleft]⟩, fun hok => ?_⟩
  have hnil : l' = [] := by
    rw [List.eq_nil_iff_forall_not_mem]
    intro p hp
    obtain ⟨hasked, hrefused⟩ :=
      (hleft p.1.room).1 ((hmade'.mem_targets_iff _).1 (List.mem_map_of_mem hp))
    exact hrefused (hmade.repeated.mem_applied hok hasked)
  subst hnil
  cases hl' with
  | nil alike => exact ⟨hres', alike.bot, alike.history⟩

/-- A ban in a room is repeated in each other target that does not list the member, and the lifting
of a ban in each other target that does: each of them is asked once, no other room is, the records
of those that accept show it, and nothing else changes. Doing the same once more asks exactly those
that have refused. -/
theorem propagation_exact (source : RoomId) (member : MemberId) (w : World) :
    (∀ reason, CarriesExactly (propagateBan source member reason)
      ⟨source, member, some reason⟩ w) ∧
    CarriesExactly (propagateUnban source member) ⟨source, member, none⟩ w :=
  ⟨fun reason => carriesExactly_carry ⟨source, member, some reason⟩ w,
    carriesExactly_carry ⟨source, member, none⟩ w⟩

end RoomModeration
