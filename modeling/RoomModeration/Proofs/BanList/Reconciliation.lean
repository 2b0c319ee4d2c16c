import RoomModeration.Proofs.BanList.Series
import RoomModeration.Proofs.BanList.Union

/-!
# Uniting the ban lists

At the start every target is brought up to the union of the ban lists. Each ban that is missed is
asked for once, and no other is; what the homeserver refuses is passed over, and what it accepts is
recorded, with a reason that a sharing room gives. Nothing else changes. Where the homeserver
refuses nothing, every target lists the union afterwards, and there is nothing left to do.

Nothing is assumed about the store, about the order in which its records are visited, or about what
the homeserver answers.

## Main definitions

* `RoomRecord.Reconciled` : what becomes of one record.
* `Reconciled` : what becomes of the world.

## Main results

* `reconcile_converges` : what uniting the ban lists comes to.
-/

namespace RoomModeration

open BotM RoomModeration.Bot

/-- The room and the member that a sanction is about. -/
def Sanction.place (a : Sanction) : RoomId × MemberId :=
  (a.room, a.member)

/-- The room and the member of a call to ban, if the occurrence is such a call. -/
def Occurrence.ban? : Occurrence → Option (RoomId × MemberId)
  | called _ _ (.ban room member _) _ => some (room, member)
  | _ => none

/-- What becomes of a record when these bans have been given in the rooms of a store. -/
structure RoomRecord.Reconciled (s : RoomStore) (given : List (RoomId × MemberId))
    (r r' : RoomRecord) : Prop where
  /-- A record that is no target stays as it is. -/
  unchanged : r.isBanTarget = false → r' = r
  modes : r'.modes = r.modes
  params : r'.params = r.params
  /-- The banned members are the former ones and those whose ban has been given. -/
  lists_iff : ∀ member, r'.lists member = true ↔ r.lists member = true ∨ (r.id, member) ∈ given
  /-- Earlier reasons are kept. -/
  kept : ∀ (member : MemberId) (reason : String), r.banned[member]? = some reason →
    r'.banned[member]? = some reason
  /-- New reasons are those of sharing rooms. -/
  reason : ∀ (member : MemberId) (reason : String), (r.id, member) ∈ given →
    r'.banned[member]? = some reason →
      ∃ t ∈ s.records, t.syncsBans = true ∧ t.banned[member]? = some reason
  /-- Those whose ban has been given are not present any more. -/
  members_iff : ∀ member, r'.members.contains member = true ↔
    r.members.contains member = true ∧ (r.id, member) ∉ given

theorem RoomRecord.Reconciled.syncsBans_eq {s : RoomStore} {given : List (RoomId × MemberId)}
    {r r' : RoomRecord} (h : r.Reconciled s given r') : r'.syncsBans = r.syncsBans := by
  rw [RoomRecord.syncsBans, RoomRecord.hasMode, h.modes]
  rfl

theorem RoomRecord.Reconciled.isBanTarget_eq {s : RoomStore} {given : List (RoomId × MemberId)}
    {r r' : RoomRecord} (h : r.Reconciled s given r') : r'.isBanTarget = r.isBanTarget := by
  rw [RoomRecord.isBanTarget, h.syncsBans_eq, RoomRecord.canBan, h.modes]
  rfl

/-- Bans that were missed, given in a record of the store they were missed in. -/
theorem RoomRecord.reconciled_sanctionAll {s : RoomStore} {l : List Sanction}
    (hl : ∀ a ∈ l, ∃ missing ∈ s.missingBans, missing.sanction = a) {room : RoomId}
    {r : RoomRecord} (hr : s.find? room = some r) :
    r.Reconciled s (l.map Sanction.place) (r.sanctionAll (l.filter (·.room = room))) := by
  obtain rfl := RoomStore.find?_id hr
  have hmem : ∀ {member}, (r.id, member) ∈ l.map Sanction.place ↔
      ∃ a ∈ l.filter (·.room = r.id), a.member = member := by
    simp [Sanction.place, and_assoc]
  -- Every ban in the list is one that the record does not show yet.
  have hnew : ∀ a ∈ l.filter (·.room = r.id), ∃ missing ∈ s.missingBans,
      missing.sanction = a ∧ r.isBanTarget = true ∧ r.lists a.member = false := by
    intro a ha
    obtain ⟨hal, hroom⟩ := List.mem_filter.1 ha
    obtain ⟨missing, hmissing, rfl⟩ := hl a hal
    obtain ⟨t, ht, htarget, hlists, -⟩ := RoomStore.mem_missingBans_iff.1 hmissing
    have hroom' : missing.room = r.id := of_decide_eq_true hroom
    rw [hroom', hr] at ht
    obtain rfl := Option.some.inj ht
    exact ⟨missing, hmissing, rfl, htarget, hlists⟩
  have hold : ∀ member, r.lists member = true →
      ∀ a ∈ l.filter (·.room = r.id), a.member ≠ member := by
    rintro member hlists a ha rfl
    obtain ⟨-, -, -, -, hno⟩ := hnew a ha
    rw [hno] at hlists
    cases hlists
  have hreason : ∀ member, (r.id, member) ∈ l.map Sanction.place → ∃ missing ∈ s.missingBans,
      missing.member = member ∧
        (r.sanctionAll (l.filter (·.room = r.id))).banned[member]? = some missing.reason := by
    intro member hgiven
    obtain ⟨a, ha, hmember⟩ := hmem.1 hgiven
    obtain ⟨b, hb, hbmember, hbanned⟩ := r.exists_banned_sanctionAll ha hmember
    obtain ⟨missing, hmissing, rfl, -, -⟩ := hnew b hb
    exact ⟨missing, hmissing, hbmember, hbanned⟩
  refine ⟨?_, r.sanctionAll_modes _, r.sanctionAll_params _, ?_, ?_, ?_, ?_⟩
  · intro htarget
    have hnil : l.filter (·.room = r.id) = [] := by
      rw [List.eq_nil_iff_forall_not_mem]
      intro a ha
      obtain ⟨-, -, -, htrue, -⟩ := hnew a ha
      rw [htrue] at htarget
      cases htarget
    rw [hnil]
    rfl
  · intro member
    by_cases hgiven : (r.id, member) ∈ l.map Sanction.place
    · obtain ⟨missing, -, -, hbanned⟩ := hreason member hgiven
      simp [RoomRecord.lists_eq_isSome, hbanned, hgiven]
    · have hne : ∀ a ∈ l.filter (·.room = r.id), a.member ≠ member :=
        fun a ha h => hgiven (hmem.2 ⟨a, ha, h⟩)
      simp [RoomRecord.lists_eq_isSome, r.banned_sanctionAll_of_forall_ne _ _ hne, hgiven]
  · intro member reason hbanned
    have hlists : r.lists member = true := by rw [RoomRecord.lists_eq_isSome, hbanned]; rfl
    rw [r.banned_sanctionAll_of_forall_ne _ _ (hold member hlists), hbanned]
  · intro member reason hgiven hbanned
    obtain ⟨missing, hmissing, rfl, hbanned'⟩ := hreason member hgiven
    rw [hbanned'] at hbanned
    obtain rfl := Option.some.inj hbanned
    exact RoomStore.reason_of_mem_missingBans hmissing
  · intro member
    have hany : (l.filter (·.room = r.id)).any
        (fun a => a.member == member && a.reason?.isSome) = true ↔
          (r.id, member) ∈ l.map Sanction.place := by
      rw [hmem, List.any_eq_true]
      constructor
      · rintro ⟨a, ha, h⟩
        rw [Bool.and_eq_true, beq_iff_eq] at h
        exact ⟨a, ha, h.1⟩
      · rintro ⟨a, ha, rfl⟩
        obtain ⟨missing, -, rfl, -, -⟩ := hnew a ha
        exact ⟨_, ha, by simp [MissingBan.sanction]⟩
    rw [r.members_sanctionAll, Bool.and_eq_true, Bool.not_eq_true', ← Bool.not_eq_true, hany]

/-! ### The calls -/

theorem Occurrence.ban?_of_sanction? {o : Occurrence} {a : Sanction} {ok : Bool}
    (h : o.sanction? = some (a, ok)) (hban : a.reason?.isSome) : o.ban? = some a.place := by
  cases o with
  | polled | answered | applied => cases h
  | called before activities c result =>
    cases c with
    | ban room member reason =>
      obtain ⟨rfl, -⟩ := Prod.mk.inj (Option.some.inj h)
      rfl
    | unban room member =>
      obtain ⟨rfl, -⟩ := Prod.mk.inj (Option.some.inj h)
      cases hban
    | _ => cases h

/-- The calls of a series of bans are calls to ban, and those that were not refused are the
accepted ones. -/
theorem ban?_of_map_sanction? {made : List Occurrence} {l : List (Sanction × Bool)}
    (hmade : made.map Occurrence.sanction? = l.map some) (hban : ∀ p ∈ l, p.1.reason?.isSome) :
    (∀ o ∈ made, o.ban?.isSome) ∧
      made.filterMap Occurrence.ban? = l.map (·.1.place) ∧
      (made.filter (!·.isFailedModeration)).filterMap Occurrence.ban? =
        (accepted l).map Sanction.place := by
  induction made generalizing l with
  | nil =>
    obtain rfl : l = [] := by simpa using hmade.symm
    exact ⟨by simp, rfl, rfl⟩
  | cons o made ih =>
    cases l with
    | nil => cases hmade
    | cons p l =>
      obtain ⟨a, ok⟩ := p
      obtain ⟨ho, hrest⟩ := List.cons.inj hmade
      have hplace := Occurrence.ban?_of_sanction? ho (hban (a, ok) List.mem_cons_self)
      obtain ⟨hsome, hall, hgiven⟩ := ih hrest fun p hp => hban p (List.mem_cons_of_mem _ hp)
      refine ⟨?_, ?_, ?_⟩
      · intro o' ho'
        rcases List.mem_cons.1 ho' with rfl | ho'
        · rw [hplace]
          rfl
        · exact hsome o' ho'
      · rw [List.filterMap_cons_some hplace, hall]
        rfl
      · have hfailed := Occurrence.isFailedModeration_eq ho
        cases ok with
        | true =>
          rw [List.filter_cons_of_pos (by simp [hfailed]), List.filterMap_cons_some hplace, hgiven]
          rfl
        | false => rw [List.filter_cons_of_neg (by simp [hfailed]), hgiven]; rfl

theorem mem_map_place_missingBans {s : RoomStore} {room : RoomId} {member : MemberId} :
    (room, member) ∈ (s.missingBans.map MissingBan.sanction).map Sanction.place ↔
      s.Misses room member := by
  rw [← RoomStore.exists_missing_iff]
  simp [Sanction.place, MissingBan.sanction]

theorem nodup_map_place_missingBans (s : RoomStore) :
    ((s.missingBans.map MissingBan.sanction).map Sanction.place).Nodup := by
  rw [List.map_map]
  exact s.nodup_missingBans

/-! ### The world -/

variable [Surroundings]

/-- What becomes of a world when its ban lists are united: the calls that were made, in order, the
bans that were given, and their number. -/
structure Reconciled (w : World) (made : List Occurrence) (given : List (RoomId × MemberId))
    (issued : Nat) (w' : World) : Prop where
  history : w'.history = made.reverse ++ w.history
  /-- In a dry run there are no calls, and all missed bans count as given. -/
  dry : w.bot.config.actions.dryRun = true →
    made = [] ∧ ∀ room member, (room, member) ∈ given ↔ w.bot.rooms.Misses room member
  /-- Otherwise there is one call to ban for each ban that is missed, and no other call; those that
  were not refused are given. -/
  wet : w.bot.config.actions.dryRun = false →
    (∀ o ∈ made, o.ban?.isSome) ∧ (made.filterMap Occurrence.ban?).Nodup ∧
      (∀ room member, (room, member) ∈ made.filterMap Occurrence.ban? ↔
        w.bot.rooms.Misses room member) ∧
      given = (made.filter (!·.isFailedModeration)).filterMap Occurrence.ban?
  nodup : given.Nodup
  issued_eq : issued = given.length
  /-- Only the records of the bot change. -/
  bot : w'.bot = { w.bot with rooms := w'.bot.rooms }
  untracked : ∀ room, w.bot.rooms.find? room = none → w'.bot.rooms.find? room = none
  records : ∀ room r, w.bot.rooms.find? room = some r →
    ∃ r', w'.bot.rooms.find? room = some r' ∧ r.Reconciled w.bot.rooms given r'

/-- Uniting the ban lists, apart from what it says of the calls, is the giving of some of the
missing bans. -/
theorem reconcile_series (w : World) :
    ∃ l, Series w l (reconcile.run w).2 ∧
      l.map Prod.fst = w.bot.rooms.missingBans.map MissingBan.sanction ∧
      (reconcile.run w).1 = (accepted l).length := by
  obtain ⟨l, hl, hmap, hres⟩ := banAll_series w.bot.rooms.missingBans w
  exact ⟨l, hl.alike_right (quiet_note _ _), hmap, hres⟩

/-- What a series of all missing bans makes of the world. -/
theorem Series.reconciled {w w' : World} {l : List (Sanction × Bool)} (h : Series w l w')
    (hmap : l.map Prod.fst = w.bot.rooms.missingBans.map MissingBan.sanction) :
    ∃ made, Reconciled w made ((accepted l).map Sanction.place) (accepted l).length w' := by
  have hsub : ((accepted l).map Sanction.place).Sublist
      ((w.bot.rooms.missingBans.map MissingBan.sanction).map Sanction.place) := by
    rw [← hmap]
    exact (accepted_sublist l).map _
  have hnodup := (nodup_map_place_missingBans w.bot.rooms).sublist hsub
  have hmissing : ∀ a ∈ accepted l, ∃ missing ∈ w.bot.rooms.missingBans,
      missing.sanction = a := by
    intro a ha
    have hmem := (accepted_sublist l).subset ha
    rw [hmap] at hmem
    exact List.mem_map.1 hmem
  have huntracked : ∀ room, w.bot.rooms.find? room = none → w'.bot.rooms.find? room = none := by
    intro room hroom
    rw [h.find?_eq, hroom]
    rfl
  have hrecords : ∀ room r, w.bot.rooms.find? room = some r →
      ∃ r', w'.bot.rooms.find? room = some r' ∧
        r.Reconciled w.bot.rooms ((accepted l).map Sanction.place) r' := by
    intro room r hr
    refine ⟨_, ?_, RoomRecord.reconciled_sanctionAll hmissing hr⟩
    rw [h.find?_eq, hr]
    rfl
  cases hdry : w.bot.config.actions.dryRun with
  | true =>
    obtain ⟨haccepted, hhistory⟩ := h.dry hdry
    refine ⟨[], hhistory, fun _ => ⟨rfl, fun room member => ?_⟩, fun hwet => ?_, hnodup, ?_, ?_,
      huntracked, hrecords⟩
    · rw [haccepted, hmap, mem_map_place_missingBans]
    · rw [hdry] at hwet
      cases hwet
    · rw [List.length_map]
    · rw [h.bot_eq]
  | false =>
    obtain ⟨made, hhistory, hmade⟩ := h.wet hdry
    have hban : ∀ p ∈ l, p.1.reason?.isSome := by
      intro p hp
      have hmem : p.1 ∈ l.map Prod.fst := List.mem_map_of_mem hp
      rw [hmap] at hmem
      obtain ⟨missing, -, heq⟩ := List.mem_map.1 hmem
      rw [← heq]
      rfl
    obtain ⟨hsome, hall, hgiven⟩ := ban?_of_map_sanction? hmade hban
    have hplaces : made.filterMap Occurrence.ban? =
        (w.bot.rooms.missingBans.map MissingBan.sanction).map Sanction.place := by
      rw [hall, ← hmap, List.map_map]
      rfl
    refine ⟨made, hhistory, fun hdry' => ?_, fun _ => ⟨hsome, ?_, ?_, hgiven.symm⟩, hnodup, ?_, ?_,
      huntracked, hrecords⟩
    · rw [hdry] at hdry'
      cases hdry'
    · rw [hplaces]
      exact nodup_map_place_missingBans w.bot.rooms
    · intro room member
      rw [hplaces, mem_map_place_missingBans]
    · rw [List.length_map]
    · rw [h.bot_eq]

/-! ### Where nothing is refused -/

namespace Reconciled

variable {w w' : World} {made : List Occurrence} {given : List (RoomId × MemberId)} {issued : Nat}

/-- Where no ban is refused, those that are given are those that are missed. -/
theorem mem_given_iff (h : Reconciled w made given issued w')
    (hok : ∀ o ∈ made, o.isFailedModeration = false) {room : RoomId} {member : MemberId} :
    (room, member) ∈ given ↔ w.bot.rooms.Misses room member := by
  cases hdry : w.bot.config.actions.dryRun with
  | true => exact (h.dry hdry).2 room member
  | false =>
    obtain ⟨-, -, hmade, hgiven⟩ := h.wet hdry
    have hfilter : made.filter (!·.isFailedModeration) = made :=
      List.filter_eq_self.2 fun o ho => by rw [hok o ho]; rfl
    rw [hgiven, hfilter, hmade]

/-- Every record afterwards is what became of one before. -/
theorem exists_record (h : Reconciled w made given issued w') {room : RoomId} {r' : RoomRecord}
    (hr' : w'.bot.rooms.find? room = some r') :
    ∃ r, w.bot.rooms.find? room = some r ∧ r.Reconciled w.bot.rooms given r' := by
  cases hfind : w.bot.rooms.find? room with
  | none =>
    rw [h.untracked room hfind] at hr'
    cases hr'
  | some r =>
    obtain ⟨t, ht, hrecord⟩ := h.records room r hfind
    rw [ht] at hr'
    obtain rfl := Option.some.inj hr'
    exact ⟨r, rfl, hrecord⟩

/-- Where no ban is refused, every target lists the union. -/
theorem lists_iff_unites (h : Reconciled w made given issued w')
    (hok : ∀ o ∈ made, o.isFailedModeration = false) {room : RoomId} {r' : RoomRecord}
    (hr' : w'.bot.rooms.find? room = some r') (htarget : r'.isBanTarget = true)
    (member : MemberId) : r'.lists member = true ↔ w.bot.rooms.Unites member := by
  obtain ⟨r, hfind, hrecord⟩ := h.exists_record hr'
  obtain ⟨hmem, rfl⟩ := RoomStore.find?_eq_some_iff.1 hfind
  rw [hrecord.isBanTarget_eq] at htarget
  rw [hrecord.lists_iff, h.mem_given_iff hok]
  constructor
  · rintro (hlists | ⟨_, _, _, _, hunites⟩)
    · exact ⟨r, hmem, RoomRecord.syncsBans_of_isBanTarget htarget, hlists⟩
    · exact hunites
  · intro hunites
    cases hlists : r.lists member with
    | true => exact .inl rfl
    | false => exact .inr ⟨r, hfind, htarget, hlists, hunites⟩

/-- The union does not grow. -/
theorem unites_of_unites (h : Reconciled w made given issued w')
    (hok : ∀ o ∈ made, o.isFailedModeration = false) {member : MemberId}
    (hunites : w'.bot.rooms.Unites member) : w.bot.rooms.Unites member := by
  obtain ⟨r', hmem', hsyncs, hlists⟩ := hunites
  obtain ⟨r, hfind, hrecord⟩ := h.exists_record (RoomStore.find?_of_mem_records hmem')
  obtain ⟨hmem, -⟩ := RoomStore.find?_eq_some_iff.1 hfind
  rcases (hrecord.lists_iff member).1 hlists with hformer | hgiven
  · rw [hrecord.syncsBans_eq] at hsyncs
    exact ⟨r, hmem, hsyncs, hformer⟩
  · obtain ⟨_, _, _, _, hunites⟩ := (h.mem_given_iff hok).1 hgiven
    exact hunites

/-- Where no ban is refused, none is missed afterwards. -/
theorem not_misses (h : Reconciled w made given issued w')
    (hok : ∀ o ∈ made, o.isFailedModeration = false) (room : RoomId) (member : MemberId) :
    ¬ w'.bot.rooms.Misses room member := by
  rintro ⟨r', hr', htarget, hlists, hunites⟩
  have htrue := (h.lists_iff_unites hok hr' htarget member).2 (h.unites_of_unites hok hunites)
  rw [hlists] at htrue
  cases htrue

end Reconciled

theorem reconcile_of_missingBans_eq_nil {w : World} (h : w.bot.rooms.missingBans = []) :
    (reconcile.run w).1 = 0 ∧ (reconcile.run w).2.bot = w.bot ∧
      (reconcile.run w).2.history = w.history := by
  simp only [reconcile, run_bind, run_getBot, h]
  exact ⟨rfl, rfl, rfl⟩

/-- Uniting the ban lists asks for every ban that is missed, once, and for no other, and records
those that are not refused. If none is refused, every target lists the union, and another go finds
nothing to do, in whatever order it visits the records. -/
theorem reconcile_converges (w : World) :
    let w' := (reconcile.run w).2
    ∃ made given, Reconciled w made given (reconcile.run w).1 w' ∧
      ((∀ o ∈ made, o.isFailedModeration = false) →
        (∀ room r, w'.bot.rooms.find? room = some r → r.isBanTarget = true →
          ∀ member, r.lists member = true ↔ w.bot.rooms.Unites member) ∧
        ∀ v : World, v.bot.rooms.records.Perm w'.bot.rooms.records →
          (reconcile.run v).1 = 0 ∧ (reconcile.run v).2.bot = v.bot ∧
            (reconcile.run v).2.history = v.history) := by
  intro w'
  obtain ⟨l, hl, hmap, hissued⟩ := reconcile_series w
  obtain ⟨made, hmade⟩ := hl.reconciled hmap
  refine ⟨made, (accepted l).map Sanction.place, hissued ▸ hmade, fun hok => ⟨?_, ?_⟩⟩
  · intro room r hr htarget member
    exact hmade.lists_iff_unites hok hr htarget member
  · intro v hperm
    refine reconcile_of_missingBans_eq_nil (RoomStore.missingBans_eq_nil fun room member => ?_)
    rw [RoomStore.misses_iff_of_perm hperm]
    exact hmade.not_misses hok room member

end RoomModeration
