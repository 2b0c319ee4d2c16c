import RoomModeration.Proofs.BanList.Reconciliation
import RoomModeration.Proofs.Feed
import RoomModeration.Proofs.Run

/-!
# Every ban is warranted

The bot never asks for a ban or for the lifting of one without the power to give it, or where the
record agrees already, or in a dry run; and unless an admin has asked for it in that very room, it
does so only in rooms that share their bans. This holds of all calls in all runs, whatever the
homeserver refuses: which sanctions are given is decided before the first of them, but none of them
is about what another one has changed.

## Main definitions

* `Warranted` : what must hold when a ban is asked for.
* `Warranting` : the permission to do nothing unwarranted.

## Main results

* `Series.warranted` : justified sanctions in different places are warranted.
* `moderation_warranted` : every ban in every run is warranted.
-/

namespace RoomModeration

open BotM RoomModeration.Bot

/-- What must hold of the bot when a ban or the lifting of one is asked for: it is no dry run; the
record of the room gives the bot the power to ban, and lists the member or does not list them; and
the room shares its bans, or an admin of the room has given the command there. -/
structure Warranted (before : Bot) (activities : List Activity) (command : String)
    (room : RoomId) (member : MemberId) (listed : Bool) : Prop where
  notDry : before.config.actions.dryRun = false
  record : ∃ r, before.rooms.find? room = some r ∧ r.canBan = true ∧ r.lists member = listed ∧
    (r.syncsBans = true ∨ ∃ sender, .command command sender room ∈ activities ∧
      before.config.mayCommand room sender = true)

/-- Every ban and every lifting of one that an occurrence tells of is warranted. -/
def Occurrence.IsWarranted : Occurrence → Prop
  | called before activities (.ban room member _) _ =>
    Warranted before activities "ban" room member false
  | called before activities (.unban room member) _ =>
    Warranted before activities "unban" room member true
  | _ => True

theorem nodup_places_carried (s : RoomStore) (a : Sanction) :
    ((a :: a.carried s).map Sanction.place).Nodup := by
  have hrooms := Sanction.nodup_rooms_carried s a
  have hfst : (a :: a.carried s).map (·.room) =
      ((a :: a.carried s).map Sanction.place).map Prod.fst := by
    rw [List.map_map]
    rfl
  rw [hfst] at hrooms
  exact hrooms.of_map _

section

variable [Surroundings] {w w₁ w' : World} {a b : Sanction} {ok : Bool}
  {l : List (Sanction × Bool)}

/-- The permission to do anything but ask for bans without a warrant. -/
def Warranting : Permission where
  Allows w
    | .call (.ban room member _) => Warranted w.bot w.activities "ban" room member false
    | .call (.unban room member) => Warranted w.bot w.activities "unban" room member true
    | _ => True
  aside _ := trivial

/-- Upkeep asks for no bans. -/
instance : Upkeep.Within Warranting where
  allows {_ d} h := by
    cases d with
    | aside | report | change => trivial
    | call c =>
      cases c with
      | ban | unban => cases h
      | _ => trivial

instance : Roaming.Within Warranting :=
  .trans Roaming Upkeep Warranting

instance : Minding.Within Warranting :=
  .trans Minding Upkeep Warranting

instance : Speaking.Within Warranting :=
  .trans Speaking Upkeep Warranting

/-! ### Justified sanctions -/

namespace Sanction

/-- The name of the command that asks for a sanction. -/
def command (a : Sanction) : String :=
  if a.reason?.isSome then "ban" else "unban"

/-- A sanction is justified: it is due, and its room shares its bans or an admin has asked for it
there. -/
def Justified (w : World) (a : Sanction) : Prop :=
  ∃ r, w.bot.rooms.find? a.room = some r ∧ r.canBan = true ∧
    r.lists a.member = (!a.reason?.isSome) ∧
    (r.syncsBans = true ∨ ∃ sender, .command a.command sender a.room ∈ w.activities ∧
      w.bot.config.mayCommand a.room sender = true)

/-- Outside of a dry run a justified sanction may be asked for. -/
theorem Justified.allows (h : a.Justified w) (hwet : w.bot.config.actions.dryRun = false) :
    Warranting.Allows w (.call a.call) := by
  obtain ⟨room, member, reason?⟩ := a
  obtain ⟨r, hr, hcan, hlists, hwhy⟩ := h
  cases reason? with
  | some reason => exact ⟨hwet, r, hr, hcan, hlists, hwhy⟩
  | none => exact ⟨hwet, r, hr, hcan, hlists, hwhy⟩

/-- What is justified stays so when a sanction is given in another place. -/
theorem Justified.of_sanctioned (h : b.Justified w) (hgiven : Sanctioned w a ok w₁)
    (hplace : a.place ≠ b.place) : b.Justified w₁ := by
  obtain ⟨r, hr, hcan, hlists, hwhy⟩ := h
  have hconfig : w₁.bot.config = w.bot.config := by
    rw [hgiven.bot]
    cases ok <;> rfl
  rw [Justified, hconfig, hgiven.activities, hgiven.bot]
  cases ok with
  | false => exact ⟨r, hr, hcan, hlists, hwhy⟩
  | true =>
    rw [if_pos rfl, Bot.sanction, find?_onStore, hr]
    by_cases hroom : b.room = a.room
    · have hmember : a.member ≠ b.member := fun h => hplace (Prod.ext hroom.symm h)
      rw [if_pos hroom]
      refine ⟨a.onRecord r, rfl, ?_, ?_, ?_⟩
      · rw [RoomRecord.canBan, a.onRecord_modes]
        exact hcan
      · rw [RoomRecord.lists_eq_isSome, a.banned_onRecord, if_neg hmember,
          ← RoomRecord.lists_eq_isSome, hlists]
      · rw [RoomRecord.syncsBans, RoomRecord.hasMode, a.onRecord_modes]
        exact hwhy
    · rw [if_neg hroom]
      exact ⟨r, rfl, hcan, hlists, hwhy⟩

end Sanction

/-- A justified sanction is warranted. -/
theorem Sanctioned.warranted (h : Sanctioned w a ok w₁) (hjustified : a.Justified w) :
    Trace Warranting w w₁ := by
  refine h.trace (fun hwet => hjustified.allows hwet) fun v => ?_
  cases hchange : a.change with
  | _ => trivial

/-- Justified sanctions in different places are warranted. -/
theorem Series.warranted (h : Series w l w') (hplaces : ((l.map Prod.fst).map Sanction.place).Nodup)
    (hjustified : ∀ a ∈ l.map Prod.fst, a.Justified w) : Trace Warranting w w' := by
  induction h with
  | nil alike => exact .aside alike.bot alike.history
  | @cons w w₁ w' a ok l head _ ih =>
    rw [List.map_cons, List.map_cons, List.nodup_cons] at hplaces
    refine (head.warranted (hjustified a List.mem_cons_self)).trans (ih hplaces.2 fun b hb => ?_)
    refine (hjustified b (List.mem_cons_of_mem _ hb)).of_sanctioned head fun heq => ?_
    exact hplaces.1 (heq ▸ List.mem_map_of_mem hb)

/-! ### The steps that moderate -/

theorem justified_of_mem_carried (w : World) (hb : b ∈ a.carried w.bot.rooms) : b.Justified w := by
  obtain ⟨r, hmem, -, htarget, hlists, rfl⟩ := Sanction.mem_carried_iff.1 hb
  exact ⟨r, RoomStore.find?_of_mem_records hmem, RoomRecord.canBan_of_isBanTarget htarget, hlists,
    .inl (RoomRecord.syncsBans_of_isBanTarget htarget)⟩

theorem Series.warranted_of_carried (h : Series w l w')
    (hl : l.map Prod.fst = a.carried w.bot.rooms) : Trace Warranting w w' := by
  refine h.warranted ?_ fun b hb => ?_
  · rw [hl]
    exact (List.nodup_cons.1 (nodup_places_carried w.bot.rooms a)).2
  · rw [hl] at hb
    exact justified_of_mem_carried w hb

/-- What a command that may be given leads to is warranted. -/
theorem Commanded.warranted (h : Commanded w.bot.rooms a l) (hseries : Series w l w')
    (hcommand : ∃ sender, .command a.command sender a.room ∈ w.activities ∧
      w.bot.config.mayCommand a.room sender = true) : Trace Warranting w w' := by
  have hhere : a.Due w.bot.rooms → a.Justified w := by
    rintro ⟨r, hr, hcan, hlists⟩
    exact ⟨r, hr, hcan, hlists, .inr hcommand⟩
  cases h with
  | elsewhere _ carried => exact hseries.warranted_of_carried carried
  | everywhere due carried =>
    refine hseries.warranted ?_ fun b hb => ?_
    · rw [carried]
      exact nodup_places_carried w.bot.rooms a
    · rw [carried] at hb
      rcases List.mem_cons.1 hb with rfl | hb
      · exact hhere due
      · exact justified_of_mem_carried w hb
  | refused due =>
    refine hseries.warranted (List.nodup_singleton _) fun b hb => ?_
    obtain rfl := List.mem_singleton.1 hb
    exact hhere due

theorem does_reconcile : Does Warranting reconcile := by
  intro w
  obtain ⟨l, hl, hmap, -⟩ := reconcile_series w
  refine hl.warranted ?_ fun a ha => ?_
  · rw [hmap]
    exact nodup_map_place_missingBans w.bot.rooms
  · rw [hmap] at ha
    obtain ⟨missing, hmissing, rfl⟩ := List.mem_map.1 ha
    obtain ⟨r, hr, htarget, hlists, -⟩ := RoomStore.mem_missingBans_iff.1 hmissing
    exact ⟨r, hr, RoomRecord.canBan_of_isBanTarget htarget, hlists,
      .inl (RoomRecord.syncsBans_of_isBanTarget htarget)⟩

theorem does_obey {room : RoomId} {sender : MemberId} {command : Command} (w : World)
    (hmay : w.bot.config.mayCommand room sender = true) :
    Trace Warranting w ((obey ⟨room, sender⟩ command).run w).2 := by
  let origin : CommandOrigin := ⟨room, sender⟩
  have henter : Trace Warranting w (origin.enter command w) := .aside rfl rfl
  have hmem : origin.activity command ∈ (origin.enter command w).activities :=
    List.mem_append_right _ List.mem_cons_self
  refine henter.trans (.trans ?_ (obey_speaks origin command w).within)
  by_cases hban : command.handler = .ban
  · cases command with
    | ban member reason =>
      obtain ⟨l, w₁, hl, hseries, hspeaks⟩ :=
        handleBan_series origin member reason (origin.enter (.ban member reason) w)
      exact (hl.warranted hseries ⟨sender, hmem, hmay⟩).trans hspeaks.within
    | _ => cases hban
  · by_cases hunban : command.handler = .unban
    · cases command with
      | unban member =>
        obtain ⟨l, w₁, hl, hseries, hspeaks⟩ :=
          handleUnban_series origin member (origin.enter (.unban member) w)
        exact (hl.warranted hseries ⟨sender, hmem, hmay⟩).trans hspeaks.within
      | _ => cases hunban
    · exact (does_handle origin hban hunban).within _

theorem Received.warranted {room : RoomId} {sender : MemberId} {body : String}
    (h : Received room sender body w w') : Trace Warranting w w' := by
  cases h with
  | unheeded _ spoken => exact spoken.within
  | heeded command heeds obeyed =>
    rw [obeyed]
    exact does_obey w heeds.allowed

theorem does_applyEvent (room : RoomId) (e : Event) : Does Warranting (applyEvent room e) := by
  intro w
  cases applyEvent_cases room e w with
  | passed _ alike => exact .aside alike.bot alike.history
  | message sender body _ received => exact received.warranted
  | changed t _ _ _ l series carried =>
    refine (trace_onStore t room w).within.trans ?_
    rw [Transition.carried] at carried
    cases hsanction : t.sanction? w.bot.selfId room with
    | some a =>
      rw [hsanction] at carried
      exact series.warranted_of_carried carried
    | none =>
      rw [hsanction] at carried
      obtain rfl := List.map_eq_nil_iff.1 carried
      exact series.warranted List.nodup_nil fun _ hb => absurd hb List.not_mem_nil

/-! ### Runs -/

/-- To have come so far by warranted deeds lasts. -/
theorem lasts_warranting (w : World) : Lasts (Trace Warranting w) := by
  have hdoes {α : Type} {step : BotM α} (h : Does Warranting step) :
      Keeps (Trace Warranting w) step :=
    fun _ hv => hv.step h
  refine .of_roaming (fun v v' d hd hleads hv => ?_) (fun room sender body v hv => ?_)
    (fun room e => ?_) ?_ ?_ fun room => ?_
  · exact hv.trans (.single (Permission.Within.allows hd) hleads)
  · exact hv.trans (receiveChat_cases room sender body v).warranted
  · exact hdoes (does_applyEvent room e)
  · exact hdoes does_reconcile
  · exact hdoes (.bind .getConfig fun _ => (does_joinEach _).within)
  · exact hdoes (does_rejoin room).within

/-- Whatever happens is warranted. -/
theorem does_warranted (x : Happening) : Does Warranting x.run :=
  fun w => (lasts_warranting w).happening x w (.refl w)

/-- A permitted deed leaves a history of warranted bans. -/
theorem preserves_isWarranted :
    Warranting.Preserves fun w => ∀ o ∈ w.history, o.IsWarranted := by
  intro w w' d hallows hleads hw
  cases hleads with
  | aside _ history | change _ _ history =>
    rw [history]
    exact hw
  | report o noCall _ history =>
    rw [history]
    refine List.forall_mem_cons.2 ⟨?_, hw⟩
    cases o with
    | called => cases noCall
    | polled | answered | applied => trivial
  | call c result _ history =>
    rw [history]
    refine List.forall_mem_cons.2 ⟨?_, hw⟩
    cases c with
    | ban | unban => exact hallows
    | _ => trivial

/-- Every ban and every lifting of one in a run is warranted. -/
theorem Reachable.isWarranted (h : Reachable w) : ∀ o ∈ w.history, o.IsWarranted :=
  h.invariant (I := fun v => ∀ o ∈ v.history, o.IsWarranted)
    (fun _ _ _ _ hmem => absurd hmem List.not_mem_nil)
    fun x => (does_warranted x).keeps preserves_isWarranted

/-- The bot asks for a ban only outside of a dry run, where it has the power to ban and the member
is not listed, and for the lifting of a ban only where the member is listed; and without a command
in that room it does so only where bans are shared. -/
theorem moderation_warranted (h : Reachable w) :
    (∀ before activities room member reason result,
      .called before activities (.ban room member reason) result ∈ w.history →
        Warranted before activities "ban" room member false) ∧
    ∀ before activities room member result,
      .called before activities (.unban room member) result ∈ w.history →
        Warranted before activities "unban" room member true :=
  ⟨fun _ _ _ _ _ _ hmem => h.isWarranted _ hmem, fun _ _ _ _ _ hmem => h.isWarranted _ hmem⟩

end

section

attribute [local instance] Sample.surroundings

/-- A run in which a moderator bans in one of two rooms that share their bans: the bot asks for the
ban in the other one, and that is warranted. -/
theorem warranted_after_shared_ban :
    ∃ w : World, Reachable w ∧ ∃ before activities reason result,
      .called before activities (.ban Sample.attic Sample.mallory reason) result ∈ w.history ∧
        Warranted before activities "ban" Sample.attic Sample.mallory false := by
  let start : Happening := .start 0
  let batch : Happening := .batch ⟨"s1", .ofList [(Sample.lobby, [Sample.ban])], ∅, 0⟩
  let w₀ : World := World.initial (Bot.initial ⟨"@warden:x"⟩ (.inMemory Sample.config)) ()
  let w := (batch.run.run (start.run.run w₀).2).2
  have hreachable : Reachable w := ((Reachable.initial _ _ _).step start).step batch
  have hasked : w.history.any (·.ban? == some (Sample.attic, Sample.mallory)) = true := by
    decide +kernel
  refine ⟨w, hreachable, ?_⟩
  obtain ⟨o, ho, hban⟩ := List.any_eq_true.1 hasked
  cases o with
  | polled | answered | applied => cases hban
  | called before activities c result =>
    cases c with
    | ban room member reason =>
      obtain ⟨rfl, rfl⟩ := Prod.mk.inj (Option.some.inj (beq_iff_eq.1 hban))
      exact ⟨before, activities, reason, result, ho,
        (moderation_warranted hreachable).1 _ _ _ _ _ _ ho⟩
    | _ => cases hban

end

end RoomModeration
