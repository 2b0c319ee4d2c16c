import RoomModeration.Proofs.Room.Disjoint
import RoomModeration.Proofs.Room.Meaning

/-!
# What the bot does itself is not carried over again

The homeserver tells the bot of its own bans, too. Such an echo is not carried over, however many of
them come and in whatever order, and so bans do not wander to and fro between rooms. Moreover the
record shows a sanction as soon as the bot has given it, and so the echo changes nothing: the entry
is there already with the reason that the echo gives, or it is gone already, and in neither case is
the member present.

## Main definitions

* `SilentSince` : no sanction has been asked for since a point of the history.
* `Sanction.Settled`, `SettledSince` : a record shows a sanction, and all that were given since then
  show.
* `Event.Echoes` : an event is the echo of a sanction.
* `MayModerate` : the steps in which sanctions are given.

## Main results

* `silent_of_applyBatch` : nothing is asked for on account of what the bot has done itself.
* `settledSince_of_mayModerate` : what a step has given shows afterwards.
* `moderation_not_echoed` : both together, and echoes change nothing.
-/

namespace RoomModeration

open BotM RoomModeration.Bot

/-! ### Records that show a sanction -/

namespace RoomRecord

variable {r : RoomRecord} {member : MemberId} {reason : String}

/-- Nothing changes when someone leaves who is not present. -/
theorem leave_eq_self (h : r.members.contains member = false) : r.leave member = r := by
  have hmembers : r.members.erase member = r.members := by
    refine Std.ExtTreeSet.ext_contains fun m => ?_
    rw [Std.ExtTreeSet.contains_erase]
    by_cases hm : member = m
    · rw [← hm, h, Bool.and_false]
    · have hne : compare member m ≠ .eq := mt Std.compare_eq_iff_eq.1 hm
      rw [bne_iff_ne.2 hne, Bool.true_and]
  rw [leave, hmembers]

/-- Nothing changes when someone is banned who is banned for the same reason already. -/
theorem ban_eq_self (hbanned : r.banned[member]? = some reason)
    (hmembers : r.members.contains member = false) : r.ban member reason = r := by
  have hsame : r.banned.insert member reason = r.banned := by
    refine Std.ExtTreeMap.ext_getElem? fun m => ?_
    rw [Std.ExtTreeMap.getElem?_insert]
    split
    · next hm => rw [← Std.compare_eq_iff_eq.1 hm, hbanned]
    · rfl
  calc r.ban member reason = { r.leave member with banned := r.banned.insert member reason } := rfl
    _ = r := by rw [leave_eq_self hmembers, hsame]

end RoomRecord

/-- A sanction shows: the entry of the member in the record of the room is the one that the sanction
gives, and the member is not present. -/
def Sanction.Settled (s : RoomStore) (a : Sanction) : Prop :=
  ∃ r, s.find? a.room = some r ∧ r.banned[a.member]? = a.reason? ∧
    r.members.contains a.member = false

/-- Of sanctions in different places that are due, each one that is accepted shows afterwards. -/
theorem settled_sanctionAll {s : RoomStore} {l : List Sanction} {a : Sanction} (hd : s.Disjoint)
    (hplaces : (l.map Sanction.place).Nodup) (ha : a ∈ l) (hdue : a.Due s) :
    a.Settled (s.sanctionAll l) := by
  obtain ⟨r, hr, -, hlists⟩ := hdue
  have hmem : a ∈ l.filter (·.room = a.room) := List.mem_filter.2 ⟨ha, decide_eq_true rfl⟩
  refine ⟨r.sanctionAll (l.filter (·.room = a.room)), by rw [RoomStore.find?_sanctionAll, hr]; rfl,
    ?_, ?_⟩
  · obtain ⟨b, hb, hmember, hbanned⟩ := r.exists_banned_sanctionAll hmem rfl
    obtain ⟨hb, hroom⟩ := List.mem_filter.1 hb
    have hplace : b.place = a.place := Prod.ext (of_decide_eq_true hroom) hmember
    rw [hbanned, List.inj_on_of_nodup_map hplaces hb ha hplace]
  · rw [RoomRecord.members_sanctionAll]
    cases hreason : a.reason? with
    | some reason =>
      have hany : ((l.filter (·.room = a.room)).any fun b =>
          b.member == a.member && b.reason?.isSome) = true := by
        refine List.any_eq_true.2 ⟨a, hmem, ?_⟩
        rw [beq_self_eq_true, hreason]
        rfl
      rw [hany, Bool.not_true, Bool.and_false]
    | none =>
      -- Whoever is listed is not present.
      rw [hreason] at hlists
      have hgone : r.members.contains a.member = false := by
        by_contra hpresent
        rw [hd r (RoomStore.mem_records_of_find? hr) a.member (Bool.not_eq_false _ ▸ hpresent)]
          at hlists
        cases hlists
      rw [hgone, Bool.false_and]

theorem due_of_mem_carried {s : RoomStore} {a b : Sanction} (h : b ∈ a.carried s) : b.Due s := by
  obtain ⟨r, hmem, -, htarget, hlists, rfl⟩ := Sanction.mem_carried_iff.1 h
  exact ⟨r, RoomStore.find?_of_mem_records hmem, RoomRecord.canBan_of_isBanTarget htarget, hlists⟩

/-! ### Echoes -/

/-- An event is the echo of a sanction: the bot bans the member, with the reason unless it is empty,
or the member leaves on account of the bot. -/
structure Event.Echoes (e : Event) (selfId : MemberId) (a : Sanction) : Prop where
  sender : e.sender = selfId
  subject : e.subject = a.member
  content : ∃ content, e.memberContent = .content content ∧
    match a.reason? with
    | some reason =>
      content.membership = .ban ∧ content.reason = if reason = "" then none else some reason
    | none => content.membership = .leave

section

variable {e : Event} {selfId : MemberId} {readyTs : Timestamp} {store : RoomStore} {room : RoomId}
  {t : Transition} {a : Sanction}

/-- What the bot has done itself is not carried over. -/
theorem Event.sanction?_of_own (ht : e.meaning selfId readyTs store room = .membership t)
    (hsender : e.sender = selfId) : t.sanction? selfId room = none := by
  obtain ⟨-, -, ⟨-, rfl⟩ | ⟨content, -, hmeans⟩⟩ := Event.membership_of_meaning ht
  · rfl
  rw [hsender] at hmeans
  unfold MemberContent.meaning at hmeans
  split at hmeans
  · split at hmeans
    · cases hmeans
    · obtain rfl := Meaning.membership.inj hmeans
      rfl
  · obtain rfl := Meaning.membership.inj hmeans
    split
    · exact if_neg fun h => h rfl
    · rfl
  · obtain rfl := Meaning.membership.inj hmeans
    rw [bne_self_eq_false]
    rfl
  · obtain rfl := Meaning.membership.inj hmeans
    rfl

/-- The echo of a sanction that shows changes nothing. -/
theorem Event.Echoes.onStore_eq (h : e.Echoes selfId a) (hsettled : a.Settled store)
    (ht : e.meaning selfId readyTs store a.room = .membership t) :
    t.onStore a.room store = store := by
  obtain ⟨r, hr, hbanned, hmembers⟩ := hsettled
  obtain ⟨content, hcontent, hword⟩ := h.content
  obtain ⟨hfresh, -, -⟩ := Event.membership_of_meaning ht
  rw [Event.meaning_of_content hfresh hcontent, h.subject, MemberContent.meaning] at ht
  refine RoomStore.modify_eq_self fun r' hr' => ?_
  rw [hr] at hr'
  obtain rfl := Option.some.inj hr'
  cases hreason : a.reason? with
  | some reason =>
    rw [hreason] at hword hbanned
    rw [hword.1, hword.2] at ht
    obtain rfl := Meaning.membership.inj ht
    have hgetD : (if reason = "" then none else some reason).getD "" = reason := by
      split
      · next hempty => exact hempty.symm
      · rfl
    rw [hgetD]
    exact RoomRecord.ban_eq_self hbanned hmembers
  | none =>
    rw [hreason] at hword hbanned
    have hunlisted : store.isBanned a.room a.member = false := by
      rw [RoomStore.isBanned, hr, Option.any_some, RoomRecord.lists_eq_isSome, hbanned]
      rfl
    rw [hword, hunlisted] at ht
    obtain rfl := Meaning.membership.inj ht
    exact RoomRecord.leave_eq_self hmembers

end

/-! ### Silence -/

theorem Occurrence.sanction?_of_call?_eq_none {o : Occurrence} (h : o.call? = none) :
    o.sanction? = none := by
  cases o with
  | called => cases h
  | polled | answered | applied => rfl

theorem Occurrence.sanction?_of_isModeration_eq_false {before : Bot} {activities : List Activity}
    {c : Call} {result : Except ActionError c.Reply} (h : c.isModeration = false) :
    (called before activities c result).sanction? = none := by
  cases c with
  | ban | unban => cases h
  | _ => rfl

section

variable [Surroundings] {w w' v : World} {older : List Occurrence} {room : RoomId} {e : Event}
  {l : List (Sanction × Bool)} {a : Sanction}

/-- Since a point of the history no sanction has been asked for. -/
def SilentSince (older : List Occurrence) (w : World) : Prop :=
  ∃ new, w.history = new ++ older ∧ ∀ o ∈ new, o.sanction? = none

theorem SilentSince.refl (w : World) : SilentSince w.history w :=
  ⟨[], rfl, fun _ h => absurd h List.not_mem_nil⟩

/-- Upkeep is silent. -/
theorem preserves_silentSince (older : List Occurrence) : Upkeep.Preserves (SilentSince older) := by
  rintro w w' d hallows hleads ⟨new, hw, hsilent⟩
  cases hleads with
  | aside _ history | change _ _ history => exact ⟨new, history.trans hw, hsilent⟩
  | report o noCall _ history =>
    refine ⟨o :: new, by rw [history, hw]; rfl, List.forall_mem_cons.2 ⟨?_, hsilent⟩⟩
    exact Occurrence.sanction?_of_call?_eq_none noCall
  | call c result _ history =>
    refine ⟨_ :: new, by rw [history, hw]; rfl, List.forall_mem_cons.2 ⟨?_, hsilent⟩⟩
    exact Occurrence.sanction?_of_isModeration_eq_false hallows

/-- Who the bot is and that it has been silent is preserved by upkeep. -/
theorem preserves_selfId_silentSince (selfId : MemberId) (older : List Occurrence) :
    Upkeep.Preserves fun v => v.bot.selfId = selfId ∧ SilentSince older v := by
  rintro w w' d hallows hleads ⟨hself, hsilent⟩
  refine ⟨?_, preserves_silentSince older hallows hleads hsilent⟩
  cases hleads with
  | aside bot | report _ _ bot | call _ _ bot => rw [bot, hself]
  | change c bot => rw [bot, c.selfId_apply, hself]

/-- An event that the bot has sent itself shows, and that is all. -/
theorem applyEvent_of_own (hmembership : e.isMembership = true)
    (hsender : e.sender = w.bot.selfId) :
    Alike w ((applyEvent room e).run w).2 ∨
      ∃ t, e.meaning w.bot.selfId w.bot.readyTs w.bot.rooms room = .membership t ∧
        Alike (w.withRooms (t.onStore room w.bot.rooms)) ((applyEvent room e).run w).2 := by
  cases applyEvent_cases room e w with
  | passed _ alike => exact .inl alike
  | message sender body meaning =>
    obtain ⟨-, -, htext⟩ := Event.chat_of_meaning meaning
    rw [Event.textBody?_eq_none_of_isMembership hmembership] at htext
    cases htext
  | changed t meaning _ _ l series carried =>
    rw [Transition.carried, Event.sanction?_of_own meaning hsender] at carried
    obtain rfl := List.map_eq_nil_iff.1 carried
    cases series with
    | nil alike => exact .inr ⟨t, meaning, alike⟩

/-- On account of what the bot has done itself nothing is asked for. -/
theorem silent_of_applyBatch {batch : FeedBatch} {selfId : MemberId}
    (hown : ∀ entry ∈ batch.joined.toList, ∀ e ∈ entry.2,
      e.isMembership = true ∧ e.sender = selfId) (older : List Occurrence) :
    Keeps (fun v => v.bot.selfId = selfId ∧ SilentSince older v) (applyBatch batch) := by
  have hupkeep := preserves_selfId_silentSince selfId older
  have hroaming : Roaming.Preserves fun v => v.bot.selfId = selfId ∧ SilentSince older v :=
    hupkeep.within
  refine keeps_applyBatch hroaming.within batch (fun entry hentry e he => ?_)
    fun room _ => (does_handleLeft room).within.keeps hupkeep
  rintro w ⟨rfl, hsilent⟩
  obtain ⟨hmembership, hsender⟩ := hown entry hentry e he
  obtain halike | ⟨t, -, halike⟩ := applyEvent_of_own hmembership hsender
  · exact hupkeep.alike halike ⟨rfl, hsilent⟩
  · exact hupkeep.alike halike (hupkeep.trace (trace_onStore t entry.1 w).within ⟨rfl, hsilent⟩)

/-! ### What has been given shows -/

/-- All sanctions that have been given since a point of the history show. -/
def SettledSince (older : List Occurrence) (w : World) : Prop :=
  ∃ new, w.history = new ++ older ∧
    ∀ o ∈ new, ∀ a, o.sanction? = some (a, true) → a.Settled w.bot.rooms

theorem SilentSince.settledSince (h : SilentSince older w) : SettledSince older w := by
  obtain ⟨new, hw, hsilent⟩ := h
  refine ⟨new, hw, fun o ho a ha => ?_⟩
  rw [hsilent o ho] at ha
  cases ha

/-- Silence without a change of the records leaves everything settled. -/
theorem SettledSince.of_silentSince (h : SettledSince older w) (hsilent : SilentSince w.history w')
    (hrooms : w'.bot.rooms = w.bot.rooms) : SettledSince older w' := by
  obtain ⟨new, hw, hsettled⟩ := h
  obtain ⟨newer, hw', hquiet⟩ := hsilent
  refine ⟨newer ++ new, by rw [hw', hw, List.append_assoc], fun o ho a ha => ?_⟩
  rcases List.mem_append.1 ho with hnewer | hnew
  · rw [hquiet o hnewer] at ha
    cases ha
  · rw [hrooms]
    exact hsettled o hnew a ha

theorem Trace.settledSince (h : Trace Speaking w w') (hw : SettledSince older w) :
    SettledSince older w' := by
  refine hw.of_silentSince ((preserves_silentSince _).trace h.within (.refl w)) ?_
  rw [h.bot_eq]

/-- What a series of due sanctions in different places has given shows afterwards. -/
theorem Series.settledSince (h : Series w l w') (hd : w.bot.rooms.Disjoint)
    (hplaces : ((l.map Prod.fst).map Sanction.place).Nodup)
    (hdue : ∀ a ∈ l.map Prod.fst, a.Due w.bot.rooms) (hsilent : SilentSince older w) :
    SettledSince older w' := by
  cases hdry : w.bot.config.actions.dryRun with
  | true =>
    obtain ⟨new, hw, hquiet⟩ := hsilent
    exact SilentSince.settledSince ⟨new, (h.dry hdry).2.trans hw, hquiet⟩
  | false =>
    obtain ⟨made, hhistory, hmade⟩ := h.wet hdry
    obtain ⟨new, hw, hquiet⟩ := hsilent
    refine ⟨made.reverse ++ new, by rw [hhistory, hw, List.append_assoc], fun o ho a ha => ?_⟩
    rcases List.mem_append.1 ho with ho | ho
    · have hsome : some (a, true) ∈ l.map some := by
        rw [← hmade, ← ha]
        exact List.mem_map_of_mem (List.mem_reverse.1 ho)
      obtain ⟨p, hp, hpa⟩ := List.mem_map.1 hsome
      obtain rfl := Option.some.inj hpa
      have haccepted : a ∈ accepted l :=
        List.mem_map.2 ⟨(a, true), List.mem_filter.2 ⟨hp, rfl⟩, rfl⟩
      rw [h.bot_eq]
      refine settled_sanctionAll hd ?_ haccepted (hdue a ((accepted_sublist l).subset haccepted))
      exact hplaces.sublist ((accepted_sublist l).map _)
    · rw [hquiet o ho] at ha
      cases ha

/-- What carrying a sanction over has given shows afterwards. -/
theorem Series.settledSince_of_carried (h : Series w l w') (hd : w.bot.rooms.Disjoint)
    (hl : l.map Prod.fst = a.carried w.bot.rooms) (hsilent : SilentSince older w) :
    SettledSince older w' := by
  refine h.settledSince hd ?_ (fun b hb => due_of_mem_carried (hl ▸ hb)) hsilent
  rw [hl]
  exact (List.nodup_cons.1 (nodup_places_carried w.bot.rooms a)).2

/-- What a command has given shows afterwards. -/
theorem Commanded.settledSince (h : Commanded w.bot.rooms a l) (hseries : Series w l w')
    (hd : w.bot.rooms.Disjoint) (hsilent : SilentSince older w) : SettledSince older w' := by
  cases h with
  | elsewhere _ carried => exact hseries.settledSince_of_carried hd carried hsilent
  | everywhere due carried =>
    refine hseries.settledSince hd ?_ (fun b hb => ?_) hsilent
    · rw [carried]
      exact nodup_places_carried w.bot.rooms a
    · rw [carried] at hb
      rcases List.mem_cons.1 hb with rfl | hb
      · exact due
      · exact due_of_mem_carried hb
  | refused due =>
    refine hseries.settledSince hd (List.nodup_singleton _) (fun b hb => ?_) hsilent
    obtain rfl := List.mem_singleton.1 hb
    exact due

theorem settledSince_of_obey (origin : CommandOrigin) (command : Command)
    (hd : w.bot.rooms.Disjoint) : SettledSince w.history ((obey origin command).run w).2 := by
  refine (obey_speaks origin command w).settledSince ?_
  have henter : SilentSince w.history (origin.enter command w) := .refl w
  by_cases hban : command.handler = .ban
  · cases command with
    | ban member reason =>
      obtain ⟨l, w₁, hl, hseries, hspeaks⟩ :=
        handleBan_series origin member reason (origin.enter (.ban member reason) w)
      exact hspeaks.settledSince (hl.settledSince hseries hd henter)
    | _ => cases hban
  by_cases hunban : command.handler = .unban
  · cases command with
    | unban member =>
      obtain ⟨l, w₁, hl, hseries, hspeaks⟩ :=
        handleUnban_series origin member (origin.enter (.unban member) w)
      exact hspeaks.settledSince (hl.settledSince hseries hd henter)
    | _ => cases hunban
  have hhandle := (does_handle origin hban hunban).keeps (preserves_silentSince w.history)
  exact (hhandle _ henter).settledSince

theorem Received.settledSince {sender : MemberId} {body : String}
    (h : Received room sender body w w') (hd : w.bot.rooms.Disjoint) :
    SettledSince w.history w' := by
  cases h with
  | unheeded _ spoken => exact spoken.settledSince (SilentSince.refl w).settledSince
  | heeded command _ obeyed =>
    rw [obeyed]
    exact settledSince_of_obey _ command hd

/-- What an event has led to shows afterwards. -/
theorem settledSince_of_applyEvent (room : RoomId) (e : Event) (hd : w.bot.rooms.Disjoint) :
    SettledSince w.history ((applyEvent room e).run w).2 := by
  have hquiet : ∀ {v}, Alike w v → SettledSince w.history v := fun hv =>
    ((preserves_silentSince _).alike hv (.refl w)).settledSince
  cases applyEvent_cases room e w with
  | passed _ alike => exact hquiet alike
  | message sender body _ received => exact received.settledSince hd
  | changed t _ _ _ l series carried =>
    have hshown : Trace Upkeep w (w.withRooms (t.onStore room w.bot.rooms)) :=
      (trace_onStore t room w).within
    have hd' : (w.withRooms (t.onStore room w.bot.rooms)).bot.rooms.Disjoint :=
      (Permission.preserves_disjoint Upkeep).trace hshown hd
    have hsilent : SilentSince w.history (w.withRooms (t.onStore room w.bot.rooms)) :=
      (preserves_silentSince _).trace hshown (.refl w)
    rw [Transition.carried] at carried
    cases hsanction : t.sanction? w.bot.selfId room with
    | some a =>
      rw [hsanction] at carried
      exact series.settledSince_of_carried hd' carried hsilent
    | none =>
      rw [hsanction] at carried
      obtain rfl := List.map_eq_nil_iff.1 carried
      exact series.settledSince hd' List.nodup_nil (fun _ hb => absurd hb List.not_mem_nil) hsilent

/-- What a start has given shows afterwards. -/
theorem brings_start (readyTs : Timestamp) (older : List Occurrence) :
    Brings (fun v => v.bot.rooms.Disjoint ∧ SilentSince older v) (SettledSince older)
      (Bot.start readyTs) := by
  have hpreserves : Upkeep.Preserves fun v => v.bot.rooms.Disjoint ∧ SilentSince older v :=
    fun _ _ _ hd hleads hv => ⟨Permission.preserves_disjoint Upkeep hd hleads hv.1,
      preserves_silentSince older hd hleads hv.2⟩
  have hupkeep {α : Type} {step : BotM α} (hstep : Does Upkeep step) :
      Brings (fun v => v.bot.rooms.Disjoint ∧ SilentSince older v)
        (fun v => v.bot.rooms.Disjoint ∧ SilentSince older v) step :=
    hstep.keeps hpreserves
  have hleave : Brings (fun v => v.bot.rooms.Disjoint ∧ SilentSince older v)
      (fun v => v.bot.rooms.Disjoint ∧ SilentSince older v) leaveForeignRooms :=
    keeps_leaveForeignRooms hpreserves.undisturbed
      (hupkeep (.attempt "joined_rooms" fun _ => rfl))
      fun room => hupkeep (does_leaveRoom room).within
  have hreconcile : Brings (fun v => v.bot.rooms.Disjoint ∧ SilentSince older v)
      (SettledSince older) (discard reconcile) := by
    rintro v ⟨hd, hsilent⟩
    obtain ⟨l, hl, hmap, -⟩ := reconcile_series v
    refine hl.settledSince hd ?_ (fun a ha => ?_) hsilent
    · rw [hmap]
      exact nodup_map_place_missingBans v.bot.rooms
    · rw [hmap] at ha
      obtain ⟨missing, hmissing, rfl⟩ := List.mem_map.1 ha
      obtain ⟨r, hr, htarget, hlists, -⟩ := RoomStore.mem_missingBans_iff.1 hmissing
      exact ⟨r, hr, RoomRecord.canBan_of_isBanTarget htarget, hlists⟩
  refine .bind (hupkeep .getBot) fun bot => .bind (hupkeep (.note _)) fun _ => ?_
  refine .first_if hleave fun _ => ?_
  refine .bind (hupkeep .getConfig) fun config => .bind (hupkeep (does_joinEach _)) fun _ =>
    .bind (hupkeep .getConfig) fun _ => .bind (hupkeep (.note _)) fun _ => ?_
  -- What comes after the ban lists have been united leaves the records as they are.
  split
  · refine .bind hreconcile fun _ v hv => ?_
    exact hv.of_silentSince (.refl v) rfl
  · intro v hv
    exact hv.2.settledSince.of_silentSince (.refl v) rfl

/-- The steps in which sanctions are given: an event or a message is taken up, or the bot starts. -/
inductive MayModerate : BotM Unit → Prop
  | event (room : RoomId) (e : Event) : MayModerate (applyRoom room [e])
  | chat (room : RoomId) (sender : MemberId) (body : String) :
      MayModerate (discard (receiveChat room sender body))
  | start (readyTs : Timestamp) : MayModerate (Bot.start readyTs)

/-- What a step has given shows afterwards. -/
theorem settledSince_of_mayModerate {step : BotM Unit} (h : MayModerate step)
    (hd : w.bot.rooms.Disjoint) : SettledSince w.history (step.run w).2 := by
  cases h with
  | event room e =>
    obtain halike | hrun := applyRoom_cases room [e] w
    · exact ((preserves_silentSince _).alike halike (.refl w)).settledSince
    · rw [hrun]
      exact settledSince_of_applyEvent room e hd
  | chat room sender body => exact (receiveChat_cases room sender body w).settledSince hd
  | start readyTs => exact brings_start readyTs w.history w ⟨hd, .refl w⟩

/-! ### Echoes change nothing -/

/-- The bot has carried a sanction out between two worlds: the homeserver has accepted it. -/
def World.CarriesOut (w w' : World) (a : Sanction) : Prop :=
  ∃ new, w'.history = new ++ w.history ∧ ∃ o ∈ new, o.sanction? = some (a, true)

theorem SettledSince.settled_of_carriesOut (h : SettledSince w.history w')
    (ha : w.CarriesOut w' a) : a.Settled w'.bot.rooms := by
  obtain ⟨new, hnew, hsettled⟩ := h
  obtain ⟨new', hnew', o, ho, hsanction⟩ := ha
  have heq : new' = new := List.append_cancel_right (hnew'.symm.trans hnew)
  exact hsettled o (heq ▸ ho) a hsanction

/-- A sanction has been carried out if it is in the history and nothing was before. -/
theorem SettledSince.carriesOut_of_any (h : SettledSince w.history w')
    (hasked : w'.history.any (·.sanction? == some (a, true)) = true)
    (hsilent : w.history.all (·.sanction? == none) = true) : w.CarriesOut w' a := by
  obtain ⟨new, hnew, -⟩ := h
  obtain ⟨o, ho, hsanction⟩ := List.any_eq_true.1 hasked
  rw [hnew] at ho
  refine ⟨new, hnew, o, (List.mem_append.1 ho).resolve_right fun hold => ?_, beq_iff_eq.1 hsanction⟩
  have hnone := beq_iff_eq.1 (List.all_eq_true.1 hsilent o hold)
  rw [beq_iff_eq.1 hsanction] at hnone
  cases hnone

/-- A batch brings nothing but echoes of sanctions that a step has carried out. -/
structure FeedBatch.OnlyEchoes (batch : FeedBatch) (w w' : World) : Prop where
  left : batch.left.toList = []
  joined : ∀ entry ∈ batch.joined.toList, ∀ e ∈ entry.2,
    ∃ a : Sanction, a.room = entry.1 ∧ w.CarriesOut w' a ∧ e.Echoes w'.bot.selfId a

/-- Reading the feed leaves the bot who it is and the records as they are. -/
theorem preserves_selfId_rooms (selfId : MemberId) (store : RoomStore) :
    Reading.Preserves fun v => v.bot.selfId = selfId ∧ v.bot.rooms = store := by
  rintro w w' d hallows hleads hw
  cases hleads with
  | aside bot | report _ _ bot =>
    rw [bot]
    exact hw
  | call => exact hallows.elim
  | change c bot =>
    cases c with
    | cursorMoved =>
      rw [bot]
      exact hw
    | _ => exact hallows.elim

/-- The echo of a sanction that shows leaves all records as they are. -/
theorem rooms_eq_of_echo {selfId : MemberId} {store : RoomStore}
    (hmembership : e.isMembership = true)
    (hecho : e.Echoes selfId a) (hsettled : a.Settled store) :
    Keeps (fun v => v.bot.selfId = selfId ∧ v.bot.rooms = store) (applyEvent a.room e) := by
  rintro v ⟨rfl, rfl⟩
  obtain halike | ⟨t, ht, halike⟩ := applyEvent_of_own hmembership hecho.sender
  · rw [halike.bot]
    exact ⟨rfl, rfl⟩
  · rw [halike.bot]
    exact ⟨rfl, hecho.onStore_eq hsettled ht⟩

/-- In a run nothing is asked for on account of what the bot has done itself, whatever it was. And
if a step gives sanctions, their echoes leave all records as they are. -/
theorem moderation_not_echoed (h : Reachable w) :
    (∀ batches : List FeedBatch,
      (∀ batch ∈ batches, ∀ entry ∈ batch.joined.toList, ∀ e ∈ entry.2,
        e.isMembership = true ∧ e.sender = w.bot.selfId) →
      SilentSince w.history ((batches.forM applyBatch).run w).2) ∧
    ∀ step, MayModerate step → ∀ batches : List FeedBatch,
      (∀ batch ∈ batches, batch.OnlyEchoes w (step.run w).2) →
      ((batches.forM applyBatch).run (step.run w).2).2.bot.rooms = (step.run w).2.bot.rooms := by
  constructor
  · intro batches hown
    have hkeeps : Keeps (fun v => v.bot.selfId = w.bot.selfId ∧ SilentSince w.history v)
        (batches.forM applyBatch) :=
      .forM fun batch hbatch => silent_of_applyBatch (hown batch hbatch) w.history
    exact (hkeeps w ⟨rfl, .refl w⟩).2
  · intro step hstep batches hechoes
    have hsettled := settledSince_of_mayModerate hstep h.disjoint
    generalize (step.run w).2 = w' at hechoes hsettled
    have hkeeps : Keeps (fun v => v.bot.selfId = w'.bot.selfId ∧ v.bot.rooms = w'.bot.rooms)
        (batches.forM applyBatch) := by
      refine .forM fun batch hbatch => ?_
      have honly := hechoes batch hbatch
      refine keeps_applyBatch ?_ batch (fun entry hentry e he => ?_) fun room hroom => ?_
      · exact preserves_selfId_rooms _ _
      · obtain ⟨a, hroom, hcarried, hecho⟩ := honly.joined entry hentry e he
        rw [← hroom]
        obtain ⟨content, hcontent, -⟩ := hecho.content
        exact rooms_eq_of_echo (Event.isMembership_of_content hcontent) hecho
          (hsettled.settled_of_carriesOut hcarried)
      · rw [honly.left] at hroom
        cases hroom
    exact (hkeeps w' ⟨rfl, rfl⟩).2

end

section

attribute [local instance] Sample.surroundings

namespace Sample

/-- The world after the bot has started. -/
def started : World :=
  (World.initial (Bot.initial ⟨"@warden:x"⟩ (.inMemory config)) ()).after [.start 0]

/-- The ban that the bot repeats in the attic. -/
def repeated : Sanction :=
  ⟨attic, mallory, some "spam"⟩

/-- The homeserver tells of this ban. -/
def echoed : Event :=
  .membership ⟨"@warden:x"⟩ mallory .ban (some "spam") 2

/-- It tells of nothing else. -/
def echo : FeedBatch :=
  ⟨"s1", (∅ : RoomMap (List Event)).insert attic [echoed], ∅, 0⟩

theorem reachable_started : Reachable started :=
  (Reachable.initial _ _ _).after _

theorem onlyEchoes_echo {w w' : World} (hcarried : w.CarriesOut w' repeated)
    (hself : w'.bot.selfId = ⟨"@warden:x"⟩) : echo.OnlyEchoes w w' := by
  have hleft : echo.left.toList = [] := by decide +kernel
  refine ⟨hleft, fun entry hentry e he => ?_⟩
  rw [echo, Std.ExtTreeMap.mem_toList_iff_getElem?_eq_some, Std.ExtTreeMap.getElem?_insert]
    at hentry
  split at hentry
  · next hroom =>
    rw [← Option.some.inj hentry] at he
    obtain rfl := List.mem_singleton.1 he
    have hsubject : echoed.subject = mallory := by decide +kernel
    have hcontent : echoed.memberContent = .content ⟨.ban, some "spam", none⟩ := by decide +kernel
    exact ⟨repeated, Std.compare_eq_iff_eq.1 hroom, hcarried, hself.symm, hsubject, _, hcontent,
      rfl, rfl⟩
  · rw [Std.ExtTreeMap.getElem?_empty] at hentry
    cases hentry

end Sample

/-- A moderator bans in one of two rooms that share their bans, and the bot repeats the ban in the
other one. The echo of this leaves all records as they are. -/
theorem rooms_after_echo :
    let step : BotM Unit := applyRoom Sample.lobby [Sample.ban]
    Reachable Sample.started ∧
      Sample.started.CarriesOut (step.run Sample.started).2 Sample.repeated ∧
      (([Sample.echo].forM applyBatch).run (step.run Sample.started).2).2.bot.rooms =
        (step.run Sample.started).2.bot.rooms := by
  intro step
  have hstep : MayModerate step := .event Sample.lobby Sample.ban
  have hcarried : Sample.started.CarriesOut (step.run Sample.started).2 Sample.repeated :=
    (settledSince_of_mayModerate hstep Sample.reachable_started.disjoint).carriesOut_of_any
      (by decide +kernel) (by decide +kernel)
  have hself : (step.run Sample.started).2.bot.selfId = ⟨"@warden:x"⟩ := by decide +kernel
  have honly : ∀ batch ∈ [Sample.echo],
      batch.OnlyEchoes Sample.started (step.run Sample.started).2 := by
    intro batch hbatch
    rw [List.mem_singleton.1 hbatch]
    exact Sample.onlyEchoes_echo hcarried hself
  exact ⟨Sample.reachable_started, hcarried,
    (moderation_not_echoed Sample.reachable_started).2 step hstep [Sample.echo] honly⟩

end

end RoomModeration
