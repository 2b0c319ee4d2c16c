import RoomModeration.Proofs.Feed
import RoomModeration.Proofs.Room.Meaning

/-!
# Targets stay in agreement

Where all targets list the same members, they still do so after any row of bans, departures, joins
and commands to ban or to unban, in whatever rooms, as long as the homeserver refuses no ban and no
lifting of one. Each of them is about one member: the records stay alike in what they say of others,
and of this member all targets say the same afterwards, because whoever disagrees is visited.

## Main definitions

* `RoomStore.Agrees` : all targets list the same members.
* `RoomStore.AlikeBut` : two stores are alike but for one member.
* `Moderates`, `Moderated` : what may happen.

## Main results

* `RoomStore.Agrees.carried` : carrying a sanction over leads to agreement.
* `agrees_of_moderated` : agreement lasts.
-/

namespace RoomModeration

open BotM RoomModeration.Bot

namespace RoomStore

/-- All targets list the same members. -/
def Agrees (s : RoomStore) : Prop :=
  ∀ r ∈ s.records, ∀ t ∈ s.records, r.isBanTarget = true → t.isBanTarget = true →
    ∀ member, r.lists member = t.lists member

/-- Every record of the second store is a record of the first one, but for what it says of one
member. -/
def AlikeBut (member : MemberId) (s s' : RoomStore) : Prop :=
  ∀ r' ∈ s'.records, ∃ r ∈ s.records, r.isBanTarget = r'.isBanTarget ∧
    ∀ m, m ≠ member → r.lists m = r'.lists m

variable {s s' s'' : RoomStore} {room : RoomId} {member : MemberId} {a : Sanction}

theorem AlikeBut.refl (member : MemberId) (s : RoomStore) : AlikeBut member s s :=
  fun r hr => ⟨r, hr, rfl, fun _ _ => rfl⟩

theorem AlikeBut.trans (h : AlikeBut member s s') (h' : AlikeBut member s' s'') :
    AlikeBut member s s'' := by
  intro r'' hr''
  obtain ⟨r', hr', htarget', hlists'⟩ := h' r'' hr''
  obtain ⟨r, hr, htarget, hlists⟩ := h r' hr'
  exact ⟨r, hr, htarget.trans htarget', fun m hm => (hlists m hm).trans (hlists' m hm)⟩

theorem alikeBut_modify (s : RoomStore) (room : RoomId) {f : RoomRecord → RoomRecord}
    (hf : ∀ r, (f r).id = r.id) (htarget : ∀ r, r.isBanTarget = (f r).isBanTarget)
    (hlists : ∀ r m, m ≠ member → r.lists m = (f r).lists m) :
    AlikeBut member s (s.modify room f hf) := by
  intro r' hr'
  rcases mem_records_modify hr' with hold | ⟨r, hr, rfl⟩
  · exact ⟨r', hold, rfl, fun _ _ => rfl⟩
  · exact ⟨r, mem_records_of_find? hr, htarget r, hlists r⟩

/-- A sanction is about its member only. -/
theorem alikeBut_onStore (s : RoomStore) (a : Sanction) : AlikeBut a.member s (a.onStore s) := by
  refine s.alikeBut_modify a.room _ (fun r => ?_) fun r m hm => ?_
  · simp [RoomRecord.isBanTarget, RoomRecord.syncsBans, RoomRecord.hasMode, RoomRecord.canBan]
  · rw [RoomRecord.lists_eq_isSome, RoomRecord.lists_eq_isSome, a.banned_onRecord,
      if_neg (Ne.symm hm)]

theorem alikeBut_sanctionAll (s : RoomStore) {l : List Sanction}
    (hl : ∀ a ∈ l, a.member = member) : AlikeBut member s (s.sanctionAll l) := by
  induction l generalizing s with
  | nil => exact .refl member s
  | cons a l ih =>
    obtain rfl := hl a List.mem_cons_self
    exact (s.alikeBut_onStore a).trans (ih _ fun b hb => hl b (List.mem_cons_of_mem _ hb))

/-- Targets that say of a member what targets of a store in agreement say of them agree. -/
theorem Agrees.lists_eq (h : s.Agrees) {r' t' : RoomRecord} {m : MemberId}
    (hr : ∃ r ∈ s.records, r.isBanTarget = r'.isBanTarget ∧ r.lists m = r'.lists m)
    (ht : ∃ t ∈ s.records, t.isBanTarget = t'.isBanTarget ∧ t.lists m = t'.lists m)
    (hrtarget : r'.isBanTarget = true) (httarget : t'.isBanTarget = true) :
    r'.lists m = t'.lists m := by
  obtain ⟨r, hr, hreq, hrlists⟩ := hr
  obtain ⟨t, ht, hteq, htlists⟩ := ht
  rw [← hrlists, ← htlists]
  exact h r hr t ht (hreq.trans hrtarget) (hteq.trans httarget) m

/-- Agreement lasts if afterwards all targets say the same of the one member. -/
theorem Agrees.of_alikeBut (h : s.Agrees) (halike : AlikeBut member s s') {b : Bool}
    (hsame : ∀ r ∈ s'.records, r.isBanTarget = true → r.lists member = b) : s'.Agrees := by
  intro r' hr' t' ht' hrtarget httarget m
  by_cases hm : m = member
  · rw [hm, hsame r' hr' hrtarget, hsame t' ht' httarget]
  · have hformer : ∀ v' ∈ s'.records, ∃ v ∈ s.records, v.isBanTarget = v'.isBanTarget ∧
        v.lists m = v'.lists m := by
      intro v' hv'
      obtain ⟨v, hv, htarget, hlists⟩ := halike v' hv'
      exact ⟨v, hv, htarget, hlists m hm⟩
    exact h.lists_eq (hformer r' hr') (hformer t' ht') hrtarget httarget

/-- Agreement lasts if nobody is listed or is not listed any more. -/
theorem Agrees.modify (h : s.Agrees) (room : RoomId) {f : RoomRecord → RoomRecord}
    (hf : ∀ r, (f r).id = r.id) (htarget : ∀ r, r.isBanTarget = (f r).isBanTarget)
    (hlists : ∀ r, s.find? room = some r → ∀ m, r.lists m = (f r).lists m) :
    (s.modify room f hf).Agrees := by
  intro r' hr' t' ht' hrtarget httarget m
  have hformer : ∀ v' ∈ (s.modify room f hf).records, ∃ v ∈ s.records,
      v.isBanTarget = v'.isBanTarget ∧ v.lists m = v'.lists m := by
    intro v' hv'
    rcases mem_records_modify hv' with hold | ⟨v, hv, rfl⟩
    · exact ⟨v', hold, rfl, rfl⟩
    · exact ⟨v, mem_records_of_find? hv, htarget v, hlists v hv m⟩
  exact h.lists_eq (hformer r' hr') (hformer t' ht') hrtarget httarget

/-! ### Carrying over -/

/-- After a sanction is carried over, all targets agree with it, if the one of its own room does. -/
theorem lists_sanctionAll_carried
    (hsource : ∀ r, s.find? a.room = some r → r.isBanTarget = true →
      r.lists a.member = a.reason?.isSome) :
    ∀ r ∈ (s.sanctionAll (a.carried s)).records, r.isBanTarget = true →
      r.lists a.member = a.reason?.isSome := by
  intro r' hr' htarget
  have hfind := find?_of_mem_records hr'
  rw [find?_sanctionAll, Option.map_eq_some_iff] at hfind
  obtain ⟨r, hr, heq⟩ := hfind
  obtain ⟨hmem, hid⟩ := find?_eq_some_iff.1 hr
  by_cases hvisited : ∃ b ∈ (a.carried s).filter (·.room = r'.id), b.member = a.member
  · obtain ⟨b, hb, hbmember⟩ := hvisited
    obtain ⟨c, hc, -, hbanned⟩ := r.exists_banned_sanctionAll hb hbmember
    rw [← heq, RoomRecord.lists_eq_isSome, hbanned,
      Sanction.reason?_of_mem_carried (List.mem_filter.1 hc).1]
  · have hsame : r'.lists a.member = r.lists a.member := by
      rw [← heq, RoomRecord.lists_eq_isSome, RoomRecord.lists_eq_isSome,
        r.banned_sanctionAll_of_forall_ne _ _ fun b hb h => hvisited ⟨b, hb, h⟩]
    have htarget' : r.isBanTarget = true := by
      rw [← heq, RoomRecord.sanctionAll_isBanTarget] at htarget
      exact htarget
    rw [hsame]
    by_contra hdisagrees
    -- A target that disagreed would have been visited.
    have hroom : r.id ≠ a.room := fun h => hdisagrees (hsource r (by rw [← h, hid, hr]) htarget')
    have hcarried : a.moveTo r.id ∈ a.carried s :=
      Sanction.mem_carried_iff.2 ⟨r, hmem, hroom, htarget', Bool.eq_not.2 hdisagrees, rfl⟩
    exact hvisited ⟨_, List.mem_filter.2 ⟨hcarried, decide_eq_true hid⟩, rfl⟩

/-- Carrying a sanction over leads to agreement. -/
theorem Agrees.carried (h : s.Agrees) (halike : AlikeBut a.member s s')
    (hsource : ∀ r, s'.find? a.room = some r → r.isBanTarget = true →
      r.lists a.member = a.reason?.isSome) : (s'.sanctionAll (a.carried s')).Agrees := by
  have hcarried : AlikeBut a.member s' (s'.sanctionAll (a.carried s')) :=
    s'.alikeBut_sanctionAll fun b hb => Sanction.member_of_mem_carried hb
  exact h.of_alikeBut (halike.trans hcarried) (lists_sanctionAll_carried hsource)

/-- A sanction that is given and carried over leads to agreement. -/
theorem Agrees.given (h : s.Agrees) (a : Sanction) :
    ((a.onStore s).sanctionAll (a.carried (a.onStore s))).Agrees := by
  refine h.carried (s.alikeBut_onStore a) fun r hr _ => ?_
  rw [Sanction.find?_onStore, if_pos rfl, Option.map_eq_some_iff] at hr
  obtain ⟨t, -, rfl⟩ := hr
  rw [RoomRecord.lists_eq_isSome, a.banned_onRecord, if_pos rfl]

/-- So does one that is carried over and is not due in its own room. -/
theorem Agrees.carried_of_not_due (h : s.Agrees) (hdue : ¬ a.Due s) :
    (s.sanctionAll (a.carried s)).Agrees := by
  refine h.carried (.refl a.member s) fun r hr htarget => ?_
  by_contra hlists
  exact hdue ⟨r, hr, RoomRecord.canBan_of_isBanTarget htarget, Bool.eq_not.2 hlists⟩

end RoomStore

/-! ### What may happen -/

/-- An event in a room that moderates it: someone other than the bot bans a member, or a member
leaves, is removed or is not banned any more by someone other than the bot; or a member whom the
room does not list joins; or an admin gives the command to ban or to unban. -/
inductive Moderates (b : Bot) (room : RoomId) (e : Event) : Prop
  | ban (content : MemberContent) (reads : e.memberContent = .content content)
      (word : content.membership = .ban) (foreign : e.sender ≠ b.selfId)
  | leave (content : MemberContent) (reads : e.memberContent = .content content)
      (word : content.membership = .leave) (foreign : e.sender ≠ b.selfId)
  | join (content : MemberContent) (reads : e.memberContent = .content content)
      (word : content.membership = .join) (unlisted : b.rooms.isBanned room e.subject = false)
  | banCommand (body : String) (member : MemberId) (reason : String)
      (reads : e.textBody? = some body) (heeds : b.Heeds room e.sender body (.ban member reason))
  | unbanCommand (body : String) (member : MemberId)
      (reads : e.textBody? = some body) (heeds : b.Heeds room e.sender body (.unban member))

section

variable [Surroundings] {w w' : World} {room : RoomId} {e : Event}

/-- A row of events that moderate rooms, delivered one by one, during which the homeserver refuses
no ban and no lifting of one. -/
inductive Moderated (w : World) : World → Prop
  | refl : Moderated w w
  | step {w' : World} (h : Moderated w w') (room : RoomId) (e : Event)
      (moderates : Moderates w'.bot room e)
      (accepted : ((applyRoom room [e]).run w').2.failedModerations = w'.failedModerations) :
      Moderated w ((applyRoom room [e]).run w').2

/-! ### Agreement lasts -/

theorem Series.rooms_eq_of_accepted {l : List (Sanction × Bool)} (h : Series w l w')
    (hok : w'.failedModerations = w.failedModerations) :
    w'.bot.rooms = w.bot.rooms.sanctionAll (l.map Prod.fst) := by
  rw [h.bot_eq, h.accepted_eq hok]

/-- A command to ban or to unban leads to agreement. -/
theorem Commanded.agrees {a : Sanction} {l : List (Sanction × Bool)}
    (hl : Commanded w.bot.rooms a l) (hseries : Series w l w')
    (hok : w'.failedModerations = w.failedModerations) (hagrees : w.bot.rooms.Agrees) :
    w'.bot.rooms.Agrees := by
  rw [hseries.rooms_eq_of_accepted hok]
  cases hl with
  | elsewhere notDue carried =>
    rw [carried]
    exact hagrees.carried_of_not_due notDue
  | everywhere due carried =>
    have hgiven := hagrees.given a
    rw [a.carried_onStore] at hgiven
    rw [carried]
    exact hgiven
  | refused due =>
    -- A refusal counts as one more failure.
    have hcount := hseries.failedModerations_eq
    rw [hok, List.countP_singleton] at hcount
    simp at hcount

/-- A command that is a series, and then speaking, leads to agreement. -/
theorem agrees_of_commanded {origin : CommandOrigin} {command : Command} {a : Sanction}
    (hhandle : ∃ l w₁, Commanded w.bot.rooms a l ∧ Series (origin.enter command w) l w₁ ∧
      Trace Speaking w₁
        ((handle command.handler origin command).run.run (origin.enter command w)).2)
    (hok : ((obey origin command).run w).2.failedModerations = w.failedModerations)
    (hagrees : w.bot.rooms.Agrees) : ((obey origin command).run w).2.bot.rooms.Agrees := by
  obtain ⟨l, w₁, hl, hseries, hspeaks⟩ := hhandle
  have hspoken := hspeaks.trans (obey_speaks origin command w)
  rw [hspoken.failedModerations_eq] at hok
  rw [hspoken.bot_eq]
  exact Commanded.agrees (w := origin.enter command w) hl hseries hok hagrees

/-- A change of membership that moderates leads to agreement. -/
theorem agrees_of_transition {t : Transition} {l : List (Sanction × Bool)}
    (ht : (∃ member moderator reason, t = .ban member moderator reason true) ∨
      (∃ member moderator, t = .unban member moderator ∧ moderator ≠ w.bot.selfId) ∨
      (∃ member, t = .leave member) ∨
      ∃ member, t = .join member ∧ w.bot.rooms.isBanned room member = false)
    (hseries : Series (w.withRooms (t.onStore room w.bot.rooms)) l w')
    (hl : l.map Prod.fst = t.carried w.bot.selfId room (t.onStore room w.bot.rooms))
    (hok : w'.failedModerations = w.failedModerations) (hagrees : w.bot.rooms.Agrees) :
    w'.bot.rooms.Agrees := by
  rw [hseries.rooms_eq_of_accepted hok, hl]
  obtain ⟨member, moderator, reason, rfl⟩ | ⟨member, moderator, rfl, hforeign⟩ | ⟨member, rfl⟩ |
    ⟨member, rfl, hunlisted⟩ := ht
  · exact hagrees.given ⟨room, member, some reason⟩
  · rw [Transition.carried, Transition.sanction?, if_pos hforeign]
    exact hagrees.given ⟨room, member, none⟩
  · exact hagrees.modify room (Transition.onRecord_id _) (fun _ => rfl) fun _ _ _ => rfl
  · refine hagrees.modify room (Transition.onRecord_id _) (fun _ => rfl) fun r hr m => ?_
    -- Whoever joins is not listed, and so nobody is struck off.
    have hno : r.lists member = false := by
      rw [RoomStore.isBanned, hr] at hunlisted
      exact hunlisted
    rw [RoomRecord.lists_eq_isSome, RoomRecord.lists_eq_isSome]
    by_cases hm : member = m
    · subst hm
      rw [← RoomRecord.lists_eq_isSome, hno]
      simp [Transition.onRecord, RoomRecord.join]
    · simp [Transition.onRecord, RoomRecord.join, Std.ExtTreeMap.getElem?_erase, hm]

/-- The change of membership that a moderating event means. -/
theorem Moderates.transition (h : Moderates w.bot room e) {t : Transition}
    (hmeaning : e.meaning w.bot.selfId w.bot.readyTs w.bot.rooms room = .membership t) :
    (∃ member moderator reason, t = .ban member moderator reason true) ∨
      (∃ member moderator, t = .unban member moderator ∧ moderator ≠ w.bot.selfId) ∨
      (∃ member, t = .leave member) ∨
      ∃ member, t = .join member ∧ w.bot.rooms.isBanned room member = false := by
  obtain ⟨-, htext, hcontent⟩ := Event.membership_of_meaning hmeaning
  -- What the content means, where it can be read.
  have hreads : ∀ {content : MemberContent}, e.memberContent = .content content →
      content.meaning w.bot.selfId w.bot.rooms room e.sender e.subject = .membership t := by
    intro content hread
    obtain ⟨hmalformed, -⟩ | ⟨content', hread', hmeans⟩ := hcontent
    · rw [hread] at hmalformed
      cases hmalformed
    · rw [hread] at hread'
      obtain rfl := ContentReading.content.inj hread'
      exact hmeans
  cases h with
  | ban content reads word foreign =>
    have hmeans := hreads reads
    rw [MemberContent.meaning, word] at hmeans
    obtain rfl := Meaning.membership.inj hmeans
    exact .inl ⟨e.subject, e.sender, _, by rw [bne_iff_ne.2 foreign]⟩
  | leave content reads word foreign =>
    have hmeans := hreads reads
    rw [MemberContent.meaning, word] at hmeans
    obtain rfl := Meaning.membership.inj hmeans
    split
    · exact .inr (.inl ⟨e.subject, e.sender, rfl, foreign⟩)
    · exact .inr (.inr (.inl ⟨e.subject, rfl⟩))
  | join content reads word unlisted =>
    have hmeans := hreads reads
    rw [MemberContent.meaning, word] at hmeans
    dsimp only at hmeans
    split at hmeans
    · cases hmeans
    · obtain rfl := Meaning.membership.inj hmeans
      exact .inr (.inr (.inr ⟨e.subject, rfl, unlisted⟩))
  | banCommand body _ _ reads | unbanCommand body _ reads =>
    rw [htext] at reads
    cases reads

/-- A moderating event leads to agreement. -/
theorem agrees_of_applyEvent (h : Moderates w.bot room e)
    (hok : ((applyEvent room e).run w).2.failedModerations = w.failedModerations)
    (hagrees : w.bot.rooms.Agrees) : ((applyEvent room e).run w).2.bot.rooms.Agrees := by
  cases applyEvent_cases room e w with
  | passed _ alike =>
    rw [alike.bot]
    exact hagrees
  | changed t meaning _ _ l series carried =>
    exact agrees_of_transition (h.transition meaning) series carried hok hagrees
  | message sender body meaning received =>
    obtain ⟨-, rfl, htext⟩ := Event.chat_of_meaning meaning
    cases received with
    | unheeded _ spoken =>
      rw [spoken.bot_eq]
      exact hagrees
    | heeded command heeds obeyed =>
      rw [obeyed] at hok ⊢
      cases h with
      | ban content reads | leave content reads | join content reads =>
        have hno := Event.textBody?_eq_none_of_isMembership (Event.isMembership_of_content reads)
        rw [htext] at hno
        cases hno
      | banCommand body' member reason reads heeds' =>
        rw [htext] at reads
        obtain rfl := Option.some.inj reads
        obtain rfl := heeds.eq heeds'
        have hhandle := handleBan_series ⟨room, e.sender⟩ member reason
          (CommandOrigin.enter ⟨room, e.sender⟩ (.ban member reason) w)
        exact agrees_of_commanded hhandle hok hagrees
      | unbanCommand body' member reads heeds' =>
        rw [htext] at reads
        obtain rfl := Option.some.inj reads
        obtain rfl := heeds.eq heeds'
        have hhandle := handleUnban_series ⟨room, e.sender⟩ member
          (CommandOrigin.enter ⟨room, e.sender⟩ (.unban member) w)
        exact agrees_of_commanded hhandle hok hagrees

/-- Where all targets list the same members, they still do after every row of moderating events. -/
theorem agrees_of_moderated (h : Moderated w w') (hagrees : w.bot.rooms.Agrees) :
    w'.bot.rooms.Agrees := by
  induction h with
  | refl => exact hagrees
  | @step w' _ room e moderates accepted ih =>
    obtain halike | hrun := applyRoom_cases room [e] w'
    · rw [halike.bot]
      exact ih
    · rw [hrun] at accepted ⊢
      exact agrees_of_applyEvent moderates accepted ih

end

section

attribute [local instance] Sample.surroundings

/-- Two rooms that share their bans agree before and after a moderator bans in one of them. -/
theorem agrees_after_shared_ban :
    let w := Sample.world
    let w' := ((applyRoom Sample.lobby [Sample.ban]).run w).2
    Moderated w w' ∧ w.bot.rooms.Agrees ∧ w'.bot.rooms.Agrees ∧
      w'.bot.rooms.isBanned Sample.attic Sample.mallory = true := by
  intro w w'
  have hmoderated : Moderated w w' :=
    .step .refl Sample.lobby Sample.ban (.ban ⟨.ban, some "spam", none⟩ rfl rfl (by decide))
      (by decide +kernel)
  have hagrees : w.bot.rooms.Agrees := by
    have hempty : ∀ r ∈ w.bot.rooms.records, ∀ member, r.lists member = false := by
      intro r hr member
      rcases List.mem_pair.1 hr with rfl | rfl
      · simp [RoomRecord.lists, RoomRecord.seeded]
      · simp [RoomRecord.lists, RoomRecord.seeded]
    intro r hr t ht _ _ member
    rw [hempty r hr, hempty t ht]
  exact ⟨hmoderated, hagrees, agrees_of_moderated hmoderated hagrees, by decide +kernel⟩

end

end RoomModeration
