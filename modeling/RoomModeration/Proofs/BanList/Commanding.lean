import RoomModeration.Proofs.BanList.Propagation
import RoomModeration.Proofs.Room.Joining

/-!
# Commands act everywhere or tell the truth

A command to ban a member, or to lift a ban, is given in one room. If the record of that room allows
for it and does not agree yet, the homeserver is asked for it there first, and if it refuses, that
is all that happens. Otherwise the sanction is carried over to all other targets that do not agree
yet, of which those that refuse are passed over. In the end each room whose record has changed is
told of in one reply, or it is told in one reply that there was none.

Where the homeserver refuses none of it, all targets agree with the sanction afterwards, and so does
the room of the command if the bot can ban there. To lift a ban that was given in the same room
leaves nothing of it behind and touches nobody else.

Nothing is assumed about the records, about the room of the command, which may be tracked or not and
a target or not, or about what the homeserver answers. That some posts fail is no exception: the
replies are those above up to the first one that is refused.

## Main definitions

* `Named`, `Posted` : asking for the names of rooms, and replying.
* `CarriedOut` : what a command changes.
* `Sanction.OwnFirst` : which sanctions a command asks for.
* `Obeyed` : what a command comes to, with what is asked for and what is replied.
* `Prevails`, `Undone` : what is achieved where nothing is refused.

## Main results

* `obeyed_execute` : what carrying out a command comes to.
* `Obeyed.prevails` : where nothing is refused, the sanction prevails.
* `commands_obeyed` : commands act everywhere or tell the truth.
-/

namespace RoomModeration

open BotM RoomModeration.Bot

/-- The names of some rooms are asked for, one after the other. Where a name is not told, the
identifier of the room stands for it. -/
inductive Named (b : Bot) (activities : List Activity) :
    List RoomId → List Occurrence → List String → Prop
  | nil : Named b activities [] [] []
  | told (room : RoomId) (name : String) {rooms : List RoomId} {made : List Occurrence}
      {names : List String} (rest : Named b activities rooms made names) :
      Named b activities (room :: rooms)
        (.called b activities (.displayName room) (.ok name) :: made) (name :: names)
  | untold (room : RoomId) (e : ActionError) {rooms : List RoomId} {made : List Occurrence}
      {names : List String} (rest : Named b activities rooms made names) :
      Named b activities (room :: rooms)
        (.called b activities (.displayName room) (.error e) :: made) (room.text :: names)

/-- Some texts are posted in a room, one after the other, until the homeserver refuses one of
them. -/
inductive Posted (b : Bot) (activities : List Activity) (room : RoomId) :
    List String → List Occurrence → Except HandlerError Unit → Prop
  | nil : Posted b activities room [] [] (.ok ())
  | posted (text : String) (reply : (Call.send room (.plain text)).Reply) {texts : List String}
      {made : List Occurrence} {result : Except HandlerError Unit}
      (rest : Posted b activities room texts made result) :
      Posted b activities room (text :: texts)
        (.called b activities (.send room (.plain text)) (.ok reply) :: made) result
  | refused (text : String) (texts : List String) (e : ActionError) :
      Posted b activities room (text :: texts)
        [.called b activities (.send room (.plain text)) (.error e)] (.error (.action e))

/-- What a command changes: the rooms that are asked, those of them whose records change, and the
calls that are made, in order. -/
structure CarriedOut (b : Bot) (a : Sanction) (asked changed : List RoomId)
    (given : List Occurrence) (b' : Bot) : Prop where
  nodup : asked.Nodup
  mem_asked_iff : ∀ room, room ∈ asked ↔
    room = a.room ∧ a.Due b.rooms ∨ a.Targets b.rooms room
  /-- The room of the command is asked first, if it is asked at all. -/
  first : asked.head? = some a.room ↔ a.Due b.rooms
  own : a.Due b.rooms → a.room ∈ changed
  repeated : Repeated b a asked changed given b'
  mem_changed_iff : ∀ room, room ∈ changed ↔ b'.rooms.find? room ≠ b.rooms.find? room

variable [Surroundings] {w w' : World} {a : Sanction} {result : Except HandlerError Unit}

/-- What a command comes to. -/
inductive Obeyed (w : World) (a : Sanction) (w' : World) : Except HandlerError Unit → Prop
  /-- The homeserver refuses it in its own room; no other room is asked, and nothing changes. -/
  | refused (due : a.Due w.bot.rooms) (e : ActionError) (bot : w'.bot = w.bot)
      (history : w'.history = .called w.bot w.activities a.call (.error e) :: w.history) :
      Obeyed w a w' (.error (.action e))
  /-- It is carried out. Then the names of the rooms whose records have changed are asked for, and
  there is one reply for each of these rooms, or one reply if there are none. -/
  | done {asked changed : List RoomId} {given named posted : List Occurrence} {names : List String}
      {result : Except HandlerError Unit}
      (history : w'.history = (given ++ named ++ posted).reverse ++ w.history)
      (carried : CarriedOut w.bot a asked changed given w'.bot)
      (named : Named w'.bot w.activities changed named names)
      (posted : Posted w'.bot w.activities a.room
        (if changed.isEmpty then [a.nowhere]
          else names.map fun name => s!"{a.verb} {a.member.text} in {name}") posted result) :
      Obeyed w a w' result

/-- A sanction prevails: all targets agree with it, the room of the command does if the bot can ban
there, and whichever records agreed before are as they were. -/
structure Prevails (a : Sanction) (s s' : RoomStore) : Prop where
  targets : ∀ room r, s'.find? room = some r → r.isBanTarget = true →
    r.lists a.member = a.reason?.isSome
  own : ∀ r, s'.find? a.room = some r → r.canBan = true → r.lists a.member = a.reason?.isSome
  kept : ∀ room r, s.find? room = some r → r.lists a.member = a.reason?.isSome →
    s'.find? room = some r

/-- A ban that was given in a room is undone: no target lists the member, nor does the room if the
bot can ban there, and what the records say of anybody else is what they said before. -/
structure Undone (room : RoomId) (member : MemberId) (s s' : RoomStore) : Prop where
  targets : ∀ other r, s'.find? other = some r → r.isBanTarget = true → r.lists member = false
  own : ∀ r, s'.find? room = some r → r.canBan = true → r.lists member = false
  others : ∀ other room, other ≠ member →
    (s'.find? room).map (fun r => (r.banned[other]?, r.members.contains other)) =
      (s.find? room).map fun r => (r.banned[other]?, r.members.contains other)

/-! ### Telling -/

/-- Some occurrences are added to the history, and nothing else that matters changes. -/
structure Said (w : World) (made : List Occurrence) (w' : World) : Prop extends Adds w made w' where
  bot : w'.bot = w.bot

theorem Said.of_alike (h : Alike w w') : Said w [] w' :=
  ⟨.of_alike h, h.bot⟩

theorem Called.said {c : Call} {answer : Except ActionError c.Reply} (h : Called c w w' answer) :
    Said w [.called w.bot w.activities c answer] w' :=
  ⟨h.adds, h.bot⟩

theorem Said.trans {w₁ : World} {made made' : List Occurrence} (h : Said w made w₁)
    (h' : Said w₁ made' w') : Said w (made ++ made') w' :=
  ⟨h.toAdds.trans h'.toAdds, h'.bot.trans h.bot⟩

omit [Surroundings] in
/-- What one more name adds to the names of different rooms. -/
private theorem map_insertIfNew {names : RoomMap String} {room : RoomId} {rest : List RoomId}
    (hnone : ∀ other, other ∉ rest → names[other]? = none) (hroom : room ∉ rest) (name : String) :
    (room :: rest).map (fun other => (names.insertIfNew room name)[other]?.getD other.text) =
      name :: rest.map fun other => names[other]?.getD other.text := by
  have hmem : room ∉ names := by
    rw [Std.ExtTreeMap.mem_iff_isSome_getElem?, hnone room hroom]
    simp
  rw [List.map_cons, List.cons_eq_cons, List.map_inj_left]
  constructor
  · simp [Std.ExtTreeMap.getElem_insertIfNew, hmem]
  · intro other hother
    have hne : room ≠ other := fun h => hroom (h ▸ hother)
    simp [Std.ExtTreeMap.getElem?_insertIfNew, hne]

theorem named_displayNames (rooms : List RoomId) (w : World) :
    ∃ made names, Named w.bot w.activities rooms made names ∧
      Said w made ((displayNames rooms).run w).2 ∧
      (∀ other, other ∉ rooms → ((displayNames rooms).run w).1[other]? = none) ∧
      (rooms.Nodup →
        rooms.map (fun room => ((displayNames rooms).run w).1[room]?.getD room.text) = names) := by
  induction rooms generalizing w with
  | nil => exact ⟨[], [], .nil, .of_alike (.refl w), fun _ _ => rfl, fun _ => rfl⟩
  | cons room rest ih =>
    have hcall := called_attempt "room_name" (.displayName room) w
    simp only [displayNames, displayName, run_bind]
    rcases hrun : (attempt "room_name" (.displayName room)).run.run w with ⟨answer, v⟩
    rw [hrun] at hcall
    obtain ⟨made, names, hnamed, hsaid, hnone, hmap⟩ := ih v
    rw [hcall.bot, hcall.activities] at hnamed
    have hnone' : ∀ name other, other ∉ room :: rest →
        (((displayNames rest).run v).1.insertIfNew room name)[other]? = none := by
      intro name other hother
      obtain ⟨hne, hrest⟩ := not_or.1 (mt List.mem_cons.2 hother)
      simp [Std.ExtTreeMap.getElem?_insertIfNew, Ne.symm hne, hnone other hrest]
    have hmap' : ∀ name : String, (room :: rest).Nodup → (room :: rest).map (fun other =>
        (((displayNames rest).run v).1.insertIfNew room name)[other]?.getD other.text) =
          name :: names := by
      intro name hnodup
      obtain ⟨hroom, hrest⟩ := List.nodup_cons.1 hnodup
      rw [map_insertIfNew hnone hroom, hmap hrest]
    cases answer with
    | ok name =>
      exact ⟨_, _, .told room name hnamed, hcall.said.trans hsaid, hnone' name, hmap' name⟩
    | error e =>
      exact ⟨_, _, .untold room e hnamed, hcall.said.trans hsaid, hnone' room.text,
        hmap' room.text⟩

/-- Replying once and going on comes to posting one text more. -/
theorem posted_reply (origin : CommandOrigin) (text : String) {texts : List String}
    (rest : HandlerM Unit) (hrest : ∀ v : World, ∃ made,
      Posted v.bot v.activities origin.room texts made (rest.run.run v).1 ∧
        Said v made (rest.run.run v).2) (w : World) :
    let step := reply origin text >>= fun _ => rest
    ∃ made, Posted w.bot w.activities origin.room (text :: texts) made (step.run.run w).1 ∧
      Said w made (step.run.run w).2 := by
  obtain ⟨answer, hcalled, hresult⟩ := called_reply origin text w
  dsimp only
  rw [run_bind_except]
  rcases hrun : (reply origin text).run.run w with ⟨given, v⟩
  rw [hrun] at hcalled hresult
  dsimp only at hcalled hresult
  subst hresult
  cases answer with
  | error e => exact ⟨_, .refused text texts e, hcalled.said⟩
  | ok sent =>
    obtain ⟨made, hposted, hsaid⟩ := hrest v
    rw [hcalled.bot, hcalled.activities] at hposted
    exact ⟨_, .posted text sent hposted, hcalled.said.trans hsaid⟩

theorem posted_report (origin : CommandOrigin) (verb : String) (member : MemberId)
    (names : RoomMap String) (rooms : List RoomId) (w : World) :
    ∃ made, Posted w.bot w.activities origin.room
        (rooms.map fun room => s!"{verb} {member.text} in {names[room]?.getD room.text}") made
        ((report origin verb member names rooms).run.run w).1 ∧
      Said w made ((report origin verb member names rooms).run.run w).2 := by
  induction rooms generalizing w with
  | nil => exact ⟨[], .nil, .of_alike (.refl w)⟩
  | cons room rest ih => exact posted_reply origin _ _ ih w

/-- Telling where a sanction was given comes to asking for the names of the rooms and to one reply
for each of them, or to one reply if there are none. -/
theorem posted_tell (origin : CommandOrigin) (a : Sanction) {rooms : List RoomId}
    (hnodup : rooms.Nodup) (w : World) :
    ∃ named names posted, Named w.bot w.activities rooms named names ∧
      Posted w.bot w.activities origin.room (if rooms.isEmpty then [a.nowhere]
        else names.map fun name => s!"{a.verb} {a.member.text} in {name}") posted
        ((a.tell origin rooms).run.run w).1 ∧
      Said w (named ++ posted) ((a.tell origin rooms).run.run w).2 := by
  have hnoted : Said w [] ((note (a.notice origin.sender rooms.length)).run w).2 :=
    .of_alike (quiet_note _ w)
  unfold Sanction.tell
  rw [run_bind_except, run_lift]
  dsimp only
  generalize ((note (a.notice origin.sender rooms.length)).run w).2 = v at hnoted
  cases rooms with
  | nil =>
    obtain ⟨made, hposted, hsaid⟩ := posted_reply origin a.nowhere (pure ())
      (fun v => ⟨[], .nil, .of_alike (.refl v)⟩) v
    rw [hnoted.bot, hnoted.activities, bind_pure] at hposted
    rw [bind_pure] at hsaid
    exact ⟨[], [], made, .nil, hposted, hnoted.trans hsaid⟩
  | cons room rest =>
    obtain ⟨named, names, hnamed, hasked, -, hmap⟩ := named_displayNames (room :: rest) v
    obtain ⟨posted, hposted, hsaid⟩ := posted_report origin a.verb a.member
      ((displayNames (room :: rest)).run v).1 (room :: rest) ((displayNames (room :: rest)).run v).2
    rw [hasked.bot, hasked.activities, hnoted.bot, hnoted.activities] at hposted
    rw [hnoted.bot, hnoted.activities] at hnamed
    refine ⟨named, names, posted, hnamed, ?_, hnoted.trans (hasked.trans hsaid)⟩
    rw [← hmap hnodup, List.map_map]
    exact hposted

/-! ### Carrying out -/

namespace Sanction

/-- The sanctions that a command asks for, in order: the one that is commanded, if it is due, and
those by which it is carried over. -/
inductive OwnFirst (s : RoomStore) (a : Sanction) : List Sanction → Prop
  | due (due : a.Due s) : OwnFirst s a (a :: a.carried s)
  | notDue (notDue : ¬ a.Due s) : OwnFirst s a (a.carried s)

namespace OwnFirst

variable {s : RoomStore} {l : List Sanction} {room : RoomId}

omit [Surroundings] in
theorem nodup_rooms (h : OwnFirst s a l) : (l.map (·.room)).Nodup := by
  have hall := nodup_rooms_carried s a
  cases h with
  | due => exact hall
  | notDue => exact (List.nodup_cons.1 hall).2

omit [Surroundings] in
theorem mem_rooms_iff (h : OwnFirst s a l) :
    room ∈ l.map (·.room) ↔ room = a.room ∧ a.Due s ∨ a.Targets s room := by
  cases h with
  | due hdue => rw [List.map_cons, List.mem_cons, mem_rooms_carried_iff, and_iff_left hdue]
  | notDue hdue => simp only [mem_rooms_carried_iff, hdue, and_false, false_or]

omit [Surroundings] in
theorem head?_rooms_iff (h : OwnFirst s a l) :
    (l.map (·.room)).head? = some a.room ↔ a.Due s := by
  cases h with
  | due hdue => exact iff_of_true rfl hdue
  | notDue hdue =>
    refine iff_of_false (fun hhead => ?_) hdue
    exact (mem_rooms_carried_iff.1 (List.mem_of_head? hhead)).1 rfl

omit [Surroundings] in
theorem eq_moveTo {b : Sanction} (h : OwnFirst s a l) (hb : b ∈ l) : b = a.moveTo b.room := by
  cases h with
  | due =>
    rcases List.mem_cons.1 hb with rfl | hb
    · rfl
    · exact eq_moveTo_of_mem_carried hb
  | notDue => exact eq_moveTo_of_mem_carried hb

omit [Surroundings] in
/-- Whatever is asked has a record that does not agree yet. -/
theorem exists_record (h : OwnFirst s a l) (hroom : room ∈ l.map (·.room)) :
    ∃ r, s.find? room = some r ∧ r.lists a.member = !a.reason?.isSome := by
  rcases h.mem_rooms_iff.1 hroom with ⟨rfl, r, hr, -, hlists⟩ | ⟨-, r, hr, -, hlists⟩
  · exact ⟨r, hr, hlists⟩
  · exact ⟨r, hr, hlists⟩

end OwnFirst

end Sanction

/-- A series that gives a sanction in its own room, if it is due there, and then carries it over
carries it out. -/
theorem Series.carriedOut {l : List (Sanction × Bool)} (h : Series w l w')
    (hl : Sanction.OwnFirst w.bot.rooms a (l.map Prod.fst))
    (haccepted : a.Due w.bot.rooms → (a, true) ∈ l) :
    ∃ given, w'.history = given.reverse ++ w.history ∧
      CarriedOut w.bot a (l.map (·.1.room)) ((accepted l).map (·.room)) given w'.bot := by
  have hrooms : l.map (·.1.room) = (l.map Prod.fst).map (·.room) := by
    rw [List.map_map]
    rfl
  have hnodup : (l.map (·.1.room)).Nodup := hrooms ▸ hl.nodup_rooms
  have hgiven : ∀ p ∈ l, p.1 = a.moveTo p.1.room ∧ ∃ r, w.bot.rooms.find? p.1.room = some r := by
    intro p hp
    have hmem : p.1 ∈ l.map Prod.fst := List.mem_map_of_mem hp
    obtain ⟨r, hr, -⟩ := hl.exists_record (List.mem_map_of_mem hmem)
    exact ⟨hl.eq_moveTo hmem, r, hr⟩
  obtain ⟨given, hhistory, hrepeated⟩ := h.repeated hgiven hnodup
  refine ⟨given, hhistory, hnodup, fun room => ?_, ?_, fun hdue => ?_, hrepeated,
    fun room => ⟨fun hroom heq => ?_, fun hne => ?_⟩⟩
  · rw [hrooms, hl.mem_rooms_iff]
  · rw [hrooms, hl.head?_rooms_iff]
  · exact List.mem_map_of_mem (List.mem_map_of_mem (List.mem_filter.2 ⟨haccepted hdue, rfl⟩))
  · -- A record that has been changed agrees now and did not agree before.
    obtain ⟨r, r', hr, hr', hshows⟩ := hrepeated.changed room hroom
    obtain ⟨t, ht, hlists⟩ := hl.exists_record (hrooms ▸ hrepeated.sublist.subset hroom)
    rw [hr', hr] at heq
    rw [hr] at ht
    obtain rfl := Option.some.inj heq
    obtain rfl := Option.some.inj ht
    rw [hshows.lists, Bool.eq_not_self] at hlists
    exact hlists
  · exact by_contra fun hroom => hne (hrepeated.unchanged room hroom)

/-- What carrying out a command comes to. -/
theorem obeyed_execute (origin : CommandOrigin) (a : Sanction) (hroom : a.room = origin.room)
    (w : World) :
    Obeyed w a ((execute origin a.toCommand).run.run w).2
      ((execute origin a.toCommand).run.run w).1 := by
  obtain ⟨answer, v, hordered, hrun⟩ := ordered_handle origin a hroom w
  have hexecute : (execute origin a.toCommand).run.run w =
      (((handle a.toCommand.handler origin a.toCommand).run.run w).1,
        ((count (.commands a.toCommand.name)).run
          ((handle a.toCommand.handler origin a.toCommand).run.run w).2).2) := rfl
  rw [hexecute, hrun]
  have hdone : ∀ {l : List (Sanction × Bool)}, Series w l v →
      Sanction.OwnFirst w.bot.rooms a (l.map Prod.fst) → (a.Due w.bot.rooms → (a, true) ∈ l) →
      let told := (a.tell origin ((accepted l).map (·.room))).run.run v
      Obeyed w a ((count (.commands a.toCommand.name)).run told.2).2 told.1 := by
    intro l hseries hl haccepted told
    obtain ⟨given, hhistory, hcarried⟩ := hseries.carriedOut hl haccepted
    obtain ⟨named, names, posted, hnamed, hposted, hsaid⟩ :=
      posted_tell origin a (hcarried.nodup.sublist hcarried.repeated.sublist) v
    have hcounted := hsaid.trans (.of_alike (quiet_count (.commands a.toCommand.name) told.2))
    rw [hseries.activities_eq, ← hcounted.bot] at hnamed hposted
    rw [← hcounted.bot] at hcarried
    rw [← hroom] at hposted
    refine .done ?_ hcarried hnamed hposted
    rw [hcounted.history, hhistory]
    simp
  cases hordered with
  | refused due given e history => exact .refused due e given.bot history
  | elsewhere notDue series carried =>
    exact hdone series (carried ▸ .notDue notDue) fun due => absurd due notDue
  | everywhere due series carried =>
    refine hdone series ?_ fun _ => List.mem_cons_self
    rw [List.map_cons, carried]
    exact .due due

/-! ### Where nothing is refused -/

namespace Obeyed

/-- A command only adds to the history. -/
theorem failedModerations_le (h : Obeyed w a w' result) :
    w.failedModerations ≤ w'.failedModerations := by
  have hsuffix : w.history <:+ w'.history := by
    cases h with
    | refused _ _ _ history => exact history ▸ List.suffix_cons _ _
    | done history => exact history ▸ List.suffix_append _ _
  exact hsuffix.sublist.countP_le

/-- Where nothing is refused, the sanction prevails. -/
theorem prevails (h : Obeyed w a w' result) (hok : w'.failedModerations = w.failedModerations) :
    Prevails a w.bot.rooms w'.bot.rooms := by
  cases h with
  | refused due e bot history =>
    have hfailed : Occurrence.isFailedModeration
        (.called w.bot w.activities a.call (.error e)) = true :=
      Occurrence.isFailedModeration_eq (Occurrence.sanction?_called ..)
    rw [World.failedModerations, World.failedModerations, history,
      List.countP_cons_of_pos hfailed] at hok
    omega
  | @done asked changed given named posted names _ history carried =>
    have hgiven : ∀ o ∈ given, o.isFailedModeration = false := by
      rw [World.failedModerations, World.failedModerations, history] at hok
      have hcount : given.countP Occurrence.isFailedModeration = 0 := by
        simp only [List.reverse_append, List.append_assoc, List.countP_append,
          List.countP_reverse] at hok
        omega
      intro o ho
      simpa using List.countP_eq_zero.1 hcount o ho
    -- What was not asked is as it was, and was in no need of being asked.
    have hrest : ∀ room r', w'.bot.rooms.find? room = some r' →
        (room = a.room ∧ r'.canBan = true ∨ room ≠ a.room ∧ r'.isBanTarget = true) →
        r'.lists a.member = a.reason?.isSome := by
      intro room r' hr' hroom
      by_cases hasked : room ∈ asked
      · obtain ⟨r, t, -, ht, hshows⟩ :=
          carried.repeated.changed room (carried.repeated.mem_applied hgiven hasked)
        rw [hr'] at ht
        obtain rfl := Option.some.inj ht
        exact hshows.lists
      · have hr := hr'
        rw [carried.repeated.unchanged room fun hc =>
          hasked (carried.repeated.sublist.subset hc)] at hr
        by_contra hlists
        rw [← ne_eq, ← Bool.eq_not] at hlists
        refine hasked ((carried.mem_asked_iff room).2 ?_)
        rcases hroom with ⟨rfl, hcan⟩ | ⟨hne, htarget⟩
        · exact .inl ⟨rfl, r', hr, hcan, hlists⟩
        · exact .inr ⟨hne, r', hr, htarget, hlists⟩
    refine ⟨fun room r' hr' htarget => hrest room r' hr' ?_,
      fun r' hr' hcan => hrest a.room r' hr' (.inl ⟨rfl, hcan⟩), fun room r hr hlists => ?_⟩
    · by_cases hroom : room = a.room
      · exact .inl ⟨hroom, RoomRecord.canBan_of_isBanTarget htarget⟩
      · exact .inr ⟨hroom, htarget⟩
    · rw [carried.repeated.unchanged room, hr]
      intro hchanged
      have hneed : ∀ t, w.bot.rooms.find? room = some t →
          t.lists a.member ≠ !a.reason?.isSome := by
        intro t ht
        rw [hr] at ht
        obtain rfl := Option.some.inj ht
        rw [hlists, ne_eq, Bool.eq_not_self]
        exact not_false
      rcases (carried.mem_asked_iff room).1 (carried.repeated.sublist.subset hchanged) with
        ⟨rfl, t, ht, -, h⟩ | ⟨-, t, ht, -, h⟩
      · exact hneed t ht h
      · exact hneed t ht h

/-- What the records say of anybody else is what they said before. -/
theorem others (h : Obeyed w a w' result) {other : MemberId} (hother : other ≠ a.member)
    (room : RoomId) :
    (w'.bot.rooms.find? room).map (fun r => (r.banned[other]?, r.members.contains other)) =
      (w.bot.rooms.find? room).map fun r => (r.banned[other]?, r.members.contains other) := by
  cases h with
  | refused due e bot history => rw [bot]
  | @done asked changed given named posted names _ history carried =>
    by_cases hchanged : room ∈ changed
    · obtain ⟨r, r', hr, hr', hshows⟩ := carried.repeated.changed room hchanged
      rw [hr, hr', Option.map_some, Option.map_some, hshows.banned, hshows.members,
        if_neg hother.symm]
      simp [hother.symm]
    · rw [carried.repeated.unchanged room hchanged]

end Obeyed

/-- A command is obeyed, and where the homeserver refuses none of it the sanction prevails. -/
def Obeys (command : HandlerM Unit) (a : Sanction) (w : World) : Prop :=
  Obeyed w a (command.run.run w).2 (command.run.run w).1 ∧
    ((command.run.run w).2.failedModerations = w.failedModerations →
      Prevails a w.bot.rooms (command.run.run w).2.bot.rooms)

theorem obeys_execute (origin : CommandOrigin) (a : Sanction) (hroom : a.room = origin.room)
    (w : World) : Obeys (execute origin a.toCommand) a w :=
  ⟨obeyed_execute origin a hroom w, (obeyed_execute origin a hroom w).prevails⟩

/-- Commands to ban and to lift a ban act everywhere or tell the truth; and where the homeserver
refuses nothing, lifting a ban in the room in which it was given undoes it. -/
theorem commands_obeyed (origin : CommandOrigin) (member : MemberId) (reason : String) (w : World) :
    Obeys (execute origin (.ban member reason)) ⟨origin.room, member, some reason⟩ w ∧
    Obeys (execute origin (.unban member)) ⟨origin.room, member, none⟩ w ∧
    let banned := ((execute origin (.ban member reason)).run.run w).2
    let pardoned := ((execute origin (.unban member)).run.run banned).2
    pardoned.failedModerations = w.failedModerations →
      Undone origin.room member w.bot.rooms pardoned.bot.rooms := by
  refine ⟨obeys_execute origin ⟨origin.room, member, some reason⟩ rfl w,
    obeys_execute origin ⟨origin.room, member, none⟩ rfl w, ?_⟩
  intro banned pardoned hok
  have hban : Obeyed w ⟨origin.room, member, some reason⟩ banned _ :=
    obeyed_execute origin ⟨origin.room, member, some reason⟩ rfl w
  have hpardon : Obeyed banned ⟨origin.room, member, none⟩ pardoned _ :=
    obeyed_execute origin ⟨origin.room, member, none⟩ rfl banned
  have hbefore := hban.failedModerations_le
  have hafter := hpardon.failedModerations_le
  have hprevails := hpardon.prevails (by omega)
  exact ⟨hprevails.targets, hprevails.own, fun other room hother =>
    (hpardon.others hother room).trans (hban.others hother room)⟩

end RoomModeration
