import RoomModeration.Feed.Batch
import RoomModeration.Proofs.Event
import RoomModeration.Proofs.Ordered

/-!
# An unreadable event spoils nothing but itself

An answer of the homeserver holds a row of values for each joined room. Its batch holds for the same
rooms the events that the values spell, in the order of the values; a value that spells no event is
passed over and counted. Rooms without events stay in the batch, and so does everything else that
the answer says. Nothing but the batch of the answer is such a batch (`FeedBatch.Flattens.eq`), so
what becomes of the batch when one of the values is changed can be read off the rows.

## Main definitions

* `Sifted` : the events that a row of values spells.
* `FeedBatch.Flattens` : the batch is the answer without what cannot be read.

## Main results

* `FeedBatch.flattens_iff` : the batch of an answer, and it alone, is the answer without what cannot
  be read.
* `FeedBatch.bad_event_isolated` : a value that spells no event, in the place of one that does,
  takes away this event and nothing else.
-/

namespace RoomModeration

/-! ### Rows of values -/

/-- The events that a row of values spells, in the order of the values. -/
inductive Sifted : List Json → List Event → Prop where
  /-- There is nothing to read. -/
  | nil : Sifted [] []
  /-- A value spells an event. -/
  | read {v : Json} {e : Event} {raw : List Json} {events : List Event} (spells : v.Spells e)
    (rest : Sifted raw events) : Sifted (v :: raw) (e :: events)
  /-- A value that spells no event is passed over. -/
  | passed {v : Json} {raw : List Json} {events : List Event} (bad : ∀ e, ¬ v.Spells e)
    (rest : Sifted raw events) : Sifted (v :: raw) events

theorem sifted_iff {raw : List Json} {events : List Event} :
    Sifted raw events ↔ events = raw.filterMap Event.ofJson? := by
  constructor
  · intro h
    induction h with
    | nil => rfl
    | read spells _ ih => rw [List.filterMap_cons_some (Event.ofJson?_eq_some_iff.2 spells), ih]
    | passed bad _ ih => rw [List.filterMap_cons_none (Event.ofJson?_eq_none_iff.2 bad), ih]
  · rintro rfl
    induction raw with
    | nil => exact .nil
    | cons v raw ih =>
      cases hv : Event.ofJson? v with
      | some e =>
        rw [List.filterMap_cons_some hv]
        exact .read (Event.ofJson?_eq_some_iff.1 hv) ih
      | none =>
        rw [List.filterMap_cons_none hv]
        exact .passed (Event.ofJson?_eq_none_iff.1 hv) ih

namespace Sifted

variable {raw raw' : List Json} {events events' : List Event}

/-- Each row of values spells some events. -/
theorem exists_of_row (raw : List Json) : ∃ events, Sifted raw events :=
  ⟨_, sifted_iff.2 rfl⟩

/-- No row of values spells two rows of events. -/
theorem eq (h : Sifted raw events) (h' : Sifted raw events') : events = events' :=
  (sifted_iff.1 h).trans (sifted_iff.1 h').symm

theorem append (h : Sifted raw events) (h' : Sifted raw' events') :
    Sifted (raw ++ raw') (events ++ events') := by
  induction h with
  | nil => exact h'
  | read spells _ ih => exact .read spells ih
  | passed bad _ ih => exact .passed bad ih

end Sifted

/-! ### Rows of all rooms -/

/-- How many items the rows of all rooms hold together. -/
def rowTotal {α : Type} (rows : RoomMap (List α)) : Nat :=
  (rows.toList.flatMap Prod.snd).length

/-- Another row for one room changes the number of items by as many as it has more or less. -/
theorem rowTotal_insert {α : Type} {rows : RoomMap (List α)} {room : RoomId} {old : List α}
    (h : rows[room]? = some old) (new : List α) :
    rowTotal (rows.insert room new) + old.length = rowTotal rows + new.length := by
  obtain ⟨before, after, hsplit⟩ :=
    List.append_of_mem (Std.ExtTreeMap.mem_toList_iff_getElem?_eq_some.2 h)
  simp only [rowTotal, hsplit, toList_insert hsplit new, List.flatMap_append, List.flatMap_cons,
    List.length_append]
  omega

/-- Each item of the rows is read or not. -/
theorem rowTotal_filterMap {α β : Type} (read : α → Option β) (rows : RoomMap (List α)) :
    rowTotal (rows.map fun _ row => row.filterMap read) +
      (rows.toList.flatMap Prod.snd).countP (read · |>.isNone) = rowTotal rows := by
  have hrow : ∀ row : List α,
      (row.filterMap read).length + row.countP (read · |>.isNone) = row.length := by
    intro row
    rw [List.length_filterMap_eq_countP,
      List.length_eq_countP_add_countP (fun a => (read a).isSome)]
    congr 2
    funext a
    cases read a <;> rfl
  simp only [rowTotal, Std.ExtTreeMap.toList_map]
  induction rows.toList with
  | nil => rfl
  | cons entry rest ih =>
    simp only [List.map_cons, List.flatMap_cons, List.length_append, List.countP_append]
    have := hrow entry.2
    omega

namespace FeedBatch

/-- The batch is the answer without what cannot be read. -/
structure Flattens (b : FeedBatch) (r : FeedResponse) : Prop where
  /-- The next poll goes on where the answer says. -/
  nextBatch : b.nextBatch = r.nextBatch
  /-- The joined rooms are the same, also those of which nothing can be read. -/
  rooms : ∀ room, room ∈ b.joined ↔ room ∈ r.join
  /-- The events of a room are those that its values spell. -/
  events : ∀ (room : RoomId) (raw : List Json), r.join[room]? = some raw →
    ∃ events, b.joined[room]? = some events ∧ Sifted raw events
  /-- The rooms that the bot is no longer in are those that the answer names. -/
  left : ∀ room, room ∈ b.left ↔ room ∈ r.leave
  /-- Each value is read or counted. -/
  count : b.eventCount + b.malformed = rowTotal r.join

theorem flattens_ofResponse (r : FeedResponse) : (ofResponse r).Flattens r where
  nextBatch := rfl
  rooms _ := Std.ExtTreeMap.mem_map
  events := by
    intro room raw hraw
    refine ⟨raw.filterMap Event.ofJson?, ?_, sifted_iff.2 rfl⟩
    rw [ofResponse, Std.ExtTreeMap.getElem?_map, hraw, Option.map_some]
  left room := by
    simp [ofResponse]
  count := rowTotal_filterMap Event.ofJson? r.join

variable {b : FeedBatch} {r : FeedResponse}

/-- No other batch is the answer without what cannot be read. -/
theorem Flattens.eq (h : b.Flattens r) {b' : FeedBatch} (h' : b'.Flattens r) : b = b' := by
  have hjoined : b.joined = b'.joined := by
    refine Std.ExtTreeMap.ext_getElem? fun room => ?_
    cases hraw : r.join[room]? with
    | none =>
      have habsent : room ∉ r.join := fun hmem => by
        rw [Std.ExtTreeMap.mem_iff_isSome_getElem?, hraw] at hmem
        cases hmem
      rw [Std.ExtTreeMap.getElem?_eq_none (mt (h.rooms room).1 habsent),
        Std.ExtTreeMap.getElem?_eq_none (mt (h'.rooms room).1 habsent)]
    | some raw =>
      obtain ⟨events, hevents, hsifted⟩ := h.events room raw hraw
      obtain ⟨events', hevents', hsifted'⟩ := h'.events room raw hraw
      rw [hevents, hevents', hsifted.eq hsifted']
  have hleft : b.left = b'.left :=
    Std.ExtTreeSet.ext_mem fun room => (h.left room).trans (h'.left room).symm
  have hmalformed : b.malformed = b'.malformed := by
    have hcount := h.count.trans h'.count.symm
    rw [eventCount, eventCount, hjoined] at hcount
    omega
  have hnext := h.nextBatch.trans h'.nextBatch.symm
  cases b
  cases b'
  simp_all

theorem flattens_iff : b.Flattens r ↔ b = ofResponse r :=
  ⟨fun h => h.eq (flattens_ofResponse r), fun h => h ▸ flattens_ofResponse r⟩

/-- A row in which one event is missing, and a value more that cannot be read. -/
theorem Flattens.replace (h : b.Flattens r) {room : RoomId} {old new : List Json}
    {events left : List Event} (hraw : r.join[room]? = some old)
    (hevents : b.joined[room]? = some events) (hsifted : Sifted new left)
    (hlength : new.length = old.length) (hshorter : left.length + 1 = events.length) :
    Flattens { b with joined := b.joined.insert room left, malformed := b.malformed + 1 }
      { r with join := r.join.insert room new } where
  nextBatch := h.nextBatch
  rooms other := by
    rw [Std.ExtTreeMap.mem_insert, Std.ExtTreeMap.mem_insert, h.rooms]
  events := by
    intro other raw hother
    dsimp only at hother ⊢
    by_cases hroom : other = room
    · rw [hroom, Std.ExtTreeMap.getElem?_insert_self] at hother ⊢
      cases hother
      exact ⟨left, rfl, hsifted⟩
    · rw [getElem?_insert_of_ne hroom] at hother ⊢
      exact h.events other raw hother
  left := h.left
  count := by
    have hread := rowTotal_insert hevents left
    have hall := rowTotal_insert hraw new
    have hcount := h.count
    change rowTotal (b.joined.insert room left) + (b.malformed + 1) =
      rowTotal (r.join.insert room new)
    change rowTotal b.joined + b.malformed = rowTotal r.join at hcount
    omega

/-- The batch is the answer without what cannot be read. A value that spells no event, in the place
of one that does, takes this event away from the events of its room and is counted; all the rest of
the batch stays. -/
theorem bad_event_isolated (r : FeedResponse) :
    (ofResponse r).Flattens r ∧
      ∀ (room : RoomId) (before after : List Json) (v bad : Json) (e : Event),
        r.join[room]? = some (before ++ v :: after) → v.Spells e → (∀ e, ¬ bad.Spells e) →
        ∃ earlier later, Sifted before earlier ∧ Sifted after later ∧
          (ofResponse r).joined[room]? = some (earlier ++ e :: later) ∧
          ofResponse { r with join := r.join.insert room (before ++ bad :: after) } =
            { ofResponse r with
              joined := (ofResponse r).joined.insert room (earlier ++ later)
              malformed := (ofResponse r).malformed + 1 } := by
  have hflat := flattens_ofResponse r
  refine ⟨hflat, ?_⟩
  intro room before after v bad e hraw hv hbad
  obtain ⟨events, hevents, hsifted⟩ := hflat.events room _ hraw
  obtain ⟨earlier, hearlier⟩ := Sifted.exists_of_row before
  obtain ⟨later, hlater⟩ := Sifted.exists_of_row after
  obtain rfl := hsifted.eq (hearlier.append (.read hv hlater))
  refine ⟨earlier, later, hearlier, hlater, hevents, ?_⟩
  -- The changed batch is the changed answer without what cannot be read, and no other batch is.
  have hreplaced := hflat.replace hraw hevents (hearlier.append (.passed hbad hlater))
    (by simp) (by simp only [List.length_append, List.length_cons]; omega)
  exact (flattens_iff.1 hreplaced).symm

end FeedBatch

/-! ### A batch with some noise -/

namespace Sample

/-- A message of a member. -/
def utterance (body : String) : Event :=
  .chatMessage ⟨"@alice:x"⟩ body 5

/-- A message of a time that does not fit in 64 bits. -/
def prophecy : Json :=
  .object [("origin_server_ts", .int 0x8000000000000000), ("sender", .string "@alice:x"),
    ("type", .string "m.room.message")]

/-- An answer with a busy room, a room without readable events and a room that the bot has left. -/
def chatter : FeedResponse where
  nextBatch := "s2"
  join := .ofList [
    (RoomId.mk "!a:x", [(utterance "hello").toJson, prophecy, (utterance "bye").toJson,
      (utterance "again").toJson]),
    (RoomId.mk "!b:x", [Json.null])]
  leave := .ofList [(RoomId.mk "!c:x", Json.null)]

end Sample

/-- An absent value in the place of the second message. -/
theorem chatter_without_bye :
    (FeedBatch.ofResponse Sample.chatter).joined[(⟨"!a:x"⟩ : RoomId)]? =
        some [Sample.utterance "hello", Sample.utterance "bye", Sample.utterance "again"] ∧
      FeedBatch.ofResponse { Sample.chatter with
          join := Sample.chatter.join.insert ⟨"!a:x"⟩ [(Sample.utterance "hello").toJson,
            Sample.prophecy, .null, (Sample.utterance "again").toJson] } =
        { FeedBatch.ofResponse Sample.chatter with
          joined := (FeedBatch.ofResponse Sample.chatter).joined.insert ⟨"!a:x"⟩
            [Sample.utterance "hello", Sample.utterance "again"]
          malformed := (FeedBatch.ofResponse Sample.chatter).malformed + 1 } := by
  have hread : ∀ e : Event, e.toJson.Spells e := fun e =>
    Event.ofJson?_eq_some_iff.1 e.ofJson?_toJson
  have hraw : Sample.chatter.join[(⟨"!a:x"⟩ : RoomId)]? =
      some ([(Sample.utterance "hello").toJson, Sample.prophecy] ++
        (Sample.utterance "bye").toJson :: [(Sample.utterance "again").toJson]) :=
    rfl
  obtain ⟨earlier, later, hearlier, hlater, hjoined, hbatch⟩ :=
    (FeedBatch.bad_event_isolated Sample.chatter).2 ⟨"!a:x"⟩ _ _ _ .null _ hraw (hread _)
      (Event.ofJson?_eq_none_iff.1 rfl)
  obtain rfl := hearlier.eq
    (.read (hread _) (.passed (Event.ofJson?_eq_none_iff.1 (by decide)) .nil))
  obtain rfl := hlater.eq (.read (hread _) .nil)
  exact ⟨hjoined, hbatch⟩

end RoomModeration
