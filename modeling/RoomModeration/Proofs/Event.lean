import RoomModeration.Proofs.Json.Record
import RoomModeration.Proofs.Room.Meaning

/-!
# Events on the wire

An event is read as it is written, whatever is in it. The converse fails, since an event may be
written in more ways than one; which values spell which event is said by `Json.Spells`: the type and
the sender must be there, the identifier and the time have defaults, the state key may be missing or
the absent value, and the content may be anything. No value spells two events.

A membership is written as a word. Three of the words have names of their own, and a membership that
holds one of them as an other word is read under its name; all others are read as they are.

## Main definitions

* `Event.GivenBy`, `Json.Spells` : what the fields of a record say of an event.
* `Membership.plain` : a membership under its own name.

## Main results

* `Event.ofJson?_eq_some_iff` : which values spell an event.
* `Event.ofJson?_toJson` : an event is read as it is written.
* `Event.events_survive_wire` : what is found again of events that the bot builds.
-/

namespace RoomModeration

/-! ### Memberships -/

namespace Membership

/-- The membership with the same word under its own name, if it has one. -/
def plain : Membership → Membership
  | other "join" => join
  | other "leave" => leave
  | other "ban" => ban
  | m => m

/-- A membership is read as it is written, but under its own name. -/
theorem ofWord_word (m : Membership) : ofWord m.word = m.plain := by
  cases m with
  | join | leave | ban => rfl
  | other w =>
    unfold plain
    split <;> simp_all [word, ofWord]

end Membership

/-- What is written of a content is read again. -/
theorem MemberContent.ofJson?_toJson (c : MemberContent) :
    MemberContent.ofJson? c.toJson = some { c with membership := c.membership.plain } := by
  have hfields : c.toJson.fields? ["membership", "reason", "displayname"] =
      some [some (.string c.membership.word), c.reason.map .string, c.displayName.map .string] :=
    Json.fields?_ofOptionalFields (by simp)
  rw [ofJson?, hfields, Option.bind_eq_bind, Option.bind_some, ← Membership.ofWord_word]
  cases c.reason <;> cases c.displayName <;> rfl

/-! ### Values that spell an event -/

/-- What the fields of a record say of an event. -/
structure Event.GivenBy (field : String → Option Json) (e : Event) : Prop where
  /-- The type is there and is a text. -/
  kind : field "type" = some (.string e.kind)
  /-- The identifier is a text; a missing one is empty. -/
  eventId : Fields.Holds .string "" e.eventId (field "event_id")
  /-- The sender is there and is a text. -/
  sender : field "sender" = some (.string e.sender.text)
  /-- The time is an integer of 64 bits; a missing one is zero. -/
  timestamp : Fields.Holds (fun t : Timestamp => .int t.toInt) 0 e.timestamp
    (field "origin_server_ts")
  /-- The state key is a text, or missing or the absent value if the event has none. -/
  stateKey : field "state_key" = e.stateKey.map .string ∨
    field "state_key" = some .null ∧ e.stateKey = none
  /-- The content is any value; a missing one is the absent value. -/
  content : e.content = (field "content").getD .null

/-- The value is a record whose fields say this of an event. -/
def Json.Spells (v : Json) (e : Event) : Prop :=
  ∃ field, v.Gives Event.fieldNames field ∧ e.GivenBy field

namespace Event

theorem ofFields?_eq_some_iff {field : String → Option Json} {e : Event} :
    ofFields? (fieldNames.map field) = some e ↔ e.GivenBy field := by
  simp only [fieldNames, List.map_cons, List.map_nil, ofFields?, Option.bind_eq_bind,
    Option.bind_eq_some_iff, Option.pure_def, Option.some.injEq,
    Fields.required?_eq_some_iff Json.asString?_eq_some_iff,
    Fields.required?_eq_some_iff Json.memberId?_eq_some_iff,
    Fields.orDefault?_eq_some_iff Json.asString?_eq_some_iff,
    Fields.orDefault?_eq_some_iff Json.int64?_eq_some_iff,
    Json.orDefault?_optionalString?_eq_some_iff]
  constructor
  · rintro ⟨kind, hkind, eventId, heventId, sender, hsender, timestamp, htimestamp, stateKey,
      hstateKey, rfl⟩
    exact ⟨hkind, heventId, hsender, htimestamp, hstateKey, rfl⟩
  · rintro ⟨hkind, heventId, hsender, htimestamp, hstateKey, hcontent⟩
    refine ⟨_, hkind, _, heventId, _, hsender, _, htimestamp, _, hstateKey, ?_⟩
    rw [← hcontent]

/-- An event is read from the values that spell it, and from no others. -/
theorem ofJson?_eq_some_iff {v : Json} {e : Event} : ofJson? v = some e ↔ v.Spells e := by
  have hnames : fieldNames.Nodup := by decide
  rw [ofJson?, Option.bind_eq_bind, Option.bind_eq_some_iff, Json.Spells]
  constructor
  · rintro ⟨fields, hfields, he⟩
    obtain ⟨field, hgives, rfl⟩ := (Json.fields?_eq_some_iff hnames).1 hfields
    exact ⟨field, hgives, ofFields?_eq_some_iff.1 he⟩
  · rintro ⟨field, hgives, he⟩
    exact ⟨_, (Json.fields?_eq_some_iff hnames).2 ⟨field, hgives, rfl⟩,
      ofFields?_eq_some_iff.2 he⟩

theorem ofJson?_eq_none_iff {v : Json} : ofJson? v = none ↔ ∀ e, ¬ v.Spells e := by
  simp only [Option.eq_none_iff_forall_ne_some, ne_eq, ofJson?_eq_some_iff]

/-- An identifier that is the absent value spoils an event, and a state key does not. -/
example : ofJson? (.object [("event_id", .null), ("sender", .string "@alice:x"),
    ("type", .string "m.room.message")]) = none ∧
    (ofJson? (.object [("sender", .string "@alice:x"), ("state_key", .null),
      ("type", .string "m.room.message")])).isSome = true := by
  decide

/-! ### What is written is read again -/

/-- An event is read as it is written. -/
theorem ofJson?_toJson (e : Event) : ofJson? e.toJson = some e := by
  have hfields : e.toJson.fields? fieldNames = some [some (.string e.kind),
      some (.string e.eventId), some (.string e.sender.text), some (.int e.timestamp.toInt),
      e.stateKey.map .string, some e.content] :=
    Json.fields?_ofOptionalFields (by simp)
  have htimestamp : Json.int64? (.int e.timestamp.toInt) = some e.timestamp :=
    Json.int64?_eq_some_iff.2 rfl
  rw [ofJson?, hfields, Option.bind_eq_bind, Option.bind_some, ofFields?]
  simp only [Fields.orDefault?, htimestamp]
  obtain ⟨_, _, _, _, _ | _, _⟩ := e <;> rfl

variable {sender subject : MemberId} {m : Membership} {reason : Option String} {ts : Timestamp}

theorem memberContent_membership :
    (membership sender subject m reason ts).memberContent = .content ⟨m.plain, reason, none⟩ := by
  have hmembership : (membership sender subject m reason ts).isMembership = true := rfl
  rw [memberContent, if_pos hmembership, membership, MemberContent.ofJson?_toJson]

theorem subject_membership : (membership sender subject m reason ts).subject =
    if subject.text = "" then sender else subject :=
  rfl

theorem textBody?_chatMessage {body : String} :
    (chatMessage sender body ts).textBody? = some body := by
  rw [textBody?, if_pos]
  · rfl
  · exact ⟨rfl, rfl⟩

/-- Events are read as they are written. A membership event that the bot builds is found to be one,
with the given reason and the given membership under its own name, about the subject or, if that is
empty, about the sender; and a message is found with its text, and says nothing of a membership. -/
theorem events_survive_wire :
    (∀ e : Event, ofJson? e.toJson = some e) ∧
    (∀ (sender subject : MemberId) (m : Membership) (reason : Option String) (ts : Timestamp),
      ∃ e, ofJson? (membership sender subject m reason ts).toJson = some e ∧
        e.isMembership = true ∧ e.textBody? = none ∧
        e.memberContent = .content ⟨m.plain, reason, none⟩ ∧
        e.subject = if subject.text = "" then sender else subject) ∧
    ∀ (sender : MemberId) (body : String) (ts : Timestamp),
      ∃ e, ofJson? (chatMessage sender body ts).toJson = some e ∧
        e.textBody? = some body ∧ e.memberContent = .unrelated := by
  refine ⟨ofJson?_toJson, fun sender subject m reason ts => ?_, fun sender body ts => ?_⟩
  · exact ⟨_, ofJson?_toJson _, rfl, textBody?_eq_none_of_isMembership rfl,
      memberContent_membership, subject_membership⟩
  · exact ⟨_, ofJson?_toJson _, textBody?_chatMessage, rfl⟩

end Event

end RoomModeration
