import RoomModeration.Event

/-!
# The event feed

The homeserver answers each poll with the rooms in which something has happened. The answer is
flattened into a batch: the events of each joined room in their order, and the rooms that the bot
is no longer in. An event that cannot be read is left out and counted; it spoils neither its room
nor the batch.

## Main definitions

* `FeedResponse` : the answer to a poll, with its events still unread.
* `FeedBatch` : a flattened answer.
* `FeedBatch.ofResponse` : flattening.
-/

namespace RoomModeration

/-- The answer to a poll. -/
structure FeedResponse where
  /-- Where the next poll goes on. -/
  nextBatch : String
  /-- The new timeline events of each joined room, unread. -/
  join : RoomMap (List Json)
  /-- The rooms that the bot is no longer in. -/
  leave : RoomMap Json

/-- A flattened answer. -/
structure FeedBatch where
  /-- Where the next poll goes on. -/
  nextBatch : String
  /-- The events of each joined room, in the order of the server. -/
  joined : RoomMap (List Event)
  /-- The rooms that the bot is no longer in. -/
  left : RoomSet
  /-- The number of events that could not be read. -/
  malformed : Nat

namespace FeedResponse

/-- Reads a map from rooms; of several values for one room the last stays. -/
def roomMap? {α : Type} (read : JsonDocument → Option α) : JsonDocument → Option (RoomMap α)
  | .object fields => do
    let entries ← fields.mapM fun (name, d) => do return (RoomId.mk (← name), ← read d)
    return Std.ExtTreeMap.ofList entries
  | _ => none

/-- Reads the events of a joined room, without looking into them. -/
def timeline? (depth : Nat) : JsonDocument → Option (List Json)
  | .array items => JsonDocument.toJsonItems? (depth - 1) items
  | _ => none

/-- Reads the update of a joined room. -/
def joinedRoom? (depth : Nat) (d : JsonDocument) : Option (List Json) := do
  let fields ← d.fields? ["timeline"]
  Fields.orDefault? [] (fun d => do
    let fields ← d.fields? ["events"]
    Fields.orDefault? [] (timeline? (depth - 2)) fields.head?.join) fields.head?.join

/-- Reads an answer. -/
def ofDocument? (d : JsonDocument) : Option FeedResponse := do
  let depth := JsonDocument.maxDepth
  match ← d.fields? ["next_batch", "rooms"] with
  | [nextBatch, rooms] => do
    let nextBatch ← Fields.required? (fun d => d.toJson? (depth - 1) >>= Json.asString?) nextBatch
    let (join, leave) ← Fields.orDefault? (∅, ∅) (fun d => do
      match ← d.fields? ["join", "leave"] with
      | [join, leave] => do
        let join ← Fields.orDefault? ∅ (roomMap? (joinedRoom? (depth - 3))) join
        let leave ← Fields.orDefault? ∅ (roomMap? (JsonDocument.toJson? (depth - 3))) leave
        return (join, leave)
      | _ => none) rooms
    return ⟨nextBatch, join, leave⟩
  | _ => none

/-- The answer that a text spells. -/
def ofText? (text : String) : Option FeedResponse :=
  JsonDocument.ofText? text.toList >>= ofDocument?

end FeedResponse

namespace FeedBatch

/-- The answer with each event read, and those that cannot be read counted. -/
def ofResponse (r : FeedResponse) : FeedBatch where
  nextBatch := r.nextBatch
  joined := r.join.map fun _ raw => raw.filterMap Event.ofJson?
  left := Std.ExtTreeSet.ofList r.leave.keys
  malformed := (r.join.toList.flatMap Prod.snd).countP (Event.ofJson? · |>.isNone)

/-- The number of events in the batch. -/
def eventCount (b : FeedBatch) : Nat :=
  (b.joined.toList.flatMap Prod.snd).length

/-- The batch that a text spells. -/
def ofText? (text : String) : Option FeedBatch :=
  ofResponse <$> FeedResponse.ofText? text

end FeedBatch

end RoomModeration
