import RoomModeration.Client.Basic

/-!
# How the client answers

To the bot, the client is the homeserver: it answers calls and polls by sending requests over its
link.

## Main definitions

* `Client.answer`, `Client.poll` : the answers to calls and polls.
* `Client.homeserver` : the homeserver at the other end of a link.
-/

namespace RoomModeration.Client

variable {L : Type}

/-- What a call is answered with, by the response to its request. -/
def conclude (call : Call) (response : Except ActionError Response) :
    Except ActionError call.Reply :=
  match response >>= Response.read call.reader with
  | .ok reply => .ok reply
  | .error e =>
    match call.excuse? e with
    | some reply => .ok reply
    | none => .error e

/-- What there is to say about the response to a call. -/
def remarksOn (call : Call) : Except ActionError Response → List Notice
  | .ok response => if response.isSuccess then call.remarks response else []
  | .error _ => []

/-- The answer to a call. -/
def answer (link : Link L) (call : Call) (c : Client L) : Answer call.Reply × Client L :=
  let (response, after) := c.request link call.endpoint call.body?
  (⟨conclude call response, c.announcement call.endpoint :: remarksOn call response⟩, after)

/-- How long it takes until it is known what became of a request, in milliseconds. -/
def waitMs (c : Client L) : Except ActionError Response → Nat
  | .error (.transport _ causes) => if causes = timedOut then c.patienceMs else 0
  | _ => 0

/-- What a response says about the feed. -/
def readBatch (d : JsonDocument) : Option FeedBatch :=
  FeedBatch.ofResponse <$> FeedResponse.ofDocument? d

/-- The answer to a poll. -/
def poll (link : Link L) (asked : PollRequest) (c : Client L) : PollAnswer × Client L :=
  let (response, after) := c.request link asked.endpoint none
  ({ result := response >>= Response.read readBatch
     notices := [c.announcement asked.endpoint]
     delayMs := c.waitMs response }, after)

/-- The homeserver at the other end of a link. -/
def homeserver (link : Link L) : Homeserver (Client L) where
  answer := answer link
  poll := poll link

end RoomModeration.Client
