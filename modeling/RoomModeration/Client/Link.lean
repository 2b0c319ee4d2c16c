import RoomModeration.Homeserver.Reply
import RoomModeration.Url.Reader

/-!
# The link to the homeserver

Requests go out over a link. A link has a state of its own; nothing is assumed about it, so any
request may be lost. What comes back is read as one text in UTF-8. This is stricter than it has to
be for a document with other bytes in the strings of fields that nobody asks for.

## Main definitions

* `Request`, `Response` : what goes out and what comes back.
* `Delivery` : what becomes of a request.
* `Link` : what carries requests.
-/

namespace RoomModeration

/-- How a request is meant. -/
inductive Method where
  /-- Asking for something. -/
  | get
  /-- Having something done. -/
  | post
  /-- Putting something in its place. -/
  | put
  deriving DecidableEq, Repr

/-- The word for a method. -/
def Method.name : Method → String
  | get => "GET"
  | post => "POST"
  | put => "PUT"

/-- A request. -/
structure Request where
  /-- How it is meant. -/
  method : Method
  /-- Where it goes. -/
  url : Url
  /-- The proof of the session, if it is made in the name of one. -/
  authorization : Option String
  /-- What it carries. -/
  body : Option Json
  deriving Repr

/-- What the homeserver answers to a request. -/
structure Response where
  /-- The status; it is a success from 200 to 299. -/
  status : Nat
  /-- What it carries. -/
  body : List UInt8
  deriving DecidableEq, Repr

namespace Response

/-- Whether a response says that the request was granted. -/
def isSuccess (r : Response) : Bool :=
  200 ≤ r.status && r.status < 300

/-- The document that a response carries, if all of it is a text in UTF-8 and spells one. -/
def document? (r : Response) : Option JsonDocument := do
  JsonDocument.ofText? (← String.fromUTF8? ⟨r.body.toArray⟩).toList

end Response

/-- What becomes of a request. -/
inductive Delivery where
  /-- It is answered. -/
  | answered (response : Response)
  /-- It does not arrive; with the causes, the nearest first. -/
  | failed (causes : List String)
  /-- No answer comes back. -/
  | unanswered
  deriving DecidableEq, Repr

/-- What carries requests, with a state of its own. -/
structure Link (L : Type) where
  /-- What becomes of a request. -/
  carry : Request → L → Delivery × L

/-- The link of a machine that has no way to the homeserver. -/
def Link.unreachable : Link Unit where
  carry _ _ :=
    (.failed ["client error (Connect)", "tcp connect error",
      "Network is unreachable (os error 101)"], ())

end RoomModeration
