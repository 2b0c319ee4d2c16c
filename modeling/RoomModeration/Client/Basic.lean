import RoomModeration.Client.Endpoint
import RoomModeration.Client.Reading
import RoomModeration.Config.Basic

/-!
# The client

The client speaks for the bot's account at one homeserver. It knows the address of the homeserver
and, once there is a session, the token that proves it; it keeps all that it has sent and what
became of it.

## Main definitions

* `Client` : the state of the client.
* `Client.ofConfig` : the client that a configuration asks for.
* `Client.exchange`, `Client.request` : sending requests, and sending them in the name of the
  session.
-/

namespace RoomModeration

/-- A client over a link. -/
structure Client (L : Type) where
  /-- The address of the homeserver. -/
  base : Url
  /-- The token of the session, if there is one. -/
  accessToken : Option String
  /-- How long it waits for a response, in milliseconds. -/
  patienceMs : Nat
  /-- The state of the link. -/
  link : L
  /-- What was sent and what became of it, the latest request first. -/
  history : List (Request × Delivery)

namespace Client

variable {L : Type}

/-- The address that a text is, if endpoints can be put under it. -/
def readBase (text : String) : Except ActionError Url :=
  match Url.parse text with
  | .error e => .error (.invalidUrl s!"{text}: {e.message}")
  | .ok url => if url.isBase then .ok url else .error (.invalidUrl text)

/-- How much longer than a poll the client waits for its response, in milliseconds. -/
def graceMs : Nat := 30000

/-- The client that a configuration asks for. An empty token counts as none. -/
def ofConfig (config : Config) (link : L) : Except ActionError (Client L) :=
  (readBase config.homeserver.url).map fun base =>
    { base := base
      accessToken := config.homeserver.accessToken.filter (· ≠ "")
      patienceMs := config.bot.syncTimeoutMs + graceMs
      link := link
      history := [] }

theorem parse_of_readBase {text : String} {base : Url} (h : readBase text = .ok base) :
    Url.parse text = .ok base := by
  unfold readBase at h
  split at h
  · cases h
  · next hparse =>
    split at h
    · rw [hparse, Except.ok.inj h]
    · cases h

theorem ofConfig_eq_ok_iff {config : Config} {link : L} {client : Client L} :
    ofConfig config link = .ok client ↔
      ∃ base, readBase config.homeserver.url = .ok base ∧
        client = ⟨base, config.homeserver.accessToken.filter (· ≠ ""),
          config.bot.syncTimeoutMs + graceMs, link, []⟩ := by
  rw [ofConfig]
  cases readBase config.homeserver.url with
  | error e => exact ⟨nofun, fun ⟨_, hbase, _⟩ => nomatch hbase⟩
  | ok base =>
    refine ⟨fun h => ⟨base, rfl, (Except.ok.inj h).symm⟩, ?_⟩
    rintro ⟨_, hbase, rfl⟩
    obtain rfl := Except.ok.inj hbase
    rfl

/-- Whether requests can go to an address. -/
def canSendTo (url : Url) : Bool :=
  url.scheme == "http" || url.scheme == "https"

/-- Why no answer comes back. -/
def timedOut : List String := ["operation timed out"]

/-- What comes back of a request. -/
def received (url : Url) : Delivery → Except ActionError Response
  | .answered response => .ok response
  | .failed causes => .error (.transport s!"error sending request for url ({url.text})" causes)
  | .unanswered =>
    .error (.transport s!"error sending request for url ({url.text})" timedOut)

/-- Sends a request. -/
def exchange (link : Link L) (request : Request) (c : Client L) :
    Except ActionError Response × Client L :=
  if canSendTo request.url then
    let (delivery, l) := link.carry request c.link
    (received request.url delivery,
      { c with link := l, history := (request, delivery) :: c.history })
  else
    (.error (.transport s!"builder error for url ({request.url.text})"
      ["URL scheme is not allowed"]), c)

/-- Whether a character can stand in the proof of a session. -/
def mayProve (c : Char) : Bool :=
  c == '\t' || (0x20 ≤ c.toNat && c.toNat != 0x7F)

/-- Sends a request in the name of the session. -/
def request (link : Link L) (endpoint : Endpoint) (body : Option Json) (c : Client L) :
    Except ActionError Response × Client L :=
  match c.accessToken with
  | none => (.error .noCredentials, c)
  | some token =>
    if token.toList.all mayProve then
      c.exchange link ⟨endpoint.method, endpoint.url c.base, some s!"Bearer {token}", body⟩
    else (.error (.transport "builder error" ["failed to parse header value"]), c)

/-- The notice of a request in the name of the session. -/
def announcement (c : Client L) (endpoint : Endpoint) : Notice :=
  .request endpoint.method.name (String.ofList (endpoint.url c.base).pathText)

end Client

end RoomModeration
