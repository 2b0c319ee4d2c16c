import RoomModeration.Client.Answering
import RoomModeration.Config.Store
import RoomModeration.Homeserver.Body

/-!
# Opening a session

A stored session is used again as long as the homeserver knows its token. Otherwise the client logs
in with the password, and the new session is stored. The password is not sent while the stored
session may still be good.

## Main definitions

* `LoginOutcome` : what becomes of a login.
* `Client.loginWithPassword` : opening a new session.
* `Client.login` : going on with the stored session, or opening a new one.
-/

namespace RoomModeration

/-- What becomes of a login. -/
structure LoginOutcome (L : Type) where
  /-- The member the session belongs to. -/
  result : Except ActionError MemberId
  /-- The client. -/
  client : Client L
  /-- The configuration and where it is kept. -/
  store : ConfigStore
  /-- What there is to say about it, in order. -/
  notices : List Notice

/-- Whether the homeserver does not know the token of a session any more. -/
def ActionError.isUnknownToken : ActionError → Bool
  | api _ code _ => code == "M_UNKNOWN_TOKEN"
  | _ => false

namespace Client

variable {L : Type}

/-- The body of a login with the password, if there is anything to log in with. -/
def loginBody? (h : HomeserverConfig) : Option Json :=
  if h.login = "" || h.password = "" then none
  else some (Login.toJson ⟨h.login, h.password, h.device⟩)

/-- Uses a new session and stores it. -/
def adopt (session : Session) (c : Client L) (store : ConfigStore) : LoginOutcome L :=
  let update := store.update (Config.storeSession session)
  { result := match update.1 with
      | .ok () => .ok session.user
      | .error e => .error (.persist e)
    client := { c with accessToken := some session.accessToken }
    store := update.2
    notices := Notice.ofUpdate update ++
      if update.1.isOk then [.loggedIn session.user session.device] else [] }

/-- Logs in with the password. -/
def loginWithPassword (link : Link L) (c : Client L) (store : ConfigStore) : LoginOutcome L :=
  match loginBody? store.config.homeserver with
  | none => ⟨.error .noCredentials, c, store, []⟩
  | some body =>
    let (response, c) := c.exchange link ⟨.post, Endpoint.login.url c.base, none, some body⟩
    match response >>= Response.read Reply.session? with
    | .error e => ⟨.error e, c, store, []⟩
    | .ok session => c.adopt session store

/-- Goes on with the stored session, or opens a new one. -/
def login (link : Link L) (c : Client L) (store : ConfigStore) : LoginOutcome L :=
  if c.accessToken.isNone then c.loginWithPassword link store
  else
    let (answer, c) := c.answer link .whoami
    match answer.result with
    | .ok user => ⟨.ok user, c, store, answer.notices ++ [.sessionResumed user]⟩
    | .error e =>
      if e.isUnknownToken then
        let outcome := { c with accessToken := none }.loginWithPassword link store
        { outcome with notices := answer.notices ++ .tokenRejected :: outcome.notices }
      else ⟨.error e, c, store, answer.notices⟩

end Client

end RoomModeration
