import RoomModeration.Client.Login
import RoomModeration.Proofs.Config.Rooms

/-!
# Who is logged in

The password is sent only when there is no session to go on with: when no token is stored, or when
the homeserver says that it does not know the stored one. It is then sent in one request. What the
homeserver answers to that request is afterwards what the client speaks in the name of and what the
configuration keeps; after any failure the configuration is what it has been before.

A login takes up to two requests, one that asks whom the token belongs to and one that opens a
session. Each is described first for a client in any state, and a login is then put together from
them.

## Main definitions

* `Client.logins` : the requests for a session that a client has sent, with what became of them.
* `Client.NeedsPassword` : there is no session to go on with.
* `LoginOutcome.Resumed`, `LoginOutcome.Opened` : the two ways of being logged in.
* `LoginOutcome.Adopts` : what becomes of a new session.
* `LoginOutcome.Orderly` : what a login comes to, whatever the homeserver answers.

## Main results

* `Client.login_of_whoami_ok`, `Client.login_of_whoami_error`, `Client.login_of_needsPassword` :
  how a login goes.
* `Client.login_of_credentials` : what becomes of the request for a session.
* `Client.login_orderly` : a login of a new client is orderly.
-/

namespace RoomModeration

/-! ### Changes of the configuration and its file -/

/-- A change that fails leaves what is in the file; after one that is made, the file holds the
configuration. -/
theorem ConfigStore.file_update {α : Type} (edit : Config.Edit α) (s : ConfigStore) :
    (∀ e, (s.update edit).1 = .error e →
      (s.update edit).2.file.map ConfigFile.text = s.file.map ConfigFile.text) ∧
    ∀ a, (s.update edit).1 = .ok a →
      ∀ f ∈ (s.update edit).2.file, f.text = (s.update edit).2.config.toText := by
  unfold update
  cases edit s.config with
  | error e => exact ⟨fun _ _ => rfl, nofun⟩
  | ok changed =>
    obtain ⟨a, c⟩ := changed
    cases hfile : s.file with
    | none => exact ⟨nofun, fun _ _ => nofun⟩
    | some file =>
      dsimp only
      unfold ConfigFile.write
      cases file.failure? file.attempts with
      | some cause => exact ⟨fun _ _ => rfl, nofun⟩
      | none =>
        refine ⟨nofun, fun _ _ f hf => ?_⟩
        obtain rfl := Option.some.inj hf
        rfl

/-! ### Requests -/

namespace Client

variable {L : Type} {link : Link L} {client : Client L} {store : ConfigStore}

/-- A request is for a session at this homeserver. -/
def opensSession (base : Url) (request : Request) : Bool :=
  request.method == .post && request.url == Endpoint.login.url base

/-- The requests for a session that a client has sent, with what became of them, the latest
first. -/
def logins (c : Client L) : List (Request × Delivery) :=
  c.history.filter fun sent => opensSession c.base sent.1

/-- The request for a session that gives the password. -/
def passwordRequest (base : Url) (h : HomeserverConfig) : Request :=
  ⟨.post, Endpoint.login.url base, none, some (Login.toJson ⟨h.login, h.password, h.device⟩)⟩

/-- Two clients are in the same session at the same homeserver. -/
structure SameSession (c c' : Client L) : Prop where
  /-- The homeserver is the same. -/
  base : c'.base = c.base
  /-- The token is the same. -/
  accessToken : c'.accessToken = c.accessToken

theorem logins_cons {c c' : Client L} {sent : Request × Delivery} (hbase : c'.base = c.base)
    (h : c'.history = sent :: c.history) :
    c'.logins = if opensSession c.base sent.1 then sent :: c.logins else c.logins := by
  rw [logins, logins, h, hbase, List.filter_cons]

/-- A request that is answered is sent; any other may be sent or not. -/
theorem exchange_cases (link : Link L) (request : Request) (c : Client L) :
    ((∃ response, (c.exchange link request).1 = .ok response ∧
        (c.exchange link request).2.history = (request, .answered response) :: c.history) ∨
      ∃ e, (c.exchange link request).1 = .error e ∧
        ((c.exchange link request).2.history = c.history ∨
          ∃ delivery, (c.exchange link request).2.history = (request, delivery) :: c.history ∧
            ∀ response, delivery ≠ .answered response)) ∧
    SameSession c (c.exchange link request).2 := by
  unfold exchange
  split
  · rcases link.carry request c.link with ⟨delivery, l⟩
    refine ⟨?_, rfl, rfl⟩
    cases delivery with
    | answered response => exact .inl ⟨response, rfl, rfl⟩
    | failed causes => exact .inr ⟨_, rfl, .inr ⟨_, rfl, nofun⟩⟩
    | unanswered => exact .inr ⟨_, rfl, .inr ⟨_, rfl, nofun⟩⟩
  · exact ⟨.inr ⟨_, rfl, .inl rfl⟩, rfl, rfl⟩

/-- Whom the token of the session belongs to, as the homeserver says. -/
def whoami (link : Link L) (c : Client L) : Except ActionError MemberId :=
  (c.answer link .whoami).1.result

/-- To ask whom the token belongs to is no request for a session, gives nothing away but the token,
and leaves the session as it is. -/
theorem answer_whoami (link : Link L) (c : Client L) :
    ((c.answer link .whoami).2.history = c.history ∨
      ∃ sent : Request × Delivery, (c.answer link .whoami).2.history = sent :: c.history ∧
        opensSession c.base sent.1 = false ∧ sent.1.body = none) ∧
    SameSession c (c.answer link .whoami).2 := by
  have hafter : (c.answer link .whoami).2 = (c.request link Call.whoami.endpoint none).2 := rfl
  rw [hafter]
  unfold request
  cases c.accessToken with
  | none => exact ⟨.inl rfl, rfl, rfl⟩
  | some token =>
    dsimp only
    split
    · obtain ⟨hcases, hsame⟩ := exchange_cases link
        ⟨Call.whoami.endpoint.method, Call.whoami.endpoint.url c.base, some s!"Bearer {token}",
          none⟩ c
      refine ⟨?_, hsame⟩
      rcases hcases with ⟨response, -, hsent⟩ | ⟨e, -, hkept | ⟨delivery, hsent, -⟩⟩
      · exact .inr ⟨_, hsent, rfl, rfl⟩
      · exact .inl hkept
      · exact .inr ⟨_, hsent, rfl, rfl⟩
    · exact ⟨.inl rfl, rfl, rfl⟩

theorem logins_answer_whoami (link : Link L) (c : Client L) :
    (c.answer link .whoami).2.logins = c.logins := by
  obtain ⟨hhistory, hsame⟩ := c.answer_whoami link
  rcases hhistory with hkept | ⟨sent, hsent, hother, -⟩
  · rw [logins, logins, hkept, hsame.base]
  · rw [logins_cons hsame.base hsent, if_neg (by rw [hother]; exact Bool.false_ne_true)]

/-! ### Logging in with the password -/

/-- There is nothing to log in with. -/
def LacksCredentials (h : HomeserverConfig) : Prop :=
  h.login = "" ∨ h.password = ""

theorem loginWithPassword_of_lacks (h : LacksCredentials store.config.homeserver) :
    client.loginWithPassword link store = ⟨.error .noCredentials, client, store, []⟩ := by
  have hbody : loginBody? store.config.homeserver = none := by
    rcases h with h | h <;> simp [loginBody?, h]
  rw [loginWithPassword, hbody]

theorem loginBody?_eq_some {h : HomeserverConfig} (hcredentials : ¬LacksCredentials h)
    (base : Url) : loginBody? h = (passwordRequest base h).body := by
  obtain ⟨hlogin, hpassword⟩ := not_or.1 hcredentials
  simp [loginBody?, hlogin, hpassword, passwordRequest]

theorem loginWithPassword_of_error {e : ActionError}
    (hcredentials : ¬LacksCredentials store.config.homeserver)
    (h : ((client.exchange link (passwordRequest client.base store.config.homeserver)).1 >>=
      Response.read Reply.session?) = .error e) :
    client.loginWithPassword link store =
      ⟨.error e,
        (client.exchange link (passwordRequest client.base store.config.homeserver)).2, store,
        []⟩ := by
  rw [loginWithPassword, loginBody?_eq_some hcredentials client.base]
  unfold passwordRequest at h ⊢
  simp only [h]

theorem loginWithPassword_of_ok {session : Session}
    (hcredentials : ¬LacksCredentials store.config.homeserver)
    (h : ((client.exchange link (passwordRequest client.base store.config.homeserver)).1 >>=
      Response.read Reply.session?) = .ok session) :
    client.loginWithPassword link store =
      (client.exchange link (passwordRequest client.base store.config.homeserver)).2.adopt session
        store := by
  rw [loginWithPassword, loginBody?_eq_some hcredentials client.base]
  unfold passwordRequest at h ⊢
  simp only [h]

/-- What becomes of a login with the password: it is refused or lost and changes nothing, or it is
granted and the session is taken over. -/
theorem loginWithPassword_cases (link : Link L) (client : Client L) (store : ConfigStore)
    (h : ¬LacksCredentials store.config.homeserver) :
    (∃ e c, client.loginWithPassword link store = ⟨.error e, c, store, []⟩ ∧ SameSession client c ∧
      (c.history = client.history ∨ ∃ delivery,
        c.history = (passwordRequest client.base store.config.homeserver, delivery) ::
          client.history ∧
        ∀ response, delivery = .answered response →
          response.read Reply.session? = .error e)) ∨
    ∃ session response c, client.loginWithPassword link store = c.adopt session store ∧
      SameSession client c ∧ response.read Reply.session? = .ok session ∧
      c.history = (passwordRequest client.base store.config.homeserver, .answered response) ::
        client.history := by
  obtain ⟨hcases, hsame⟩ :=
    exchange_cases link (passwordRequest client.base store.config.homeserver) client
  rcases hcases with ⟨response, hok, hsent⟩ | ⟨e, herror, hsent⟩
  · cases hread : response.read Reply.session? with
    | error e =>
      have hlost := loginWithPassword_of_error h (by rw [hok]; exact hread)
      refine .inl ⟨e, _, hlost, hsame, .inr ⟨_, hsent, fun other hother => ?_⟩⟩
      rw [← Delivery.answered.inj hother, hread]
    | ok session =>
      have hopen := loginWithPassword_of_ok h (by rw [hok]; exact hread)
      exact .inr ⟨session, response, _, hopen, hsame, hread, hsent⟩
  · have hlost := loginWithPassword_of_error h (by rw [herror]; rfl)
    refine .inl ⟨e, _, hlost, hsame, ?_⟩
    rcases hsent with hkept | ⟨delivery, hsent, hnone⟩
    · exact .inl hkept
    · exact .inr ⟨delivery, hsent, fun response hresponse => absurd hresponse (hnone response)⟩

/-! ### Logging in -/

/-- There is no session to go on with: there is no token, or the homeserver does not know it. -/
def NeedsPassword (link : Link L) (c : Client L) : Prop :=
  c.accessToken = none ∨ ∃ status text, c.whoami link = .error (.api status "M_UNKNOWN_TOKEN" text)

/-- The client when it asks for a session, which is in none. -/
def asking (link : Link L) (c : Client L) : Client L :=
  if c.accessToken.isNone then c else { (c.answer link .whoami).2 with accessToken := none }

/-- A token that is good is gone on with. -/
theorem login_of_whoami_ok (store : ConfigStore) {user : MemberId}
    (htoken : client.accessToken ≠ none) (h : client.whoami link = .ok user) :
    ∃ notices, client.login link store =
      ⟨.ok user, (client.answer link .whoami).2, store, notices⟩ := by
  have hsome : ¬client.accessToken.isNone = true :=
    fun hnone => htoken (Option.isNone_iff_eq_none.1 hnone)
  rw [login, if_neg hsome]
  rw [whoami] at h
  simp only [h]
  exact ⟨_, rfl⟩

/-- If it cannot be told whether a token is good, it is not given up. -/
theorem login_of_whoami_error (store : ConfigStore) {e : ActionError}
    (htoken : client.accessToken ≠ none) (h : client.whoami link = .error e)
    (hknown : ¬e.isUnknownToken = true) :
    ∃ notices, client.login link store =
      ⟨.error e, (client.answer link .whoami).2, store, notices⟩ := by
  have hsome : ¬client.accessToken.isNone = true :=
    fun hnone => htoken (Option.isNone_iff_eq_none.1 hnone)
  rw [login, if_neg hsome]
  rw [whoami] at h
  simp only [h, if_neg hknown]
  exact ⟨_, rfl⟩

/-- Where there is no session to go on with, one is asked for. -/
theorem login_of_needsPassword (store : ConfigStore) (h : client.NeedsPassword link) :
    ∃ notices, client.login link store =
      { (client.asking link).loginWithPassword link store with notices := notices } := by
  unfold login asking
  by_cases hnone : client.accessToken.isNone = true
  · rw [if_pos hnone, if_pos hnone]
    exact ⟨_, rfl⟩
  · obtain hnone' | ⟨status, text, hwhoami⟩ := h
    · exact absurd (Option.isNone_iff_eq_none.2 hnone') hnone
    · rw [if_neg hnone, if_neg hnone]
      rw [whoami] at hwhoami
      have hunknown : (ActionError.api status "M_UNKNOWN_TOKEN" text).isUnknownToken = true := rfl
      simp only [hwhoami, if_pos hunknown]
      exact ⟨_, rfl⟩

end Client

/-! ### Being logged in -/

namespace LoginOutcome

variable {L : Type}

/-- A new session is taken over: it is kept, or the configuration stays what it was. -/
structure Adopts (session : Session) (store : ConfigStore) (o : LoginOutcome L) : Prop where
  /-- The token is that of the session. -/
  accessToken : o.client.accessToken = some session.accessToken
  /-- A session that cannot be kept is not open, and the configuration is what it was. -/
  lost : ∀ e, (store.update (Config.storeSession session)).1 = .error e →
    o.result = .error (.persist e) ∧ o.store.config = store.config ∧
      o.store.file.map ConfigFile.text = store.file.map ConfigFile.text
  /-- The configuration holds a session that can be kept, and is the same otherwise; so does its
  file. -/
  kept : (store.update (Config.storeSession session)).1 = .ok () →
    o.result = .ok session.user ∧
      o.store.config = { store.config with
        homeserver := { store.config.homeserver with
          accessToken := some session.accessToken
          device := session.device
          user := some session.user } } ∧
      ∀ f ∈ o.store.file, f.text = o.store.config.toText

theorem adopts_adopt (session : Session) (c : Client L) (store : ConfigStore)
    (notices : List Notice) :
    Adopts session store { c.adopt session store with notices := notices } := by
  obtain ⟨herror, hok⟩ := ConfigStore.file_update (Config.storeSession session) store
  refine ⟨rfl, fun e he => ?_, fun hdone => ?_⟩
  · rcases store.update_cases (Config.storeSession session) with
      ⟨e', -, hconfig⟩ | ⟨_, _, -, hdone, -⟩
    · exact ⟨by simp only [Client.adopt, he], hconfig, herror e he⟩
    · rw [he] at hdone
      cases hdone
  · rcases store.update_cases (Config.storeSession session) with
      ⟨e', he, -⟩ | ⟨_, _, hedit, -, hconfig⟩
    · rw [hdone] at he
      cases he
    · cases hedit
      exact ⟨by simp only [Client.adopt, hdone], hconfig, hok () hdone⟩

/-- The stored session is gone on with. -/
structure Resumed (link : Link L) (client : Client L) (store : ConfigStore) (user : MemberId)
    (o : LoginOutcome L) : Prop where
  /-- A token is stored. -/
  stored : client.accessToken ≠ none
  /-- The homeserver says that it belongs to this member. -/
  answered : client.whoami link = .ok user
  /-- No session is asked for. -/
  unasked : o.client.logins = []
  /-- The session is the same. -/
  session : client.SameSession o.client
  /-- The configuration is the same. -/
  store : o.store = store

/-- A new session is opened. -/
structure Opened (link : Link L) (client : Client L) (store : ConfigStore) (session : Session)
    (o : LoginOutcome L) : Prop where
  /-- There is no session to go on with. -/
  needed : client.NeedsPassword link
  /-- There is something to log in with. -/
  credentials : ¬Client.LacksCredentials store.config.homeserver
  /-- One request for a session is sent, to which this session is the answer. -/
  asked : ∃ response, response.read Reply.session? = .ok session ∧ o.client.logins =
    [(Client.passwordRequest client.base store.config.homeserver, .answered response)]
  /-- The homeserver is the same. -/
  base : o.client.base = client.base
  /-- The token is that of the session. -/
  accessToken : o.client.accessToken = some session.accessToken
  /-- The session can be kept. -/
  kept : (store.update (Config.storeSession session)).1 = .ok ()
  /-- The configuration holds the session, and is the same otherwise. -/
  config : o.store.config = { store.config with
    homeserver := { store.config.homeserver with
      accessToken := some session.accessToken
      device := session.device
      user := some session.user } }
  /-- If it is kept in a file, this is what is in it. -/
  file : ∀ f ∈ o.store.file, f.text = o.store.config.toText

/-- The password is sent only where it is needed, and the session and the configuration are in
step. -/
structure Orderly (link : Link L) (client : Client L) (store : ConfigStore) (o : LoginOutcome L) :
    Prop where
  /-- Whoever is logged in goes on with the stored session, or opens a new one. -/
  loggedIn : ∀ user, o.result = .ok user ↔ o.Resumed link client store user ∨
    ∃ session : Session, session.user = user ∧ o.Opened link client store session
  /-- A token of which it cannot be told whether it is good is kept. -/
  untold : ∀ e, client.accessToken ≠ none → client.whoami link = .error e →
    ¬e.isUnknownToken = true → o.result = .error e ∧ o.client.logins = [] ∧
      client.SameSession o.client ∧ o.store = store
  /-- With nothing to log in with, no session is asked for. -/
  lacking : client.NeedsPassword link → Client.LacksCredentials store.config.homeserver →
    o.result = .error .noCredentials ∧ o.client.logins = [] ∧ o.store = store
  /-- After a failure the configuration is what it was. -/
  failed : ∀ e, o.result = .error e → o.store.config = store.config ∧
    o.store.file.map ConfigFile.text = store.file.map ConfigFile.text
  /-- Nothing but the token is told to the homeserver, unless a session is asked for, once. -/
  told : ∀ sent ∈ o.client.history, sent.1.body = none ∨
    client.NeedsPassword link ∧ ¬Client.LacksCredentials store.config.homeserver ∧
      sent.1 = Client.passwordRequest client.base store.config.homeserver ∧
      o.client.logins = [sent]

end LoginOutcome

namespace Client

open LoginOutcome

variable {L : Type} {link : Link L} {client : Client L} {store : ConfigStore}

theorem base_asking (link : Link L) (c : Client L) : (c.asking link).base = c.base := by
  unfold asking
  split
  · rfl
  · exact (c.answer_whoami link).2.base

theorem logins_asking (link : Link L) (c : Client L) : (c.asking link).logins = c.logins := by
  unfold asking
  split
  · rfl
  · exact logins_answer_whoami link c

/-- A new client has sent nothing with a body when it knows whom its token belongs to. -/
theorem body_answer_whoami (hfresh : client.history = []) :
    ∀ sent ∈ (client.answer link .whoami).2.history, sent.1.body = none := by
  rcases (client.answer_whoami link).1 with hkept | ⟨sent, hsent, -, hbody⟩
  · rw [hkept, hfresh]
    exact List.forall_mem_nil _
  · rw [hsent, hfresh]
    exact List.forall_mem_singleton.2 hbody

theorem body_asking (link : Link L) (hfresh : client.history = []) :
    ∀ sent ∈ (client.asking link).history, sent.1.body = none := by
  unfold asking
  split
  · rw [hfresh]
    exact List.forall_mem_nil _
  · exact body_answer_whoami hfresh

/-- What becomes of a new client that needs its password and has it: the request for a session is
lost or refused, or the session that is the answer to it is taken over. -/
theorem login_of_credentials (hfresh : client.history = []) (hneeded : client.NeedsPassword link)
    (hcredentials : ¬LacksCredentials store.config.homeserver) :
    (∃ (e : ActionError) (c : Client L) (notices : List Notice),
      client.login link store = ⟨.error e, c, store, notices⟩ ∧
      (∀ sent ∈ c.history, sent.1.body = none ∨ sent ∈ c.logins) ∧
      (c.logins = [] ∨ ∃ delivery,
        c.logins = [(passwordRequest client.base store.config.homeserver, delivery)] ∧
        ∀ response, delivery = .answered response →
          response.read Reply.session? = .error e)) ∨
    ∃ (session : Session) (response : Response) (c : Client L) (notices : List Notice),
      client.login link store = { c.adopt session store with notices := notices } ∧
      (∀ sent ∈ c.history, sent.1.body = none ∨ sent ∈ c.logins) ∧
      c.base = client.base ∧ response.read Reply.session? = .ok session ∧
      c.logins = [(passwordRequest client.base store.config.homeserver, .answered response)] := by
  obtain ⟨notices, hlogin⟩ := login_of_needsPassword store hneeded
  have hbase := client.base_asking link
  have hbody := body_asking link hfresh
  have hasking : (client.asking link).logins = [] := by
    rw [logins_asking, logins, hfresh, List.filter_nil]
  let request := passwordRequest client.base store.config.homeserver
  have hsentOnce : ∀ (c : Client L) (delivery : Delivery), SameSession (client.asking link) c →
      c.history = (request, delivery) :: (client.asking link).history →
      c.logins = [(request, delivery)] ∧
        ∀ sent ∈ c.history, sent.1.body = none ∨ sent ∈ c.logins := by
    intro c delivery hsame hsent
    have hopens : opensSession (client.asking link).base request = true := by
      simp [opensSession, request, passwordRequest, hbase]
    have hlogins : c.logins = [(request, delivery)] := by
      rw [logins_cons hsame.base hsent, if_pos hopens, hasking]
    refine ⟨hlogins, fun sent hmem => ?_⟩
    rw [hsent] at hmem
    rw [hlogins, List.mem_singleton]
    exact (List.mem_cons.1 hmem).symm.imp_left (hbody sent)
  rw [hlogin]
  rcases loginWithPassword_cases link (client.asking link) store hcredentials with
    ⟨e, c, hcase, hsame, hhistory⟩ | ⟨session, response, c, hcase, hsame, hread, hsent⟩
  · rw [hbase] at hhistory
    refine .inl ⟨e, c, notices, by rw [hcase], ?_⟩
    rcases hhistory with hkept | ⟨delivery, hsent, hrefused⟩
    · refine ⟨fun sent hmem => .inl (hbody sent (hkept ▸ hmem)), .inl ?_⟩
      rw [logins, hkept, hsame.base]
      exact hasking
    · obtain ⟨hlogins, hbodies⟩ := hsentOnce c delivery hsame hsent
      exact ⟨hbodies, .inr ⟨delivery, hlogins, hrefused⟩⟩
  · rw [hbase] at hsent
    obtain ⟨hlogins, hbodies⟩ := hsentOnce c _ hsame hsent
    exact .inr ⟨session, response, c, notices, by rw [hcase], hbodies, hsame.base.trans hbase,
      hread, hlogins⟩

/-- A new client has sent nothing, and speaks in the name of the stored token unless it is empty. -/
theorem fresh_of_ofConfig {config : Config} {l : L} (h : ofConfig config l = .ok client) :
    client.history = [] ∧ client.accessToken = config.homeserver.accessToken.filter (· ≠ "") := by
  obtain ⟨base, -, rfl⟩ := ofConfig_eq_ok_iff.1 h
  exact ⟨rfl, rfl⟩

/-- Who does not need the password is told by whom the token belongs to. -/
theorem exists_whoami_of_not_needsPassword (h : ¬client.NeedsPassword link) :
    client.accessToken ≠ none ∧ ((∃ user, client.whoami link = .ok user) ∨
      ∃ e, client.whoami link = .error e ∧ ¬e.isUnknownToken = true) := by
  obtain ⟨htoken, hknown⟩ := not_or.1 h
  refine ⟨htoken, ?_⟩
  cases hwhoami : client.whoami link with
  | ok user => exact .inl ⟨user, rfl⟩
  | error e =>
    refine .inr ⟨e, rfl, fun hunknown => ?_⟩
    cases e with
    | api status code text =>
      obtain rfl : code = "M_UNKNOWN_TOKEN" := eq_of_beq hunknown
      exact hknown ⟨status, text, hwhoami⟩
    | _ => cases hunknown

/-- Without a need for the password, no session is opened. -/
theorem not_opened (h : ¬client.NeedsPassword link) (session : Session) (o : LoginOutcome L) :
    ¬o.Opened link client store session :=
  fun hopened => h hopened.needed

/-- With a need for the password, no session is resumed. -/
theorem not_resumed (h : client.NeedsPassword link) (user : MemberId) (o : LoginOutcome L) :
    ¬o.Resumed link client store user := by
  intro hresumed
  rcases h with hnone | ⟨status, text, hunknown⟩
  · exact hresumed.stored hnone
  · rw [hresumed.answered] at hunknown
    cases hunknown

/-- The outcome for a new client whose token is good. -/
theorem orderly_of_whoami_ok {user : MemberId} (hfresh : client.history = [])
    (hneeded : ¬client.NeedsPassword link) (hwhoami : client.whoami link = .ok user) :
    (client.login link store).Orderly link client store := by
  have hsome : client.accessToken ≠ none := fun hnone => hneeded (.inl hnone)
  obtain ⟨notices, hlogin⟩ := login_of_whoami_ok store hsome hwhoami
  have hlogins : (client.answer link .whoami).2.logins = [] := by
    rw [logins_answer_whoami, logins, hfresh, List.filter_nil]
  rw [hlogin]
  refine ⟨fun other => ⟨fun h => ?_, ?_⟩, fun e _ h _ => ?_, fun h => absurd h hneeded, nofun,
    fun sent hsent => .inl (body_answer_whoami hfresh sent hsent)⟩
  · obtain rfl := Except.ok.inj h
    exact .inl ⟨hsome, hwhoami, hlogins, (client.answer_whoami link).2, rfl⟩
  · rintro (hresumed | ⟨session, -, hopened⟩)
    · rw [← Except.ok.inj (hwhoami.symm.trans hresumed.answered)]
    · exact absurd hopened (not_opened hneeded session _)
  · rw [hwhoami] at h
    cases h

/-- The outcome for a new client of which it cannot be told whether its token is good. -/
theorem orderly_of_whoami_error {e : ActionError} (hfresh : client.history = [])
    (hneeded : ¬client.NeedsPassword link) (hwhoami : client.whoami link = .error e)
    (hknown : ¬e.isUnknownToken = true) :
    (client.login link store).Orderly link client store := by
  have hsome : client.accessToken ≠ none := fun hnone => hneeded (.inl hnone)
  obtain ⟨notices, hlogin⟩ := login_of_whoami_error store hsome hwhoami hknown
  have hlogins : (client.answer link .whoami).2.logins = [] := by
    rw [logins_answer_whoami, logins, hfresh, List.filter_nil]
  rw [hlogin]
  refine ⟨fun user => ⟨nofun, ?_⟩, fun e' _ h _ => ?_, fun h => absurd h hneeded,
    fun _ _ => ⟨rfl, rfl⟩, fun sent hsent => .inl (body_answer_whoami hfresh sent hsent)⟩
  · rintro (hresumed | ⟨session, -, hopened⟩)
    · have hanswer := hresumed.answered
      rw [hwhoami] at hanswer
      cases hanswer
    · exact absurd hopened (not_opened hneeded session _)
  · obtain rfl := Except.error.inj (hwhoami.symm.trans h)
    exact ⟨rfl, hlogins, (client.answer_whoami link).2, rfl⟩

/-- The homeserver does not know the token of a client that has one and needs its password. -/
theorem isUnknownToken_of_needsPassword {e : ActionError} (hneeded : client.NeedsPassword link)
    (hsome : client.accessToken ≠ none) (hwhoami : client.whoami link = .error e) :
    e.isUnknownToken = true := by
  obtain ⟨status, text, hunknown⟩ := hneeded.resolve_left hsome
  obtain rfl := Except.error.inj (hwhoami.symm.trans hunknown)
  rfl

/-- The outcome for a new client that needs its password and has none. -/
theorem orderly_of_lacks (hfresh : client.history = []) (hneeded : client.NeedsPassword link)
    (hlacks : LacksCredentials store.config.homeserver) :
    (client.login link store).Orderly link client store := by
  obtain ⟨notices, hlogin⟩ := login_of_needsPassword store hneeded
  have hlogins : (client.asking link).logins = [] := by
    rw [logins_asking, logins, hfresh, List.filter_nil]
  rw [hlogin, loginWithPassword_of_lacks hlacks]
  refine ⟨fun user => ⟨nofun, ?_⟩, fun e hsome h hknown =>
    absurd (isUnknownToken_of_needsPassword hneeded hsome h) hknown,
    fun _ _ => ⟨rfl, hlogins, rfl⟩, fun _ _ => ⟨rfl, rfl⟩,
    fun sent hsent => .inl (body_asking link hfresh sent hsent)⟩
  rintro (hresumed | ⟨session, -, hopened⟩)
  · exact absurd hresumed (not_resumed hneeded user _)
  · exact absurd hlacks hopened.credentials

/-- The one request for a session that is sent is the one with the password. -/
theorem told_of_logins {c : Client L} {delivery : Delivery} (hneeded : client.NeedsPassword link)
    (hcredentials : ¬LacksCredentials store.config.homeserver)
    (hlogins : c.logins = [(passwordRequest client.base store.config.homeserver, delivery)]) :
    ∀ sent ∈ c.logins, client.NeedsPassword link ∧
      ¬LacksCredentials store.config.homeserver ∧
      sent.1 = passwordRequest client.base store.config.homeserver ∧ c.logins = [sent] := by
  intro sent hsent
  rw [hlogins] at hsent ⊢
  obtain rfl := List.mem_singleton.1 hsent
  exact ⟨hneeded, hcredentials, rfl, rfl⟩

/-- The outcome where no session is the answer to the request for one. -/
theorem orderly_of_refused {e : ActionError} {c : Client L} {notices : List Notice}
    (hneeded : client.NeedsPassword link)
    (hcredentials : ¬LacksCredentials store.config.homeserver)
    (hbodies : ∀ sent ∈ c.history, sent.1.body = none ∨ sent ∈ c.logins)
    (hlogins : c.logins = [] ∨ ∃ delivery,
      c.logins = [(passwordRequest client.base store.config.homeserver, delivery)] ∧
      ∀ response, delivery = .answered response → response.read Reply.session? = .error e) :
    Orderly link client store ⟨.error e, c, store, notices⟩ := by
  refine ⟨fun user => ⟨nofun, ?_⟩, fun e hsome h hknown =>
    absurd (isUnknownToken_of_needsPassword hneeded hsome h) hknown,
    fun _ hlacks => absurd hlacks hcredentials, fun _ _ => ⟨rfl, rfl⟩,
    fun sent hsent => (hbodies sent hsent).imp_right fun hmem => ?_⟩
  · rintro (hresumed | ⟨session, -, hopened⟩)
    · exact absurd hresumed (not_resumed hneeded user _)
    · obtain ⟨response, hread, hasked⟩ := hopened.asked
      change c.logins = _ at hasked
      rcases hlogins with hnone | ⟨delivery, hone, hrefused⟩
      · rw [hasked] at hnone
        cases hnone
      · rw [hasked] at hone
        obtain rfl := (Prod.mk.inj (List.cons.inj hone).1).2
        rw [hrefused response rfl] at hread
        cases hread
  · rcases hlogins with hnone | ⟨delivery, hone, -⟩
    · rw [hnone] at hmem
      cases hmem
    · exact told_of_logins hneeded hcredentials hone sent hmem

/-- The outcome where a session is the answer to the request for one. -/
theorem orderly_of_adopts {session : Session} {response : Response} {o : LoginOutcome L}
    (hneeded : client.NeedsPassword link)
    (hcredentials : ¬LacksCredentials store.config.homeserver)
    (hadopts : Adopts session store o) (hbase : o.client.base = client.base)
    (hbodies : ∀ sent ∈ o.client.history, sent.1.body = none ∨ sent ∈ o.client.logins)
    (hread : response.read Reply.session? = .ok session)
    (hlogins : o.client.logins =
      [(passwordRequest client.base store.config.homeserver, .answered response)]) :
    Orderly link client store o := by
  have hone : ∀ other, o.Opened link client store other → other = session := by
    intro other hopened
    obtain ⟨response', hread', hasked⟩ := hopened.asked
    rw [hlogins] at hasked
    obtain rfl := Delivery.answered.inj (Prod.mk.inj (List.cons.inj hasked).1).2
    exact Except.ok.inj (hread'.symm.trans hread)
  refine ⟨fun user => ?_, fun e hsome h hknown =>
    absurd (isUnknownToken_of_needsPassword hneeded hsome h) hknown,
    fun _ hlacks => absurd hlacks hcredentials, fun e herror => ?_,
    fun sent hsent => (hbodies sent hsent).imp_right
      (told_of_logins hneeded hcredentials hlogins sent)⟩
  · cases hkept : (store.update (Config.storeSession session)).1 with
    | error e =>
      obtain ⟨hresult, -⟩ := hadopts.lost e hkept
      rw [hresult]
      refine ⟨nofun, ?_⟩
      rintro (hresumed | ⟨other, -, hopened⟩)
      · exact absurd hresumed (not_resumed hneeded user _)
      · obtain rfl := hone other hopened
        have hopen := hopened.kept
        rw [hkept] at hopen
        cases hopen
    | ok _ =>
      obtain ⟨hresult, hconfig, hfile⟩ := hadopts.kept hkept
      rw [hresult]
      refine ⟨fun hok => .inr ⟨session, Except.ok.inj hok, hneeded, hcredentials,
        ⟨response, hread, hlogins⟩, hbase, hadopts.accessToken, hkept, hconfig, hfile⟩, ?_⟩
      rintro (hresumed | ⟨other, rfl, hopened⟩)
      · exact absurd hresumed (not_resumed hneeded user _)
      · rw [hone other hopened]
  · cases hkept : (store.update (Config.storeSession session)).1 with
    | error e' => exact (hadopts.lost e' hkept).2
    | ok _ =>
      rw [(hadopts.kept hkept).1] at herror
      cases herror

/-- The outcome for a new client that needs its password and has it. -/
theorem orderly_of_credentials (hfresh : client.history = [])
    (hneeded : client.NeedsPassword link)
    (hcredentials : ¬LacksCredentials store.config.homeserver) :
    (client.login link store).Orderly link client store := by
  rcases login_of_credentials hfresh hneeded hcredentials with
    ⟨e, c, notices, hlogin, hbodies, hlogins⟩ |
    ⟨session, response, c, notices, hlogin, hbodies, hbase, hread, hlogins⟩
  · rw [hlogin]
    exact orderly_of_refused hneeded hcredentials hbodies hlogins
  · rw [hlogin]
    exact orderly_of_adopts hneeded hcredentials (adopts_adopt session c store notices) hbase
      hbodies hread hlogins

/-- A login of a new client is orderly; the token of a new client is the stored one, unless that is
empty. -/
theorem login_orderly {l : L} (h : ofConfig store.config l = .ok client) (link : Link L) :
    client.accessToken = store.config.homeserver.accessToken.filter (· ≠ "") ∧
      (client.login link store).Orderly link client store := by
  obtain ⟨hfresh, htoken⟩ := fresh_of_ofConfig h
  refine ⟨htoken, ?_⟩
  by_cases hneeded : client.NeedsPassword link
  · by_cases hlacks : LacksCredentials store.config.homeserver
    · exact orderly_of_lacks hfresh hneeded hlacks
    · exact orderly_of_credentials hfresh hneeded hlacks
  · obtain ⟨-, ⟨user, hwhoami⟩ | ⟨e, hwhoami, hknown⟩⟩ :=
      exists_whoami_of_not_needsPassword hneeded
    · exact orderly_of_whoami_ok hfresh hneeded hwhoami
    · exact orderly_of_whoami_error hfresh hneeded hwhoami hknown

end Client

/-! ### A forgotten session -/

namespace Sample

/-- A bot with a password and with the session of an earlier login. -/
def returning : ConfigStore :=
  .inMemory (.ofHomeserver
    { url := "https://x"
      login := "warden"
      password := "secret"
      accessToken := some "stale"
      device := some "den"
      user := some ⟨"@warden:x"⟩ })

/-- A homeserver that knows no session, and opens one for whoever asks for it. -/
def forgetful : Link Unit where
  carry request _ :=
    match request.method with
    | .get => (.answered ⟨401,
        "\x7b\"errcode\":\"M_UNKNOWN_TOKEN\",\"error\":\"gone\"\x7d".toUTF8.data.toList⟩, ())
    | _ => (.answered ⟨200,
        "\x7b\"access_token\":\"fresh\",\"user_id\":\"@warden:x\"\x7d".toUTF8.data.toList⟩, ())

end Sample

/-- The stale token is given up and a session is opened, which has no device. -/
theorem warden_logged_in_anew :
    let client : Client Unit :=
      ⟨⟨"https", some "x", .segments [[]], none, none⟩, some "stale", 40000, (), []⟩
    Client.ofConfig Sample.returning.config () = .ok client ∧
      client.accessToken = some "stale" ∧
      ∃ session : Session, session.user = ⟨"@warden:x"⟩ ∧
        (client.login Sample.forgetful Sample.returning).Opened
          Sample.forgetful client Sample.returning session := by
  intro client
  have htoken : Sample.returning.config.homeserver.accessToken.filter (· ≠ "") = some "stale" := by
    decide +kernel
  have hclient : Client.ofConfig Sample.returning.config () = .ok client :=
    Client.ofConfig_eq_ok_iff.2 ⟨client.base, by decide +kernel, by rw [htoken]; rfl⟩
  have hresult : (client.login Sample.forgetful Sample.returning).result = .ok ⟨"@warden:x"⟩ := by
    decide +kernel
  have hwhoami : client.whoami Sample.forgetful ≠ .ok ⟨"@warden:x"⟩ := by decide +kernel
  obtain ⟨-, horderly⟩ := Client.login_orderly hclient Sample.forgetful
  rcases (horderly.loggedIn _).1 hresult with hresumed | hopened
  · exact absurd hresumed.answered hwhoami
  · exact ⟨hclient, rfl, hopened⟩

end RoomModeration
