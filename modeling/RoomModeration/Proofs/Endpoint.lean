import Mathlib.Data.List.TakeWhile
import RoomModeration.Client.Basic
import RoomModeration.Proofs.Url.Path

/-!
# Where requests about a room go

The identifier of a room is one segment of the path of each request about the room. Whatever
characters it is made of, it adds one segment to the path and nothing to the query or the fragment,
and it is this identifier that is read out of the path again. So a request about one room is never
a request about another room, or about anything else.

A path is told from a query and a fragment by the characters that it does not hold. This is shown
for the address of the homeserver, as it has been read, and then kept up while segments and
parameters are added to it.

The segments of the address of the homeserver stand in front, but for a last one that is empty. If
only one empty segment is left then, it is not kept either.

## Main definitions

* `Url.Sound` : the parts of an address are told apart by the characters that they do not hold.
* `Url.ground`, `Url.footing` : the segments of an address without a last one that is empty, and
  those of them that others are put behind.
* `Endpoint.Straight` : the address of an endpoint names its segments, and nothing else.

## Main results

* `Url.Sound.ofParse` : an address that has been read is sound.
* `Url.Sound.splitTail_behindHost` : the path, the query and the fragment are told apart.
* `Endpoint.straight_of_sound` : endpoints with plain segments.
* `Endpoint.room_requests_straight` : requests about rooms.
-/

namespace RoomModeration

namespace Url

/-! ### Addresses that have been read -/

/-- An address is read as a scheme, perhaps a host, and what follows it. -/
theorem exists_withTail_of_parse {text : String} {u : Url} (h : parse text = .ok u) :
    ∃ scheme authority s, u = withTail scheme authority s := by
  unfold parse at h
  split at h
  · cases h
  · next scheme rest _ =>
    dsimp only at h
    split at h
    · split at h
      · exact ⟨_, _, _, (Except.ok.inj h).symm⟩
      · cases hhost : readFileHost ((rest.drop 2).takeWhile (!endsAuthority true ·)) with
        | error e =>
          rw [hhost] at h
          cases h
        | ok host =>
          rw [hhost] at h
          exact ⟨_, _, _, (Except.ok.inj h).symm⟩
    · split at h
      · revert h
        generalize readAuthority scheme _ = authority
        intro h
        cases authority with
        | error e => cases h
        | ok authority => exact ⟨_, _, _, (Except.ok.inj h).symm⟩
      · exact ⟨_, _, _, (Except.ok.inj h).symm⟩

/-- The parts of an address are told apart by the characters that they do not hold. -/
structure Sound (u : Url) (segments : List (List Char)) : Prop where
  /-- The address can be built upon. -/
  path : u.path = .segments segments
  /-- The path starts with a slash. -/
  ne_nil : segments ≠ []
  /-- No segment holds what ends a segment or the path. -/
  notMem : ∀ s ∈ segments, ∀ c ∈ ['/', '?', '#'], c ∉ s
  /-- The query does not hold what ends it. -/
  query : ∀ q ∈ u.query, '#' ∉ q

/-- The segments of a path that has been read do not hold what ends a segment or the path. -/
theorem notMem_readSegments (special : Bool) (text : List Char) :
    ∀ s ∈ readSegments special text, ∀ c ∈ ['/', '?', '#'], c ∉ s := by
  refine forall_mem_resolve (fun _ _ => List.not_mem_nil) (List.forall_mem_nil _) ?_
  intro s hs c hc
  obtain ⟨piece, hpiece, rfl⟩ := List.mem_map.1 hs
  have hcode := notMem_codeChars hc
  rcases List.mem_cons.1 hc with rfl | hc
  · -- a slash is kept, but it has been taken out before
    exact fun hmem => notMem_of_mem_splitOn hpiece (Text.mem_of_mem_percentEncode hcode hmem).1
  · have hlost : keptInPath c = false := by
      simp only [List.mem_cons, List.not_mem_nil, or_false] at hc
      rcases hc with rfl | rfl <;> rfl
    exact Text.notMem_percentEncode hcode hlost piece

theorem readSegments_ne_nil (special : Bool) (text : List Char) :
    readSegments special text ≠ [] :=
  resolve_ne_nil (mt List.map_eq_nil_iff.1 (List.splitOn_ne_nil _ _))

/-- An address that has been read is sound if its scheme is one of those with hosts. -/
theorem Sound.ofParse {text : String} {u : Url} (h : parse text = .ok u)
    (hspecial : isSpecial u.scheme = true) : ∃ segments, u.Sound segments := by
  obtain ⟨scheme, authority, s, rfl⟩ := exists_withTail_of_parse h
  have hscheme : isSpecial scheme = true := hspecial
  have hpath : ∃ text, (withTail scheme authority s).path = .segments (readSegments true text) := by
    unfold withTail
    simp only [hscheme, if_true]
    split
    · exact ⟨_, rfl⟩
    · exact ⟨_, rfl⟩
  obtain ⟨text, hpath⟩ := hpath
  refine ⟨_, hpath, readSegments_ne_nil true text, notMem_readSegments true text, ?_⟩
  intro q hq
  obtain ⟨read, -, rfl⟩ := Option.map_eq_some_iff.1 hq
  have hlost : ∀ special, keptInQuery special '#' = false := by decide
  exact Text.notMem_percentEncode (by decide) (hlost _) read

/-! ### Written addresses -/

/-- How the part of an address behind its host is written, with the fragment. -/
def behindHost (u : Url) : List Char :=
  u.target ++ u.fragment.elim [] ('#' :: ·)

theorem text_eq (u : Url) :
    u.text =
      u.scheme ++ ":" ++ u.authority.elim "" ("//" ++ ·) ++ String.ofList u.behindHost := by
  rw [text, behindHost, String.ofList_append, ← String.append_assoc]

/-- What stands before a question mark or a hash is the path. -/
theorem splitTail_append {path rest : List Char} (hpath : ∀ c ∈ path, c ≠ '?' ∧ c ≠ '#')
    (hrest : ∀ c ∈ rest.head?, c = '?' ∨ c = '#') :
    splitTail (path ++ rest) = (path, (splitTail rest).2) := by
  have htake : ∀ l : List Char, (∀ c ∈ l.head?, c = '?' ∨ c = '#') →
      l.takeWhile (fun c => c != '?' && c != '#') = [] := by
    intro l hl
    cases l with
    | nil => rfl
    | cons c l =>
      rcases hl c rfl with rfl | rfl <;> rfl
  have hall : ∀ c ∈ path, (c != '?' && c != '#') = true := by
    intro c hc
    obtain ⟨hmark, hhash⟩ := hpath c hc
    rw [Bool.and_eq_true, bne_iff_ne, bne_iff_ne]
    exact ⟨hmark, hhash⟩
  have hpathTake : (path ++ rest).takeWhile (fun c => c != '?' && c != '#') = path := by
    rw [List.takeWhile_append_of_pos hall, htake rest hrest, List.append_nil]
  unfold splitTail
  simp only [hpathTake, htake rest hrest, List.drop_left, List.length_nil, List.drop_zero]
  split <;> rfl

/-- A query ends before the first hash. -/
theorem splitTail_query {query fragment : Option (List Char)} (h : ∀ q ∈ query, '#' ∉ q) :
    splitTail (query.elim [] ('?' :: ·) ++ fragment.elim [] ('#' :: ·)) =
      ([], query, fragment) := by
  cases query with
  | none => cases fragment <;> simp [splitTail]
  | some q =>
    have hall : ∀ c ∈ q, (c != '#') = true := by
      intro c hc
      rw [bne_iff_ne]
      rintro rfl
      exact h q rfl hc
    cases fragment with
    | none =>
      have htake : q.takeWhile (fun c => c != '#') = q := List.takeWhile_eq_self_iff.2 hall
      simpa [splitTail, htake] using h q rfl
    | some f =>
      have htake : (q ++ '#' :: f).takeWhile (fun c => c != '#') = q := by
        rw [List.takeWhile_append_of_pos hall]
        exact List.append_nil q
      have hdrop : (q ++ '#' :: f).dropWhile (fun c => c != '#') = '#' :: f := by
        rw [List.dropWhile_append_of_pos hall]
        rfl
      simp [splitTail, htake, hdrop]

/-- The path, the query and the fragment of a sound address are told apart. -/
theorem Sound.splitTail_behindHost {u : Url} {segments : List (List Char)}
    (h : u.Sound segments) : splitTail u.behindHost = (u.pathText, u.query, u.fragment) := by
  have hpath : ∀ c ∈ u.pathText, c ≠ '?' ∧ c ≠ '#' := by
    intro c hc
    rw [pathText, h.path] at hc
    obtain ⟨s, hs, hmem⟩ := List.mem_flatMap.1 hc
    rcases List.mem_cons.1 hmem with rfl | hmem
    · decide
    · constructor
      · rintro rfl
        exact h.notMem s hs '?' (by decide) hmem
      · rintro rfl
        exact h.notMem s hs '#' (by decide) hmem
  have hrest : ∀ c ∈ (u.query.elim [] ('?' :: ·) ++ u.fragment.elim [] ('#' :: ·)).head?,
      c = '?' ∨ c = '#' := by
    cases u.query with
    | some q => exact fun c hc => .inl (Option.some.inj hc).symm
    | none =>
      cases u.fragment with
      | some f => exact fun c hc => .inr (Option.some.inj hc).symm
      | none => exact fun c hc => absurd hc (Option.not_mem_none c)
  rw [behindHost, target, List.append_assoc, splitTail_append hpath hrest,
    splitTail_query h.query]

/-! ### More parameters -/

/-- An address with more parameters. -/
def withParameters (u : Url) (parameters : List (String × String)) : Url :=
  parameters.foldl (fun u (name, value) => u.withParameter name value) u

/-- Parameters do not depend on the path. -/
theorem withParameters_path (u : Url) (path : UrlPath) (parameters : List (String × String)) :
    { u with path := path }.withParameters parameters =
      { u.withParameters parameters with path := path } := by
  induction parameters generalizing u with
  | nil => rfl
  | cons parameter parameters ih => exact ih (u.withParameter parameter.1 parameter.2)

/-- Parameters change nothing but the query. -/
theorem withParameters_eq (u : Url) (parameters : List (String × String)) :
    u.withParameters parameters = { u with query := (u.withParameters parameters).query } := by
  induction parameters generalizing u with
  | nil => rfl
  | cons parameter parameters ih => exact ih (u.withParameter parameter.1 parameter.2)

theorem notMem_encodeParameter (s : List Char) : '#' ∉ encodeParameter s := by
  intro hmem
  obtain ⟨c, -, hc⟩ := List.mem_flatMap.1 hmem
  split at hc
  · exact absurd (List.mem_singleton.1 hc) (by decide)
  · exact Text.notMem_percentEncode (by decide) rfl [c] hc

variable {u base : Url} {segments : List (List Char)}

theorem Sound.withParameter (h : u.Sound segments) (name value : String) :
    (u.withParameter name value).Sound segments := by
  have hpair : '#' ∉ encodeParameter name.toList ++ ['='] ++ encodeParameter value.toList := by
    simp only [List.mem_append, not_or]
    exact ⟨⟨notMem_encodeParameter _, by decide⟩, notMem_encodeParameter _⟩
  refine ⟨h.path, h.ne_nil, h.notMem, fun q hq => ?_⟩
  obtain rfl := Option.some.inj hq
  split
  · exact hpair
  · exact hpair
  · next q _ hquery =>
    rw [List.mem_append, List.mem_append, not_or, not_or]
    exact ⟨⟨h.query q hquery, by decide⟩, hpair⟩

theorem Sound.withParameters (h : u.Sound segments) (parameters : List (String × String)) :
    (u.withParameters parameters).Sound segments := by
  induction parameters generalizing u with
  | nil => exact h
  | cons parameter parameters ih => exact ih (h.withParameter parameter.1 parameter.2)

/-! ### Where segments are put -/

/-- The segments of a path as they are written. -/
def steps (u : Url) : List (List Char) :=
  (u.pathText.splitOn '/').drop 1

/-- The segments of a path as they are written, without a last one that is empty. -/
def ground (u : Url) : List (List Char) :=
  if u.steps.getLast? = some [] then u.steps.dropLast else u.steps

/-- The segments of a path that others are put behind. If only an empty one is left, it is none of
them. -/
def footing (u : Url) : List (List Char) :=
  if u.ground = [[]] then [] else u.ground

theorem Sound.splitOn_pathText (h : u.Sound segments) : u.pathText.splitOn '/' = [] :: segments :=
  Url.splitOn_pathText h.path fun s hs => h.notMem s hs '/' (by decide)

theorem Sound.steps_eq (h : u.Sound segments) : u.steps = segments := by
  rw [steps, h.splitOn_pathText, List.drop_one, List.tail_cons]

theorem Sound.footing_subset (h : u.Sound segments) : u.footing ⊆ segments := by
  have hground : u.ground ⊆ segments := by
    rw [ground, h.steps_eq]
    split
    · exact List.dropLast_subset segments
    · exact List.Subset.refl segments
  rw [footing]
  split
  · exact List.nil_subset segments
  · exact hground

/-- When the trailing slash is taken off, the footing is left, or a lone slash where it is empty. -/
theorem Sound.withoutTrailingSlash (h : u.Sound segments) :
    ∃ kept, u.withoutTrailingSlash = { u with path := .segments kept } ∧
      (if kept = [[]] then [] else kept) = u.footing := by
  have hpath := h.path
  rw [footing, ground, h.steps_eq, Url.withoutTrailingSlash, hpath]
  dsimp only
  by_cases hlast : segments.getLast? = some []
  · rw [if_pos hlast]
    by_cases hlong : 1 < segments.length
    · exact ⟨segments.dropLast, by simp [hlast, hlong], rfl⟩
    · have hone : segments.length = 1 := by
        have hpos := List.length_pos_iff.2 h.ne_nil
        omega
      obtain ⟨s, rfl⟩ := List.length_eq_one_iff.1 hone
      obtain rfl := Option.some.inj hlast
      exact ⟨[[]], by simp [← hpath], rfl⟩
  · rw [if_neg hlast]
    exact ⟨segments, by simp [hlast, ← hpath], rfl⟩

end Url

/-! ### Endpoints -/

namespace Endpoint

open Url (IsPlain written)

variable {base : Url} {segments : List (List Char)} {e e' : Endpoint}

/-- The segments of an endpoint are put behind the footing, and its parameters behind those that
are there. -/
theorem url_eq (h : base.Sound segments) (hplain : ∀ s ∈ e.segments, IsPlain s) :
    e.url base =
      { base.withParameters e.parameters with
        path := .segments (base.footing ++
          (sharedSegments ++ e.segments).map (written (Url.isSpecial base.scheme))) } := by
  obtain ⟨kept, hkept, hfooting⟩ := h.withoutTrailingSlash
  have hall : ∀ s ∈ sharedSegments ++ e.segments, IsPlain s :=
    List.forall_mem_append.2 ⟨by decide, hplain⟩
  have hpath : base.withoutTrailingSlash.path = .segments kept := by rw [hkept]
  have hpush := Url.pushAll_of_isPlain hpath (by decide) hall
  rw [hfooting, hkept] at hpush
  have hurl : e.url base =
      (base.withoutTrailingSlash.pushAll (sharedSegments ++ e.segments)).withParameters
        e.parameters := rfl
  rw [hurl, hkept]
  exact (congrArg (Url.withParameters · e.parameters) hpush).trans
    (base.withParameters_path _ e.parameters)

/-- The address of an endpoint names its segments, and nothing else. -/
structure Straight (e : Endpoint) (base : Url) : Prop where
  /-- But for the path, it is the address of the homeserver, with the parameters of the endpoint. -/
  rest : e.url base = { base.withParameters e.parameters with path := (e.url base).path }
  /-- What is read out of the path are the segments of the homeserver's address, those that all
  endpoints share, and those of the endpoint. -/
  path : ((e.url base).pathText.splitOn '/').map Text.percentDecode =
    [] :: (base.footing.map Text.percentDecode ++
      (sharedSegments ++ e.segments).map fun s => s.toUTF8.data.toList)
  /-- In what is written behind the host, the path, the query and the fragment are told apart. -/
  apart : Url.splitTail (e.url base).behindHost =
    ((e.url base).pathText, (e.url base).query, (e.url base).fragment)

theorem straight_of_sound (h : base.Sound segments) (hplain : ∀ s ∈ e.segments, IsPlain s) :
    e.Straight base := by
  have hurl := url_eq h hplain
  have hsound : (e.url base).Sound (base.footing ++
      (sharedSegments ++ e.segments).map (written (Url.isSpecial base.scheme))) := by
    rw [hurl]
    refine ⟨rfl, List.append_ne_nil_of_right_ne_nil _ (List.cons_ne_nil _ _), ?_,
      (h.withParameters e.parameters).query⟩
    refine List.forall_mem_append.2 ⟨fun s hs => h.notMem s (h.footing_subset hs), ?_⟩
    intro s hs c hc
    obtain ⟨segment, -, rfl⟩ := List.mem_map.1 hs
    exact Url.notMem_written hc _ segment
  refine ⟨by rw [hurl], ?_, hsound.splitTail_behindHost⟩
  rw [hsound.splitOn_pathText, List.map_cons, List.map_append, List.map_map]
  congr 2
  exact List.map_congr_left fun s _ => Url.percentDecode_written _ s

/-- Endpoints with the same address have the same segments. -/
theorem Straight.segments_eq (h : e.Straight base) (h' : e'.Straight base)
    (htext : (e.url base).text = (e'.url base).text) : e.segments = e'.segments := by
  have hfront : ∀ {e : Endpoint}, e.Straight base →
      (e.url base).scheme = base.scheme ∧ (e.url base).authority = base.authority := by
    intro e he
    rw [he.rest, base.withParameters_eq]
    exact ⟨rfl, rfl⟩
  have hbehind : (e.url base).behindHost = (e'.url base).behindHost := by
    obtain ⟨hscheme, hauthority⟩ := hfront h
    obtain ⟨hscheme', hauthority'⟩ := hfront h'
    rw [Url.text_eq, Url.text_eq, hscheme, hscheme', hauthority, hauthority'] at htext
    exact String.ofList_injective ((String.append_right_inj _).1 htext)
  have hpath : (e.url base).pathText = (e'.url base).pathText := by
    have happart := congrArg Url.splitTail hbehind
    rw [h.apart, h'.apart] at happart
    exact (Prod.mk.inj happart).1
  have hnames := h'.path
  rw [← hpath, h.path] at hnames
  have hbytes := List.append_cancel_left (List.cons.inj hnames).2
  have hall := (List.map_inj_right fun s t => Url.eq_of_utf8).1 hbytes
  exact List.append_cancel_left hall

/-- The address of a homeserver to which requests can go is sound. -/
theorem sound_of_ofConfig {L : Type} {config : Config} {l : L} {client : Client L}
    (h : Client.ofConfig config l = .ok client) (hsend : Client.canSendTo client.base = true) :
    ∃ segments, client.base.Sound segments := by
  obtain ⟨base, hbase, rfl⟩ := Client.ofConfig_eq_ok_iff.1 h
  refine Url.Sound.ofParse (Client.parse_of_readBase hbase) ?_
  rw [Client.canSendTo, Bool.or_eq_true, beq_iff_eq, beq_iff_eq] at hsend
  rcases hsend with hhttp | hhttps
  · rw [hhttp]
    decide
  · rw [hhttps]
    decide

/-! ### Endpoints of rooms -/

/-- An endpoint belongs to a room. -/
structure IsOfRoom (e : Endpoint) (room : RoomId) (tail : List String) : Prop where
  /-- The room is named first, and then what there is to do about it. -/
  segments : e.segments = "rooms" :: room.text :: tail
  /-- What there is to do is written as it is. -/
  plain : ∀ s ∈ tail, IsPlain s

/-- A room identifier has no blanks and starts with a sigil. -/
theorem isPlain_of_parse {raw : String} {room : RoomId} (h : RoomId.parse raw = .ok room) :
    IsPlain room.text := by
  obtain ⟨rfl, hserver⟩ := RoomId.parse_eq_ok_iff.1 h
  obtain ⟨sigil, rest, htext, hsigil, hsolid⟩ := exists_sigil_of_serverPart hserver
  have hdots : ∀ t : String, t.toList.head? = some '.' → raw ≠ t := by
    rintro t ht rfl
    rw [htext] at ht
    obtain rfl := Option.some.inj ht
    cases hsigil
  refine ⟨hdots _ rfl, hdots _ rfl, fun c hc => ?_⟩
  cases hdropped : Url.isDropped c with
  | false => rfl
  | true =>
    -- whatever is left out is a blank
    have hblank : Text.isBlank c = true := by
      simp only [Url.isDropped, Bool.or_eq_true, beq_iff_eq] at hdropped
      rcases hdropped with (rfl | rfl) | rfl <;> rfl
    exact hblank.symm.trans (hsolid c hc)

theorem IsOfRoom.isPlain {raw : String} {room : RoomId} {tail : List String}
    (h : e.IsOfRoom room tail) (hroom : RoomId.parse raw = .ok room) :
    ∀ s ∈ e.segments, IsPlain s := by
  rw [h.segments]
  exact List.forall_mem_cons.2
    ⟨by decide, List.forall_mem_cons.2 ⟨isPlain_of_parse hroom, h.plain⟩⟩

/-- The calls about a room go to endpoints of the room. -/
theorem isOfRoom_endpoint {call : Call} {room : RoomId} {tail : List String}
    (h : call.endpoint.segments = "rooms" :: room.text :: tail) :
    call.endpoint.IsOfRoom room tail := by
  refine ⟨h, ?_⟩
  cases call with
  | leave | ban | unban | listMembers | bannedMembers | displayName | send =>
    obtain rfl := (List.cons.inj (List.cons.inj h).2).2
    decide
  | whoami | join | create | joinedRooms => exact absurd (List.cons.inj h).1 (by decide)

/-- Requests about a room go straight: the calls about it go to endpoints that belong to it, the
address of an endpoint that belongs to it names the room and the rest of the endpoint and nothing
else, and the endpoints of different rooms have different addresses. -/
theorem room_requests_straight {L : Type} {config : Config} {l : L} {client : Client L}
    {raw : String} {room : RoomId} (hclient : Client.ofConfig config l = .ok client)
    (hsend : Client.canSendTo client.base = true) (hroom : RoomId.parse raw = .ok room) :
    (∀ (call : Call) (tail : List String),
      call.endpoint.segments = "rooms" :: room.text :: tail → call.endpoint.IsOfRoom room tail) ∧
    ∀ (e : Endpoint) (tail : List String), e.IsOfRoom room tail →
      room.text = raw ∧ e.Straight client.base ∧
        ∀ (e' : Endpoint) (raw' : String) (room' : RoomId) (tail' : List String),
          RoomId.parse raw' = .ok room' → e'.IsOfRoom room' tail' →
          (e.url client.base).text = (e'.url client.base).text → room = room' ∧ tail = tail' := by
  refine ⟨fun _ _ => isOfRoom_endpoint, fun e tail he => ?_⟩
  obtain ⟨segments, hsound⟩ := sound_of_ofConfig hclient hsend
  have hstraight := straight_of_sound hsound (he.isPlain hroom)
  refine ⟨(RoomId.parse_eq_ok_iff.1 hroom).1 ▸ rfl, hstraight, ?_⟩
  intro e' raw' room' tail' hroom' he' htext
  have hsegments :=
    hstraight.segments_eq (straight_of_sound hsound (he'.isPlain hroom')) htext
  rw [he.segments, he'.segments] at hsegments
  obtain ⟨hname, htail⟩ := List.cons.inj (List.cons.inj hsegments).2
  obtain ⟨text⟩ := room
  obtain ⟨text'⟩ := room'
  exact ⟨congrArg RoomId.mk hname, htail⟩

end Endpoint

/-! ### A crafted room and a lone empty segment -/

namespace Sample

/-- The configuration of a bot without an account at the homeserver with this address. -/
def configAt (url : String) : Config :=
  .ofHomeserver
    { url := url, login := "", password := "", accessToken := none, device := none, user := none }

/-- The client of such a bot, from the parsed address. -/
def clientAt (base : Url) : Client Unit :=
  ⟨base, none, BotConfig.default.syncTimeoutMs + Client.graceMs, (), []⟩

theorem ofConfig_configAt {url : String} {base : Url} (h : Client.readBase url = .ok base) :
    Client.ofConfig (configAt url) () = .ok (clientAt base) :=
  Client.ofConfig_eq_ok_iff.2 ⟨base, h, rfl⟩

/-- An address with everything that an address can have. -/
def laden : Url :=
  ⟨"https", some "x", .segments ["base".toList, []], some "v=1".toList, some "f".toList⟩

/-- An address whose path is two slashes. -/
def slashes : Url :=
  ⟨"https", some "x", .segments [[], []], none, none⟩

/-- A room whose identifier is full of what has a meaning in addresses. -/
def crafted : RoomId := ⟨"!../den?#%2F\\:x"⟩

end Sample

/-- The name of a crafted room is asked for under the identifier of the room. -/
theorem crafted_room_kept :
    Client.ofConfig (Sample.configAt "https://x/base/?v=1#f") () =
        .ok (Sample.clientAt Sample.laden) ∧
      RoomId.parse Sample.crafted.text = .ok Sample.crafted ∧
      (Call.displayName Sample.crafted).endpoint.Straight Sample.laden ∧
      ((Call.displayName Sample.crafted).endpoint.url Sample.laden).text =
        "https://x/base/_matrix/client/v3/rooms/!..%2Fden%3F%23%252F%5C:x/state/m.room.name/" ++
          "?v=1#f" := by
  have hclient : Client.ofConfig (Sample.configAt "https://x/base/?v=1#f") () =
      .ok (Sample.clientAt Sample.laden) :=
    Sample.ofConfig_configAt (by decide +kernel)
  have hroom : RoomId.parse Sample.crafted.text = .ok Sample.crafted :=
    RoomId.parse_eq_ok_iff.2 ⟨rfl, by decide +kernel⟩
  obtain ⟨hcalls, hstraight⟩ := Endpoint.room_requests_straight hclient (by decide) hroom
  obtain ⟨-, hcrafted, -⟩ := hstraight _ _ (hcalls (.displayName Sample.crafted) _ rfl)
  exact ⟨hclient, hroom, hcrafted, by decide +kernel⟩

/-- Of a path of two slashes, the empty segment between them is not kept. -/
theorem lone_empty_segment_lost :
    Client.ofConfig (Sample.configAt "https://x//") () = .ok (Sample.clientAt Sample.slashes) ∧
      Client.canSendTo Sample.slashes = true ∧ RoomId.parse "!den:x" = .ok ⟨"!den:x"⟩ ∧
      (((Call.leave ⟨"!den:x"⟩).endpoint.url Sample.slashes).pathText.splitOn '/').map
          Text.percentDecode ≠
        [] :: (Sample.slashes.ground.map Text.percentDecode ++
          ["_matrix", "client", "v3", "rooms", "!den:x", "leave"].map
            fun s => s.toUTF8.data.toList) :=
  ⟨Sample.ofConfig_configAt (by decide +kernel), by decide, by decide +kernel, by decide +kernel⟩

end RoomModeration
