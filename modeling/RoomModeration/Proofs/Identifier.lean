import RoomModeration.Id
import Mathlib.Data.List.TakeWhile

/-!
# What is read as an identifier

A text is written as an identifier if it is a sigil, a local part without a colon, a colon and the
name of a server, if neither of the two parts is empty and if no blank occurs in it. The name of the
server may hold further colons, so it is the first colon that counts, and a text can be cut in one
way only. Exactly the texts that are written so are read as identifiers. An identifier that the
homeserver has sent may have any text; it names a server if its text is written so.

## Main definitions

* `IdParts` : a sigil, a local part and the name of a server.
* `IdParts.Spells` : a text is written as an identifier of these parts.
* `ReadsIds` : identifiers are read exactly from the texts that are written so.

## Main results

* `serverPart_eq_some_iff` : the server that a text names is what follows the first colon.
* `IdParts.Spells.unique` : a text is written with one choice of parts at most.
* `identifiers_read_exactly` : rooms and members are read exactly, and no text is read as both.
-/

namespace RoomModeration

/-! ### The first colon -/

section FirstColon

variable {before : List Char}

/-- A text whose first part has no colon is cut at the colon behind that part. -/
theorem cut_at_colon (h : ':' ∉ before) (after : List Char) :
    (before ++ ':' :: after).takeWhile (· != ':') = before ∧
      (before ++ ':' :: after).dropWhile (· != ':') = ':' :: after := by
  have hbefore : ∀ c ∈ before, (c != ':') = true :=
    fun c hc => bne_iff_ne.2 fun hcolon => h (hcolon ▸ hc)
  rw [List.takeWhile_append_of_pos hbefore, List.dropWhile_append_of_pos hbefore,
    List.takeWhile_cons_of_neg (by decide), List.dropWhile_cons_of_neg (by decide)]
  exact ⟨List.append_nil before, rfl⟩

/-- A text with a colon is cut at the first one. -/
theorem eq_append_of_dropWhile {s after : List Char} {c : Char}
    (h : s.dropWhile (· != ':') = c :: after) :
    s = s.takeWhile (· != ':') ++ ':' :: after ∧ ':' ∉ s.takeWhile (· != ':') := by
  have hcolon : c = ':' := by
    have hhead := List.head?_dropWhile_not (· != ':') s
    rw [h] at hhead
    simpa using hhead
  subst hcolon
  refine ⟨?_, fun hmem => ?_⟩
  · rw [← h, List.takeWhile_append_dropWhile]
  · exact absurd (List.mem_takeWhile_imp hmem) (by decide)

end FirstColon

/-- The server that a text names is what follows the first colon, if what stands before and behind
it is written as in an identifier. -/
theorem serverPart_eq_some_iff {sigils text server : List Char} :
    serverPart sigils text = some server ↔
      ∃ sigil localPart, text = sigil :: (localPart ++ ':' :: server) ∧ sigil ∈ sigils ∧
        localPart ≠ [] ∧ ':' ∉ localPart ∧ server ≠ [] ∧ ∀ c ∈ text, Text.isBlank c = false := by
  constructor
  · intro h
    have hnames : (serverPart sigils text).isSome = true := by rw [h, Option.isSome_some]
    obtain ⟨sigil, rest, rfl, hsigil, hsolid⟩ := exists_sigil_of_serverPart hnames
    rw [serverPart, if_pos hsigil] at h
    cases hdrop : rest.dropWhile (· != ':') with
    | nil =>
      rw [hdrop] at h
      cases h
    | cons c after =>
      rw [hdrop] at h
      dsimp only at h
      split at h
      · cases h
      · next hwell =>
        obtain rfl := Option.some.inj h
        obtain ⟨hrest, hcolon⟩ := eq_append_of_dropWhile hdrop
        simp only [Bool.or_eq_true, not_or, List.isEmpty_iff] at hwell
        obtain ⟨⟨hlocal, hserver⟩, -⟩ := hwell
        exact ⟨sigil, rest.takeWhile (· != ':'), congrArg (sigil :: ·) hrest,
          List.contains_iff_mem.1 hsigil, hlocal, hcolon, hserver, hsolid⟩
  · rintro ⟨sigil, localPart, rfl, hsigil, hlocal, hcolon, hserver, hsolid⟩
    have hblank : (sigil :: (localPart ++ ':' :: server)).any Text.isBlank = false :=
      List.any_eq_false.2 fun c hc => by simp [hsolid c hc]
    obtain ⟨htake, hdrop⟩ := cut_at_colon hcolon server
    rw [serverPart, if_pos (List.contains_iff_mem.2 hsigil), hdrop, htake]
    dsimp only
    rw [hblank, if_neg (by simp [hlocal, hserver])]

/-! ### The parts of an identifier -/

/-- The parts of a text that is written as an identifier. -/
structure IdParts where
  /-- The character that says what it is an identifier of. -/
  sigil : Char
  /-- What stands before the first colon. -/
  localPart : String
  /-- What stands behind the first colon. -/
  server : String
  deriving DecidableEq, Repr

namespace IdParts

/-- The text of these parts. -/
def text (p : IdParts) : String :=
  String.singleton p.sigil ++ p.localPart ++ ":" ++ p.server

theorem toList_text (p : IdParts) :
    p.text.toList = p.sigil :: (p.localPart.toList ++ ':' :: p.server.toList) := by
  simp [text]

/-- A text is written as an identifier of these parts, which begins with one of these sigils. -/
structure Spells (p : IdParts) (sigils : List Char) (raw : String) : Prop where
  text : raw = p.text
  sigil : p.sigil ∈ sigils
  localPart : p.localPart ≠ ""
  firstColon : ':' ∉ p.localPart.toList
  server : p.server ≠ ""
  solid : ∀ c ∈ raw.toList, Text.isBlank c = false

variable {p q : IdParts} {sigils sigils' : List Char} {raw : String}

/-- A text is written with one choice of parts at most. -/
theorem Spells.unique (hp : p.Spells sigils raw) (hq : q.Spells sigils' raw) : p = q := by
  have htext : p.text.toList = q.text.toList := by rw [← hp.text, ← hq.text]
  rw [toList_text, toList_text] at htext
  obtain ⟨hsigil, hrest⟩ := List.cons.inj htext
  have hlocal := congrArg (List.takeWhile (· != ':')) hrest
  have hserver := congrArg (List.dropWhile (· != ':')) hrest
  rw [(cut_at_colon hp.firstColon _).1, (cut_at_colon hq.firstColon _).1] at hlocal
  rw [(cut_at_colon hp.firstColon _).2, (cut_at_colon hq.firstColon _).2] at hserver
  obtain ⟨sigil, localPart, server⟩ := p
  obtain ⟨sigil', localPart', server'⟩ := q
  obtain rfl : sigil = sigil' := hsigil
  obtain rfl : localPart = localPart' := String.toList_injective hlocal
  obtain rfl : server = server' := String.toList_injective (List.cons.inj hserver).2
  rfl

end IdParts

/-- The server that a text names is that of the parts with which it is written. -/
theorem map_serverPart_eq_some_iff {sigils : List Char} {raw server : String} :
    (serverPart sigils raw.toList).map String.ofList = some server ↔
      ∃ p : IdParts, p.Spells sigils raw ∧ p.server = server := by
  rw [Option.map_eq_some_iff]
  constructor
  · rintro ⟨server, hserver, rfl⟩
    obtain ⟨sigil, localPart, htext, hsigil, hlocal, hcolon, hne, hsolid⟩ :=
      serverPart_eq_some_iff.1 hserver
    refine ⟨⟨sigil, String.ofList localPart, String.ofList server⟩, ?_, rfl⟩
    exact {
      text := String.toList_injective (by
        rw [htext, IdParts.toList_text, String.toList_ofList, String.toList_ofList])
      sigil := hsigil
      localPart := by simpa using hlocal
      firstColon := by simpa using hcolon
      server := by simpa using hne
      solid := hsolid }
  · rintro ⟨p, hp, rfl⟩
    refine ⟨p.server.toList, serverPart_eq_some_iff.2 ?_, String.ofList_toList⟩
    refine ⟨p.sigil, p.localPart.toList, ?_, hp.sigil, ?_, hp.firstColon, ?_, hp.solid⟩
    · rw [hp.text, IdParts.toList_text]
    · simpa using hp.localPart
    · simpa using hp.server

theorem isSome_serverPart_iff {sigils : List Char} {raw : String} :
    (serverPart sigils raw.toList).isSome = true ↔ ∃ p : IdParts, p.Spells sigils raw := by
  rw [← Option.isSome_map (f := String.ofList), Option.isSome_iff_exists]
  simp only [map_serverPart_eq_some_iff]
  exact ⟨fun ⟨_, p, hp, _⟩ => ⟨p, hp⟩, fun ⟨p, hp⟩ => ⟨p.server, p, hp, rfl⟩⟩

/-! ### Reading -/

/-- Identifiers with these sigils are read exactly: from the texts that are written so and from no
others, and a text that is refused is told together with what it was meant as. What is read has the
text that it was read from, which is put together of its parts in one way only, and it names the
server of those parts. Any other identifier names a server if its text is written so. -/
structure ReadsIds {α : Type} (sigils : List Char) (kind : IdKind)
    (parse : String → Except IdError α) (text : α → String) (server? : α → Option String) :
    Prop where
  accepted_iff : ∀ raw, (∃ id, parse raw = .ok id) ↔ ∃ p : IdParts, p.Spells sigils raw
  refused_iff : ∀ raw e,
    parse raw = .error e ↔ e = ⟨kind, raw⟩ ∧ ¬∃ p : IdParts, p.Spells sigils raw
  printed : ∀ raw id, parse raw = .ok id → text id = raw
  rebuilt : ∀ raw id, parse raw = .ok id → ∃ p : IdParts, p.Spells sigils raw ∧
    server? id = some p.server ∧ ∀ q : IdParts, q.Spells sigils raw → q = p
  server_iff : ∀ id server,
    server? id = some server ↔ ∃ p : IdParts, p.Spells sigils (text id) ∧ p.server = server

/-- Whatever takes the texts that name a server as they are reads identifiers exactly. -/
theorem readsIds_of_serverPart {α : Type} (kind : IdKind) (make : String → α)
    {parse : String → Except IdError α} {text : α → String} {server? : α → Option String}
    (hparse : ∀ raw, parse raw =
      if (serverPart kind.sigils raw.toList).isSome then .ok (make raw) else .error ⟨kind, raw⟩)
    (htext : ∀ raw, text (make raw) = raw)
    (hserver : ∀ id,
      server? id = (serverPart kind.sigils (text id).toList).map String.ofList) :
    ReadsIds kind.sigils kind parse text server? := by
  have hok : ∀ raw id, parse raw = .ok id ↔
      id = make raw ∧ ∃ p : IdParts, p.Spells kind.sigils raw := by
    intro raw id
    rw [hparse, ← isSome_serverPart_iff]
    split
    · next h => exact ⟨fun heq => ⟨(Except.ok.inj heq).symm, h⟩, fun heq => by rw [heq.1]⟩
    · next h => exact ⟨nofun, fun heq => absurd heq.2 h⟩
  have hprinted : ∀ raw id, parse raw = .ok id → text id = raw := by
    intro raw id h
    rw [((hok raw id).1 h).1, htext]
  have hnamed : ∀ id server, server? id = some server ↔
      ∃ p : IdParts, p.Spells kind.sigils (text id) ∧ p.server = server := by
    intro id server
    rw [hserver, map_serverPart_eq_some_iff]
  exact {
    accepted_iff := fun raw =>
      ⟨fun ⟨id, h⟩ => ((hok raw id).1 h).2, fun h => ⟨make raw, (hok raw _).2 ⟨rfl, h⟩⟩⟩
    refused_iff := fun raw e => by
      rw [hparse, ← isSome_serverPart_iff]
      split
      · next h => exact ⟨nofun, fun heq => absurd h heq.2⟩
      · next h => exact ⟨fun heq => ⟨(Except.error.inj heq).symm, h⟩, fun heq => by rw [heq.1]⟩
    printed := hprinted
    rebuilt := fun raw id h => by
      obtain ⟨-, p, hp⟩ := (hok raw id).1 h
      refine ⟨p, hp, (hnamed id _).2 ⟨p, ?_, rfl⟩, fun q hq => hq.unique hp⟩
      rwa [hprinted raw id h]
    server_iff := hnamed }

/-- Exactly the texts that are written as identifiers are read as such: with the sigil of a room or
of an alias as rooms, with that of a member as members. What is read keeps its text, which is put
together of a sigil, a local part, a colon and the server that the identifier names, in one way
only. No text is read both as a room and as a member. -/
theorem identifiers_read_exactly :
    ReadsIds ['!', '#'] .room RoomId.parse RoomId.text RoomId.server? ∧
    ReadsIds ['@'] .member MemberId.parse MemberId.text MemberId.server? ∧
    ∀ raw room member, ¬(RoomId.parse raw = .ok room ∧ MemberId.parse raw = .ok member) := by
  have hroom : ReadsIds ['!', '#'] .room RoomId.parse RoomId.text RoomId.server? :=
    readsIds_of_serverPart .room RoomId.mk (fun _ => rfl) (fun _ => rfl) fun _ => rfl
  have hmember : ReadsIds ['@'] .member MemberId.parse MemberId.text MemberId.server? :=
    readsIds_of_serverPart .member MemberId.mk (fun _ => rfl) (fun _ => rfl) fun _ => rfl
  refine ⟨hroom, hmember, ?_⟩
  rintro raw room member ⟨hr, hm⟩
  obtain ⟨p, hp⟩ := (hroom.accepted_iff raw).1 ⟨room, hr⟩
  obtain ⟨q, hq⟩ := (hmember.accepted_iff raw).1 ⟨member, hm⟩
  obtain rfl := hp.unique hq
  have hsigil := hp.sigil
  rw [List.mem_singleton.1 hq.sigil] at hsigil
  exact absurd hsigil (by decide)

/-- An alias whose local part is not in ASCII names a server with a port, which holds colons of its
own, and the same text with a blank that is not in ASCII is refused. -/
theorem alias_with_port_read :
    (∃ room, RoomId.parse "#café:[2001:db8::1]:8448" = .ok room ∧
      room.text = "#café:[2001:db8::1]:8448" ∧ room.server? = some "[2001:db8::1]:8448") ∧
    RoomId.parse "#caf\u00a0é:[2001:db8::1]:8448" =
      .error ⟨.room, "#caf\u00a0é:[2001:db8::1]:8448"⟩ ∧
    ∀ member, MemberId.parse "#café:[2001:db8::1]:8448" ≠ .ok member := by
  obtain ⟨hrooms, -, hapart⟩ := identifiers_read_exactly
  let parts : IdParts := ⟨'#', "café", "[2001:db8::1]:8448"⟩
  have hsolid : ("#café:[2001:db8::1]:8448".toList.all (!Text.isBlank ·)) = true := by decide
  have hspells : parts.Spells ['!', '#'] "#café:[2001:db8::1]:8448" :=
    ⟨by decide, by decide, by decide, by decide, by decide, fun c hc => by
      simpa using List.all_eq_true.1 hsolid c hc⟩
  obtain ⟨room, hroom⟩ := (hrooms.accepted_iff _).2 ⟨parts, hspells⟩
  obtain ⟨p, -, hserver, hunique⟩ := hrooms.rebuilt _ room hroom
  obtain rfl := hunique parts hspells
  refine ⟨⟨room, hroom, hrooms.printed _ room hroom, hserver⟩, ?_,
    fun member hmember => hapart _ room member ⟨hroom, hmember⟩⟩
  refine (hrooms.refused_iff _ _).2 ⟨rfl, fun ⟨q, hq⟩ => ?_⟩
  exact absurd (hq.solid '\u00a0' (by decide +kernel)) (by decide)

end RoomModeration
