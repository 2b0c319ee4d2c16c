import RoomModeration.Command.Grammar
import RoomModeration.Proofs.Command.Wording

/-!
# What commands look like

A command is written as a row of words, each in its place, and whatever follows the last of them.
What may stand in a place is a keyword or the name of a mode, in any case of its letters, an
identifier, or the name of a variable; what may follow the words is nothing but blanks, or a free
text that may or may not be missing. The form of a command says which places there are and what
follows, and a text renders the command when it is written in that form.

Each reader of a part of a command is shown to read its results in their forms: it accepts the texts
in which words fit into the places and the rest is what the form demands, and no others. Readers of
words, of alternatives and of what stands behind a word are put together from smaller ones, and so
is what they read.

## Main definitions

* `Slot`, `Tail`, `Form` : the places of a command and what follows the words there.
* `Form.Renders` : a text is written in this form.
* `Command.form` : the form of each command.
* `CommandReader.Follows` : a reader reads its results in their forms.

## Main results

* `follows_choose`, `Follows.bind`, `Follows.after` : how such readers are put together.
* `follows_alternatives` : every command word is followed by what its commands have behind it.
-/

namespace RoomModeration

open Text (isBlank trim trimStart trimEnd)

variable {α β : Type} {s rest : List Char}

/-! ### Forms -/

/-- What stands in one place of a command. -/
inductive Slot where
  /-- A word of the language of commands. -/
  | keyword (word : String)
  /-- The name of a mode. -/
  | mode (mode : RoomMode)
  /-- The identifier of a member. -/
  | member (member : MemberId)
  /-- The identifier of a room. -/
  | room (room : RoomId)
  /-- The name of a variable. -/
  | name (name : String)

/-- A word fits into a place. -/
def Slot.Fits (w : String) : Slot → Prop
  | keyword word => Text.sameWord word w = true
  | mode m => Text.sameWord m.name w = true
  | member m => MemberId.parse w = .ok m
  | room r => RoomId.parse w = .ok r
  | name n => w = n

/-- A text goes on with words that fit into these places, and this is left of it. -/
inductive Words (rest : List Char) : List Slot → List Char → Prop
  | nil : Words rest [] rest
  | cons {slot : Slot} {slots : List Slot} {w : String} {mid s : List Char}
      (begins : Begins w.toList mid s) (fits : slot.Fits w) (more : Words rest slots mid) :
      Words rest (slot :: slots) s

/-- What follows the words of a command. -/
inductive Tail where
  /-- Nothing but blanks. -/
  | blank
  /-- A free text, which may be missing. -/
  | optional (text : String)
  /-- A free text. -/
  | required (text : String)

/-- A text is such a tail. -/
def Tail.Ends (s : List Char) : Tail → Prop
  | blank => trim s = []
  | optional text => trim s = text.toList
  | required text => trim s = text.toList ∧ text ≠ ""

/-- How a command is written. -/
structure Form where
  /-- The places of its words. -/
  slots : List Slot
  /-- What follows the words. -/
  tail : Tail

/-- The form with more places before it. -/
def Form.behind (slots : List Slot) (form : Form) : Form :=
  { form with slots := slots ++ form.slots }

/-- A text is written in this form. -/
def Form.Renders (form : Form) (s : List Char) : Prop :=
  ∃ rest, Words rest form.slots s ∧ form.tail.Ends rest

/-- A word that is read as a room starts with the sigil of one. -/
theorem RoomId.sigil_of_parse {w : String} {room : RoomId} (h : RoomId.parse w = .ok room) :
    w.toList.head?.any IdKind.room.sigils.contains = true := by
  obtain ⟨sigil, rest, hw, hsigil, -⟩ := exists_sigil_of_serverPart (RoomId.parse_eq_ok_iff.1 h).2
  rw [hw]
  exact hsigil

/-- A word that is read as a room is no keyword. -/
theorem RoomId.not_sameWord_of_parse {w : String} {room : RoomId} (h : RoomId.parse w = .ok room) :
    ∀ k ∈ Command.roomAlternatives.map Prod.fst, ¬Text.sameWord k w = true := by
  obtain ⟨sigil, rest, hw, hsigil, -⟩ := exists_sigil_of_serverPart (RoomId.parse_eq_ok_iff.1 h).2
  intro k hk hsame
  rw [Text.sameWord_eq_true_iff, hw] at hsame
  have hfirst : (Text.lower k.toList).head? = some sigil.toLower := by rw [hsame]; rfl
  simp only [Command.roomAlternatives, List.map, List.mem_cons, List.not_mem_nil, or_false] at hk
  simp only [IdKind.sigils, List.contains_cons, List.contains_nil, Bool.or_false, Bool.or_eq_true,
    beq_iff_eq] at hsigil
  rcases hk with rfl | rfl | rfl <;> rcases hsigil with rfl | rfl <;>
    exact absurd hfirst (by decide)

/-! ### The form of each command -/

/-- How what follows `admin` is written. -/
def AdminAction.form : AdminAction → Form
  | grant member => ⟨[.keyword "grant", .member member], .blank⟩
  | revoke member => ⟨[.keyword "revoke", .member member], .blank⟩
  | list => ⟨[.keyword "list"], .blank⟩

/-- How what follows `room` is written. -/
def RoomAction.form : RoomAction → Form
  | add room => ⟨[.keyword "add", .room room], .blank⟩
  | del room => ⟨[.keyword "del", .room room], .blank⟩
  | list => ⟨[.keyword "list"], .blank⟩
  | modeAdd room mode => ⟨[.room room, .keyword "mode", .keyword "add", .mode mode], .blank⟩
  | modeDel room mode => ⟨[.room room, .keyword "mode", .keyword "del", .mode mode], .blank⟩
  | modeList room => ⟨[.room room, .keyword "mode", .keyword "list"], .blank⟩
  | paramSet room mode value =>
    ⟨[.room room, .keyword "params", .mode mode, .keyword "set"], .required value⟩

theorem RoomAction.eq_of_form_mode (action : RoomAction) {room : RoomId} {rest : Form}
    (h : action.form = rest.behind [.room room, .keyword "mode"]) :
    (∃ mode, action = .modeAdd room mode) ∨ (∃ mode, action = .modeDel room mode) ∨
      action = .modeList room := by
  cases action <;> simp_all [form, Form.behind]

theorem RoomAction.eq_of_form_params (action : RoomAction) {room : RoomId} {rest : Form}
    (h : action.form = rest.behind [.room room, .keyword "params"]) :
    ∃ mode value, action = .paramSet room mode value := by
  cases action <;> simp_all [form, Form.behind]

/-- What follows `room` starts with a keyword, or with the identifier of a room and a keyword. -/
theorem RoomAction.form_cases (action : RoomAction) :
    (∃ (k : String) (f : Form), k ∈ ["add", "del", "list"] ∧
      action.form = f.behind [.keyword k]) ∨
    (∃ (room : RoomId) (k : String) (f : Form), k ∈ ["mode", "params"] ∧
      action.form = f.behind [.room room, .keyword k]) := by
  cases action with
  | add room => exact .inl ⟨"add", ⟨_, _⟩, by simp, rfl⟩
  | del room => exact .inl ⟨"del", ⟨_, _⟩, by simp, rfl⟩
  | list => exact .inl ⟨"list", ⟨_, _⟩, by simp, rfl⟩
  | modeAdd room mode => exact .inr ⟨room, "mode", ⟨_, _⟩, by simp, rfl⟩
  | modeDel room mode => exact .inr ⟨room, "mode", ⟨_, _⟩, by simp, rfl⟩
  | modeList room => exact .inr ⟨room, "mode", ⟨_, _⟩, by simp, rfl⟩
  | paramSet room mode value => exact .inr ⟨room, "params", ⟨_, _⟩, by simp, rfl⟩

/-- How what follows `vars` is written. -/
def VarsAction.form : VarsAction → Form
  | set name payload => ⟨[.keyword "set", .name name], .required payload⟩
  | get name => ⟨[.keyword "get", .name name], .blank⟩
  | del name => ⟨[.keyword "del", .name name], .blank⟩
  | list => ⟨[.keyword "list"], .blank⟩

/-- How what follows the word of a setting is written. -/
def SettingAction.form : SettingAction → Form
  | get => ⟨[.keyword "get"], .blank⟩
  | set value => ⟨[.keyword "set"], .required value⟩

/-- How a command is written. -/
def Command.form : Command → Form
  | version => ⟨[.keyword "version"], .blank⟩
  | help => ⟨[.keyword "help"], .blank⟩
  | reboot => ⟨[.keyword "reboot"], .blank⟩
  | admin action => action.form.behind [.keyword "admin"]
  | ban member reason => ⟨[.keyword "ban", .member member], .optional reason⟩
  | unban member => ⟨[.keyword "unban", .member member], .blank⟩
  | room action => action.form.behind [.keyword "room"]
  | vars action => action.form.behind [.keyword "vars"]
  | say target text => ⟨[.keyword "say", .keyword "room", .room target], .required text⟩
  | setting s action => action.form.behind [.keyword s.name]

namespace Command

variable {command : Command} {k : String}

/-- A command starts with its word. -/
theorem form_head (command : Command) :
    command.form.slots.head? = some (.keyword command.name) := by
  cases command <;> rfl

theorem exists_form_eq (command : Command) :
    ∃ rest : Form, command.form = rest.behind [.keyword command.name] := by
  obtain ⟨slots, hslots⟩ := List.head?_eq_some_iff.1 command.form_head
  exact ⟨⟨slots, command.form.tail⟩, by rw [Form.behind, List.singleton_append, ← hslots]⟩

theorem name_of_form {before : List Slot} {rest : Form}
    (h : command.form = rest.behind (.keyword k :: before)) : command.name = k := by
  have hhead := h ▸ command.form_head
  exact (Slot.keyword.inj (Option.some.inj hhead)).symm

theorem exists_setting_of_name {setting : Setting} (h : command.name = setting.name) :
    ∃ action, command = .setting setting action := by
  cases setting <;> cases command with
  | setting other action => cases other <;> simp_all [name, Setting.name]
  | _ => simp [name, Setting.name] at h

theorem exists_say_of_name (h : command.name = "say") :
    ∃ target text, command = .say target text := by
  cases command with
  | say target text => exact ⟨target, text, rfl⟩
  | setting setting action => cases setting <;> simp [name, Setting.name] at h
  | _ => simp [name] at h

theorem exists_ban_of_name (h : command.name = "ban") :
    ∃ member reason, command = .ban member reason := by
  cases command with
  | ban member reason => exact ⟨member, reason, rfl⟩
  | setting setting action => cases setting <;> simp [name, Setting.name] at h
  | _ => simp [name] at h

end Command

/-! ### Readers of forms -/

/-- What is left when a text is read as such a tail, of which blanks are not yet read. -/
def Tail.Leaves (s rest : List Char) : Tail → Prop
  | blank => rest = s
  | optional text => trim s = text.toList ∧ rest = []
  | required text => trim s = text.toList ∧ text ≠ "" ∧ rest = []

/-- What is left when a text is read in this form. -/
def Form.Leaves (form : Form) (s rest : List Char) : Prop :=
  ∃ mid, Words mid form.slots s ∧ form.tail.Leaves mid rest

/-- A form with one more place before it starts with a word that fits. -/
theorem Form.leaves_behind_iff {slot : Slot} {form : Form} :
    (form.behind [slot]).Leaves s rest ↔
      ∃ (w : String) (mid : List Char), Begins w.toList mid s ∧ slot.Fits w ∧
        form.Leaves mid rest := by
  constructor
  · rintro ⟨last, words, hleaves⟩
    cases words with
    | cons begins fits more => exact ⟨_, _, begins, fits, last, more, hleaves⟩
  · rintro ⟨w, mid, begins, fits, last, more, hleaves⟩
    exact ⟨last, .cons begins fits more, hleaves⟩

theorem Form.behind_append (slots slots' : List Slot) (form : Form) :
    form.behind (slots ++ slots') = (form.behind slots').behind slots := by
  simp [behind]

theorem Form.behind_injective {slots : List Slot} {form form' : Form}
    (h : form.behind slots = form'.behind slots) : form = form' := by
  obtain ⟨own, tail⟩ := form
  obtain ⟨own', tail'⟩ := form'
  simpa [behind] using h

/-- Behind some of its words, the text is read as what the form has there. -/
def Form.LeavesAfter (before : List Slot) (form : Form) (s rest : List Char) : Prop :=
  ∃ inner : Form, form = inner.behind before ∧ inner.Leaves s rest

theorem Form.leavesAfter_nil_iff {form : Form} :
    form.LeavesAfter [] s rest ↔ form.Leaves s rest :=
  ⟨fun ⟨_, hform, hleaves⟩ => hform ▸ hleaves, fun h => ⟨form, rfl, h⟩⟩

/-- Once a tail is read, only blanks may be left. -/
theorem Tail.ends_iff_leaves {tail : Tail} :
    tail.Ends s ↔ ∃ rest, tail.Leaves s rest ∧ trimStart rest = [] := by
  cases tail with
  | blank =>
    rw [Ends, Text.trim_eq_nil_iff]
    exact ⟨fun h => ⟨s, rfl, h⟩, fun ⟨_, h, hblank⟩ => h ▸ hblank⟩
  | optional text =>
    exact ⟨fun h => ⟨[], ⟨h, rfl⟩, rfl⟩, fun ⟨_, h, _⟩ => h.1⟩
  | required text =>
    exact ⟨fun h => ⟨[], ⟨h.1, h.2, rfl⟩, rfl⟩, fun ⟨_, h, _⟩ => ⟨h.1, h.2.1⟩⟩

/-- A text that is read in a form, with nothing but blanks left, renders the form. -/
theorem Form.renders_iff_leaves {form : Form} :
    form.Renders s ↔ ∃ rest, form.Leaves s rest ∧ trimStart rest = [] := by
  constructor
  · rintro ⟨mid, words, hends⟩
    obtain ⟨rest, hleaves, hblank⟩ := Tail.ends_iff_leaves.1 hends
    exact ⟨rest, ⟨mid, words, hleaves⟩, hblank⟩
  · rintro ⟨rest, ⟨mid, words, hleaves⟩, hblank⟩
    exact ⟨mid, words, Tail.ends_iff_leaves.2 ⟨rest, hleaves, hblank⟩⟩

/-- A form of one place is read as one word that fits. -/
theorem Form.leaves_word_iff {slot : Slot} :
    (⟨[slot], .blank⟩ : Form).Leaves s rest ↔
      ∃ w : String, Begins w.toList rest s ∧ slot.Fits w := by
  constructor
  · rintro ⟨_, words, rfl⟩
    cases words with
    | cons begins fits tail =>
      cases tail
      exact ⟨_, begins, fits⟩
  · rintro ⟨w, begins, fits⟩
    exact ⟨rest, .cons begins fits .nil, rfl⟩

namespace CommandReader

/-- A reader reads its results in their forms, behind words that are read already. -/
def Follows (x : CommandReader α) (form : α → Form) (before : List Slot := []) : Prop :=
  Reads x fun a => (form a).LeavesAfter before

/-! #### Arguments -/

section Arguments

variable {x : CommandReader α} {form : α → Form} {slot : α → Slot}

theorem Follows.of_leaves (h : Reads x fun a => (form a).Leaves) : Follows x form :=
  h.congr fun _ _ _ => Form.leavesAfter_nil_iff.symm

theorem Follows.of_fits
    (h : Reads x fun a s rest => ∃ w : String, Begins w.toList rest s ∧ (slot a).Fits w) :
    Follows x fun a => ⟨[slot a], .blank⟩ :=
  .of_leaves (h.congr fun _ _ _ => Form.leaves_word_iff.symm)

theorem follows_memberId (command : String) :
    Follows (memberId command) fun member => ⟨[.member member], .blank⟩ :=
  .of_fits (reads_memberId command)

theorem follows_roomId (command : String) :
    Follows (roomId command) fun room => ⟨[.room room], .blank⟩ :=
  .of_fits (reads_roomId command)

theorem follows_modeName (command : String) :
    Follows (modeName command) fun mode => ⟨[.mode mode], .blank⟩ :=
  .of_fits ((reads_modeName command).congr fun _ _ _ => by
    simp only [Slot.Fits, RoomMode.parse_eq_ok_iff])

theorem follows_name (command expected : String) :
    Follows (Argument.text <$> word command expected) fun name => ⟨[.name name], .blank⟩ := by
  rw [map_eq_pure_bind]
  refine .of_fits ((reads_word_bind command expected fun _ w => reads_pure w).congr ?_)
  intro name s rest
  constructor
  · rintro ⟨w, _, begins, rfl, rfl⟩
    exact ⟨_, begins, rfl⟩
  · rintro ⟨_, begins, rfl⟩
    exact ⟨_, _, begins, rfl, rfl⟩

theorem follows_freeText (command expected : String) :
    Follows (freeText command expected) fun text => ⟨[], .required text⟩ := by
  refine .of_leaves ((reads_freeText command expected).congr fun text s rest => ?_)
  constructor
  · exact fun h => ⟨s, .nil, h⟩
  · rintro ⟨_, words, h⟩
    cases words
    exact h

end Arguments

/-! #### Alternatives -/

section Alternatives

variable {x : CommandReader β} {form : α → Form} {inner : β → Form} {before : List Slot}

/-- The results that have some words before them are read as what stands behind these. -/
theorem Follows.after {f : β → α} (hx : Follows x inner)
    (hform : ∀ b, form (f b) = (inner b).behind before)
    (honly : ∀ a (rest : Form), form a = rest.behind before → ∃ b, a = f b) :
    Follows (f <$> x) form before := by
  refine (hx.map f).congr fun a s rest => ?_
  constructor
  · rintro ⟨b, rfl, hleaves⟩
    exact ⟨inner b, hform b, Form.leavesAfter_nil_iff.1 hleaves⟩
  · rintro ⟨last, ha, hleaves⟩
    obtain ⟨b, rfl⟩ := honly a last ha
    obtain rfl : inner b = last := Form.behind_injective ((hform b).symm.trans ha)
    exact ⟨b, rfl, Form.leavesAfter_nil_iff.2 hleaves⟩

/-- The only result that starts with some words is read without reading on. -/
theorem follows_pure {a : α} (hform : form a = ⟨before, .blank⟩)
    (honly : ∀ b (rest : Form), form b = rest.behind before → b = a) :
    Follows (pure a) form before := by
  have hnothing : form a = (⟨[], .blank⟩ : Form).behind before := by
    rw [hform, Form.behind, List.append_nil]
  refine (reads_pure a).congr fun b s rest => ?_
  constructor
  · rintro ⟨rfl, rfl⟩
    exact ⟨⟨[], .blank⟩, hnothing, rest, .nil, rfl⟩
  · rintro ⟨last, hb, hleaves⟩
    obtain rfl := honly b last hb
    obtain rfl : (⟨[], .blank⟩ : Form) = last := Form.behind_injective (hnothing.symm.trans hb)
    obtain ⟨_, words, rfl⟩ := hleaves
    cases words
    exact ⟨rfl, rfl⟩

/-- A word and, behind it, a reader of what the form has there are read one after the other. -/
theorem Follows.bind {f : β → CommandReader α} {slot : β → Slot}
    (hx : Follows x fun b => ⟨[slot b], .blank⟩)
    (hf : ∀ b, Follows (f b) form (before ++ [slot b]))
    (hform : ∀ a (inner : Form), form a = inner.behind before →
      ∃ b, ∃ g : Form, form a = g.behind (before ++ [slot b])) :
    Follows (x >>= f) form before := by
  refine (Reads.bind hx hf).congr fun a s rest => ?_
  simp only [Form.leavesAfter_nil_iff, Form.leaves_word_iff]
  constructor
  · rintro ⟨b, mid, ⟨w, begins, fits⟩, g, ha, hleaves⟩
    refine ⟨g.behind [slot b], ?_, Form.leaves_behind_iff.2 ⟨w, mid, begins, fits, hleaves⟩⟩
    rw [ha, Form.behind_append]
  · rintro ⟨inner, ha, hleaves⟩
    obtain ⟨b, g, hg⟩ := hform a inner ha
    obtain rfl : g.behind [slot b] = inner :=
      Form.behind_injective ((Form.behind_append _ _ _).symm.trans (hg.symm.trans ha))
    obtain ⟨w, mid, begins, fits, hleaves⟩ := Form.leaves_behind_iff.1 hleaves
    exact ⟨b, mid, ⟨w, begins, fits⟩, g, hg, hleaves⟩

/-- A choice among keywords, each with what follows it, is read in the form of what is chosen. -/
theorem follows_choose (command expected : String) {alternatives : List (String × CommandReader α)}
    (hwords : (alternatives.map Prod.fst).Pairwise fun k k' => Text.sameWord k k' = false)
    (hreads : ∀ p ∈ alternatives, Follows p.2 form (before ++ [.keyword p.1]))
    (hform : ∀ a (inner : Form), form a = inner.behind before →
      ∃ k ∈ alternatives.map Prod.fst, ∃ f : Form, form a = f.behind (before ++ [.keyword k])) :
    Follows (choose command expected alternatives) form before := by
  refine (reads_choose (R := fun k a => (form a).LeavesAfter (before ++ [Slot.keyword k])) command
    expected hwords hreads).congr fun a s rest => ?_
  constructor
  · rintro ⟨w, mid, begins, k, hk, hsame, f, ha, hleaves⟩
    refine ⟨f.behind [.keyword k], ?_, Form.leaves_behind_iff.2 ⟨w, mid, begins, hsame, hleaves⟩⟩
    rw [ha, Form.behind_append]
  · rintro ⟨inner, ha, hleaves⟩
    obtain ⟨k, hk, f, hf⟩ := hform a inner ha
    obtain rfl : f.behind [.keyword k] = inner :=
      Form.behind_injective ((Form.behind_append _ _ _).symm.trans (hf.symm.trans ha))
    obtain ⟨w, mid, begins, fits, hleaves⟩ := Form.leaves_behind_iff.1 hleaves
    exact ⟨w, mid, begins, k, hk, fits, f, hf, hleaves⟩

end Alternatives

end CommandReader

/-! ### The readers of commands -/

namespace Command

open CommandReader

theorem follows_readAdmin : Follows readAdmin AdminAction.form := by
  refine follows_choose _ _ (by decide) ?_ ?_
  · simp only [List.forall_mem_cons, List.not_mem_nil, false_implies, implies_true, and_true]
    refine ⟨?grant, ?revoke, ?list⟩
    case grant =>
      refine (follows_memberId _).after (fun _ => rfl) ?_
      rintro (member | member | _) rest h <;> simp_all [AdminAction.form, Form.behind]
    case revoke =>
      refine (follows_memberId _).after (fun _ => rfl) ?_
      rintro (member | member | _) rest h <;> simp_all [AdminAction.form, Form.behind]
    case list =>
      refine follows_pure rfl ?_
      rintro (member | member | _) rest h <;> simp_all [AdminAction.form, Form.behind]
  · rintro (member | member | _) - -
    · exact ⟨"grant", by decide, ⟨_, _⟩, rfl⟩
    · exact ⟨"revoke", by decide, ⟨_, _⟩, rfl⟩
    · exact ⟨"list", by decide, ⟨_, _⟩, rfl⟩

theorem follows_readRoomMode (room : RoomId) :
    Follows (readRoomMode room) RoomAction.form [.room room, .keyword "mode"] := by
  refine follows_choose _ _ (by simp only [List.map]; decide) ?_ ?_
  · simp only [List.forall_mem_cons, List.not_mem_nil, false_implies, implies_true, and_true]
    refine ⟨?add, ?del, ?list⟩
    case add =>
      refine (follows_modeName _).after (fun _ => rfl) ?_
      rintro (_ | _ | _ | _ | _ | _ | _) rest h <;> simp_all [RoomAction.form, Form.behind]
    case del =>
      refine (follows_modeName _).after (fun _ => rfl) ?_
      rintro (_ | _ | _ | _ | _ | _ | _) rest h <;> simp_all [RoomAction.form, Form.behind]
    case list =>
      refine follows_pure rfl ?_
      rintro (_ | _ | _ | _ | _ | _ | _) rest h <;> simp_all [RoomAction.form, Form.behind]
  · intro action inner h
    rcases action.eq_of_form_mode h with ⟨mode, rfl⟩ | ⟨mode, rfl⟩ | rfl
    · exact ⟨"add", by simp, ⟨_, _⟩, rfl⟩
    · exact ⟨"del", by simp, ⟨_, _⟩, rfl⟩
    · exact ⟨"list", by simp, ⟨_, _⟩, rfl⟩

theorem follows_readRoomParams (room : RoomId) :
    Follows (readRoomParams room) RoomAction.form [.room room, .keyword "params"] := by
  refine Follows.bind (follows_modeName _) (fun mode => ?_) ?_
  · refine follows_choose _ _ (by simp only [List.map]; decide) ?_ ?_
    · simp only [List.forall_mem_cons, List.not_mem_nil, false_implies, implies_true, and_true]
      refine (follows_freeText _ _).after (fun _ => rfl) ?_
      rintro (_ | _ | _ | _ | _ | _ | _) rest h <;> simp_all [RoomAction.form, Form.behind]
    · intro action inner h
      obtain ⟨other, value, rfl⟩ :=
        action.eq_of_form_params (h.trans (Form.behind_append _ [.mode mode] inner))
      obtain ⟨⟨rfl, -⟩, -⟩ : (other = mode ∧ _) ∧ _ := by
        simpa [RoomAction.form, Form.behind] using h
      exact ⟨"set", by simp, ⟨_, _⟩, rfl⟩
  · intro action inner h
    obtain ⟨mode, value, rfl⟩ := action.eq_of_form_params h
    exact ⟨mode, ⟨_, _⟩, rfl⟩

theorem follows_room (room : RoomId) :
    Follows (choose "room <id>" "one of mode, params" [
      ("mode", readRoomMode room),
      ("params", readRoomParams room)]) RoomAction.form [.room room] := by
  refine follows_choose _ _ (by simp only [List.map]; decide) ?_ ?_
  · simp only [List.forall_mem_cons, List.not_mem_nil, false_implies, implies_true, and_true]
    exact ⟨follows_readRoomMode room, follows_readRoomParams room⟩
  · intro action inner h
    rcases action.form_cases with ⟨k, f, -, hf⟩ | ⟨other, k, f, hk, hf⟩
    · simp [hf, Form.behind] at h
    · obtain ⟨rfl, -⟩ : other = room ∧ _ := by
        simpa [hf, Form.behind] using congrArg Form.slots h
      exact ⟨k, by simpa using hk, f, hf⟩

theorem follows_readRoom : Follows readRoom RoomAction.form := by
  have hwords : (roomAlternatives.map Prod.fst).Pairwise fun k k' => Text.sameWord k k' = false :=
    by decide
  have halternatives : ∀ p ∈ roomAlternatives, Follows p.2 RoomAction.form [.keyword p.1] := by
    simp only [roomAlternatives, List.forall_mem_cons, List.not_mem_nil, false_implies,
      implies_true, and_true]
    refine ⟨?add, ?del, ?list⟩
    case add =>
      refine (follows_roomId _).after (fun _ => rfl) ?_
      rintro (_ | _ | _ | _ | _ | _ | _) rest h <;> simp_all [RoomAction.form, Form.behind]
    case del =>
      refine (follows_roomId _).after (fun _ => rfl) ?_
      rintro (_ | _ | _ | _ | _ | _ | _) rest h <;> simp_all [RoomAction.form, Form.behind]
    case list =>
      refine follows_pure rfl ?_
      rintro (_ | _ | _ | _ | _ | _ | _) rest h <;> simp_all [RoomAction.form, Form.behind]
  refine (reads_word_bind (R := fun w action s rest =>
    (∃ k ∈ roomAlternatives.map Prod.fst, Text.sameWord k w = true ∧
      action.form.LeavesAfter [Slot.keyword k] s rest) ∨
    (∀ k ∈ roomAlternatives.map Prod.fst, ¬Text.sameWord k w = true) ∧
      ∃ room, RoomId.parse w = .ok room ∧ action.form.LeavesAfter [Slot.room room] s rest)
    "room" roomExpected fun position w => reads_alternative hwords ?_ ?_).congr ?_
  · intro k next hmem hword
    simp only [hword]
    exact halternatives _ hmem
  · intro hword
    simp only [hword]
    cases hparse : RoomId.parse w with
    | ok room =>
      rw [if_pos (RoomId.sigil_of_parse hparse)]
      have hroom : asRoom ⟨position, w⟩ = pure room := by simp only [asRoom, hparse]
      rw [hroom, pure_bind]
      refine (follows_room room).congr fun action s rest => ?_
      simp
    | error cause =>
      have hroom : asRoom ⟨position, w⟩ = throw (.invalidId position cause) := by
        simp only [asRoom, hparse]
      rw [hroom]
      split
      · refine ((reads_throw _).bind follows_room).congr fun action s rest => by simp
      · exact (reads_throw _).congr fun action s rest => by simp
  · intro action s rest
    rw [Form.leavesAfter_nil_iff]
    constructor
    · rintro ⟨w, mid, begins, ⟨k, -, hsame, f, hf, hleaves⟩ | ⟨-, room, hparse, f, hf, hleaves⟩⟩
      · exact hf ▸ Form.leaves_behind_iff.2 ⟨w, mid, begins, hsame, hleaves⟩
      · exact hf ▸ Form.leaves_behind_iff.2 ⟨w, mid, begins, hparse, hleaves⟩
    · intro h
      rcases action.form_cases with ⟨k, f, hk, hf⟩ | ⟨room, k, f, hk, hf⟩
      · obtain ⟨w, mid, begins, fits, hleaves⟩ := Form.leaves_behind_iff.1 (hf ▸ h)
        exact ⟨w, mid, begins, .inl ⟨k, hk, fits, f, hf, hleaves⟩⟩
      · rw [hf, ← List.singleton_append, Form.behind_append] at h
        obtain ⟨w, mid, begins, fits, hleaves⟩ := Form.leaves_behind_iff.1 h
        refine ⟨w, mid, begins, .inr ⟨?_, room, fits, _, ?_, hleaves⟩⟩
        · exact RoomId.not_sameWord_of_parse fits
        · rw [hf, ← Form.behind_append, List.singleton_append]

theorem follows_readVars : Follows readVars VarsAction.form := by
  refine follows_choose _ _ (by decide) ?_ ?_
  · simp only [List.forall_mem_cons, List.not_mem_nil, false_implies, implies_true, and_true]
    refine ⟨?set, ?get, ?del, ?list⟩
    case set =>
      have hset : Follows (Argument.text <$> word "vars set" "a variable name" >>= fun name =>
          VarsAction.set name <$> freeText "vars set <name>" "a payload")
          VarsAction.form [.keyword "set"] := by
        refine (follows_name _ _).bind (fun name => ?_) ?_
        · refine (follows_freeText _ _).after (fun _ => rfl) ?_
          rintro (_ | _ | _ | _) rest h <;> simp_all [VarsAction.form, Form.behind]
        · rintro (_ | _ | _ | _) rest h <;> simp [VarsAction.form, Form.behind] at h
          exact ⟨_, ⟨_, _⟩, rfl⟩
      rwa [bind_map_left] at hset
    case get =>
      rw [← Functor.map_map Argument.text]
      refine (follows_name _ _).after (fun _ => rfl) ?_
      rintro (_ | _ | _ | _) rest h <;> simp_all [VarsAction.form, Form.behind]
    case del =>
      rw [← Functor.map_map Argument.text]
      refine (follows_name _ _).after (fun _ => rfl) ?_
      rintro (_ | _ | _ | _) rest h <;> simp_all [VarsAction.form, Form.behind]
    case list =>
      refine follows_pure rfl ?_
      rintro (_ | _ | _ | _) rest h <;> simp_all [VarsAction.form, Form.behind]
  · rintro (_ | _ | _ | _) - -
    · exact ⟨"set", by decide, ⟨_, _⟩, rfl⟩
    · exact ⟨"get", by decide, ⟨_, _⟩, rfl⟩
    · exact ⟨"del", by decide, ⟨_, _⟩, rfl⟩
    · exact ⟨"list", by decide, ⟨_, _⟩, rfl⟩

theorem follows_readSay : Follows readSay form [.keyword "say"] := by
  refine follows_choose _ _ (by decide) ?_ ?_
  · simp only [List.forall_mem_cons, List.not_mem_nil, false_implies, implies_true, and_true]
    refine (follows_roomId _).bind (fun target => (follows_freeText _ _).after (fun _ => rfl) ?_) ?_
    · intro command rest h
      obtain ⟨other, text, rfl⟩ := exists_say_of_name (name_of_form h)
      obtain ⟨⟨rfl, -⟩, -⟩ : (other = target ∧ _) ∧ _ := by simpa [form, Form.behind] using h
      exact ⟨text, rfl⟩
    · intro command rest h
      obtain ⟨target, text, rfl⟩ := exists_say_of_name (name_of_form h)
      exact ⟨target, ⟨_, _⟩, rfl⟩
  · intro command rest h
    obtain ⟨target, text, rfl⟩ := exists_say_of_name (name_of_form h)
    exact ⟨"room", by simp, ⟨_, _⟩, rfl⟩

theorem follows_readSetting (setting : Setting) :
    Follows (readSetting setting) form [.keyword setting.name] := by
  have haction : Follows (choose setting.name "one of get, set" [
      ("get", pure .get),
      ("set", .set <$> freeText setting.name "a value")]) SettingAction.form := by
    refine follows_choose _ _ (by simp only [List.map]; decide) ?_ ?_
    · simp only [List.forall_mem_cons, List.not_mem_nil, false_implies, implies_true, and_true]
      refine ⟨follows_pure rfl ?_, (follows_freeText _ _).after (fun _ => rfl) ?_⟩
      all_goals
        rintro (_ | _) rest h <;> simp_all [SettingAction.form, Form.behind]
    · rintro (_ | _) - -
      · exact ⟨"get", by simp, ⟨_, _⟩, rfl⟩
      · exact ⟨"set", by simp, ⟨_, _⟩, rfl⟩
  exact haction.after (fun _ => rfl) fun command rest h => exists_setting_of_name (name_of_form h)

theorem follows_readBan : Follows readBan form [.keyword "ban"] := by
  refine (follows_memberId _).bind (fun member => ?_) ?_
  · refine (reads_freeText?_bind (Command.ban member)).congr fun command s rest => ?_
    constructor
    · rintro ⟨rfl, rfl⟩
      exact ⟨⟨[], .optional _⟩, rfl, s, .nil, String.toList_ofList.symm, rfl⟩
    · rintro ⟨inner, h, hleaves⟩
      obtain ⟨other, reason, rfl⟩ := exists_ban_of_name (name_of_form h)
      obtain ⟨⟨rfl, hslots⟩, htail⟩ :
          (other = member ∧ [] = inner.slots) ∧ .optional reason = inner.tail := by
        simpa [form, Form.behind] using congrArg (fun f : Form => (f.slots, f.tail)) h
      obtain ⟨_, words, htext⟩ := hleaves
      rw [← hslots] at words
      cases words
      rw [← htail] at htext
      exact ⟨by rw [htext.1, String.ofList_toList], htext.2⟩
  · intro command rest h
    obtain ⟨member, reason, rfl⟩ := exists_ban_of_name (name_of_form h)
    exact ⟨member, ⟨_, _⟩, rfl⟩

/-- Every command word is followed by what its commands have behind it. -/
theorem follows_alternatives : ∀ p ∈ alternatives, Follows p.2 form [.keyword p.1] := by
  simp only [alternatives, List.forall_mem_cons, List.not_mem_nil, false_implies, implies_true,
    and_true]
  refine ⟨follows_pure rfl ?_, follows_pure rfl ?_, follows_pure rfl ?_,
    follows_readAdmin.after (fun _ => rfl) ?_, follows_readBan,
    (follows_memberId _).after (fun _ => rfl) ?_, follows_readRoom.after (fun _ => rfl) ?_,
    follows_readVars.after (fun _ => rfl) ?_, follows_readSay,
    follows_readSetting .login, follows_readSetting .host, follows_readSetting .password⟩
  all_goals
    -- The word of a command tells which of the commands it is.
    intro command rest h
    have hname := name_of_form h
    rcases command with _ | _ | _ | _ | _ | _ | _ | _ | ⟨_ | _ | _, _⟩ | _ <;>
      simp_all [name, Setting.name]

end Command

end RoomModeration
