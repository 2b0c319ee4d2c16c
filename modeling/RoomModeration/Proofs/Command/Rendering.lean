import RoomModeration.Proofs.Command.Phrase

/-!
# Commands are read exactly as they are written

A text is read as a command precisely when it renders the command: its words stand in the places
that the form of the command has, each written as it is or between double quotes, and behind them
stands what the form demands. Two things follow. Every command whose identifiers have the form of
identifiers, and whose free text is trimmed, has a canonical rendering that is read as the command;
the name of a variable may be any text at all. And a text that goes on behind a complete command
that takes no free text is rejected, for what is left and at its place.

## Main definitions

* `Command.render` : the canonical rendering of a command.
* `Slot.WellFormed`, `Tail.Trimmed` : what a command must be like to have one.

## Main results

* `parse_exact` : what is read as a command, what is not, and that every command can be written.
-/

namespace RoomModeration

open Text (isBlank trim trimStart trimEnd)

variable {w s rest : List Char}

/-! ### Canonical renderings -/

/-- A text between double quotes, with backslashes where they are needed. -/
def quote (w : List Char) : List Char :=
  '"' :: (w.flatMap (fun c => if c = '"' ∨ c = '\\' then ['\\', c] else [c]) ++ ['"'])

/-- The word that is written in a place: the name of a variable stands between double quotes,
anything else as it is. -/
def Slot.written : Slot → List Char
  | keyword k => k.toList
  | mode m => m.name.toList
  | member m => m.text.toList
  | room r => r.text.toList
  | name n => quote n.toList

/-- What is written behind the words, if anything is. -/
def Tail.written : Tail → List (List Char)
  | blank => []
  | optional text => if text = "" then [] else [text.toList]
  | required text => [text.toList]

/-- The canonical rendering of a command: its words and its free text, with one blank between
them. -/
def Command.render (command : Command) : String :=
  String.ofList
    ([' '].intercalate (command.form.slots.map Slot.written ++ command.form.tail.written))

/-- What stands in a place has the form that is asked of it. -/
def Slot.WellFormed : Slot → Prop
  | member m => MemberId.parse m.text = .ok m
  | room r => RoomId.parse r.text = .ok r
  | keyword _ | mode _ | name _ => True

/-- A free text is what is left of it when it is trimmed, and is not missing where it may not be. -/
def Tail.Trimmed : Tail → Prop
  | blank => True
  | optional text => trim text.toList = text.toList
  | required text => trim text.toList = text.toList ∧ text ≠ ""

/-- Any text can stand between double quotes. -/
theorem quotation_escape (w : List Char) :
    Quotation w (w.flatMap fun c => if c = '"' ∨ c = '\\' then ['\\', c] else [c]) := by
  induction w with
  | nil => exact .nil
  | cons c w ih =>
    rw [List.flatMap_cons]
    split
    · exact .escaped c ih
    · next h => exact .plain (fun hc => h (.inl hc)) (fun hc => h (.inr hc)) ih

theorem begins_quote (w rest : List Char) : Begins w rest (quote w ++ rest) := by
  have h : Begins w rest ([] ++ '"' :: (_ ++ '"' :: rest)) :=
    .quoted [] (List.forall_mem_nil _) _ (quotation_escape w)
  simpa [quote] using h

/-- A word that can be written as it is. -/
def IsBare (w : List Char) : Prop :=
  w ≠ [] ∧ w.head? ≠ some '"' ∧ ∀ c ∈ w, isBlank c = false

instance (w : List Char) : Decidable (IsBare w) :=
  -- Only the characters of the word are looked at.
  have : Decidable (∀ c ∈ w, isBlank c = false) := List.decidableBAll _ w
  inferInstanceAs (Decidable (_ ∧ _ ∧ _))

theorem IsBare.begins (h : IsBare w) (ends : ∀ c ∈ rest.head?, isBlank c = true) :
    Begins w rest (w ++ rest) :=
  .bare [] (List.forall_mem_nil _) h.1 h.2.1 h.2.2 ends

/-- What begins with a word still does behind a blank. -/
theorem Begins.cons_blank {c : Char} (hc : isBlank c = true) (h : Begins w rest s) :
    Begins w rest (c :: s) := by
  have hgap : ∀ {gap : List Char}, (∀ d ∈ gap, isBlank d = true) →
      ∀ d ∈ c :: gap, isBlank d = true :=
    fun hgap => List.forall_mem_cons.2 ⟨hc, hgap⟩
  cases h with
  | bare gap blank nonempty unquoted solid ends =>
    exact .bare (c :: gap) (hgap blank) nonempty unquoted solid ends
  | quoted gap blank q quotation => exact .quoted (c :: gap) (hgap blank) q quotation

/-- The keywords of commands can be written as they are. -/
theorem Command.isBare_keyword (command : Command) :
    ∀ slot ∈ command.form.slots, ∀ k, slot = .keyword k → IsBare k.toList := by
  rcases command with _ | _ | action | _ | _ | action | action | _ | ⟨setting, action⟩ | _
  case admin => cases action <;> simp [form, AdminAction.form, Form.behind] <;> decide
  case room => cases action <;> simp [form, RoomAction.form, Form.behind] <;> decide
  case vars => cases action <;> simp [form, VarsAction.form, Form.behind] <;> decide
  case setting =>
    cases setting <;> cases action <;>
      simp [form, SettingAction.form, Form.behind, Setting.name] <;> decide
  all_goals
    simp only [form, List.forall_mem_cons, Slot.keyword.injEq]
    simp
    decide

theorem isBare_of_serverPart {sigils : List Char} (hsigils : '"' ∉ sigils)
    (h : (serverPart sigils w).isSome = true) : IsBare w := by
  obtain ⟨sigil, rest, rfl, hsigil, hsolid⟩ := exists_sigil_of_serverPart h
  refine ⟨List.cons_ne_nil _ _, fun hquote => hsigils ?_, hsolid⟩
  rw [← Option.some.inj hquote]
  exact List.contains_iff_mem.1 hsigil

/-- What is written in a place is a word that fits there. -/
theorem Slot.begins_written {slot : Slot} (h : slot.WellFormed)
    (hkeyword : ∀ k, slot = .keyword k → IsBare k.toList)
    (ends : ∀ c ∈ rest.head?, isBlank c = true) :
    ∃ w : String, Begins w.toList rest (slot.written ++ rest) ∧ slot.Fits w := by
  cases slot with
  | keyword k => exact ⟨k, (hkeyword k rfl).begins ends, Text.sameWord_self k⟩
  | mode m =>
    have hbare : IsBare m.name.toList := by cases m <;> decide
    exact ⟨m.name, hbare.begins ends, Text.sameWord_self m.name⟩
  | member m =>
    have hbare := isBare_of_serverPart (by decide) (MemberId.parse_eq_ok_iff.1 h).2
    exact ⟨m.text, hbare.begins ends, h⟩
  | room r =>
    have hbare := isBare_of_serverPart (by decide) (RoomId.parse_eq_ok_iff.1 h).2
    exact ⟨r.text, hbare.begins ends, h⟩
  | name n => exact ⟨n, begins_quote _ _, rfl⟩

/-- Words with a blank before each stand in their places. -/
theorem words_written {slots : List Slot} (hwell : ∀ slot ∈ slots, slot.WellFormed)
    (hkeyword : ∀ slot ∈ slots, ∀ k, slot = .keyword k → IsBare k.toList)
    (ends : ∀ c ∈ rest.head?, isBlank c = true) :
    Words rest slots (slots.flatMap (fun slot => ' ' :: slot.written) ++ rest) := by
  induction slots with
  | nil => exact .nil
  | cons slot slots ih =>
    rw [List.forall_mem_cons] at hwell hkeyword
    have hends : ∀ c ∈ (slots.flatMap (fun slot => ' ' :: slot.written) ++ rest).head?,
        isBlank c = true := by
      cases slots with
      | nil => exact ends
      | cons next slots => exact fun c hc => Option.some.inj hc ▸ by decide
    obtain ⟨w, begins, fits⟩ := slot.begins_written hwell.1 hkeyword.1 hends
    rw [List.flatMap_cons, List.append_assoc]
    exact .cons (begins.cons_blank (by decide)) fits (ih hwell.2 hkeyword.2)

theorem intercalate_blank_cons (x : List Char) (xs : List (List Char)) :
    [' '].intercalate (x :: xs) = x ++ xs.flatMap (' ' :: ·) := by
  induction xs generalizing x with
  | nil => simp [List.intercalate]
  | cons y ys ih => rw [List.intercalate_cons_cons, ih, List.flatMap_cons]; simp

/-- A blank may stand before each text that is written. -/
theorem head_flatMap_blank_cons (xs : List (List Char)) :
    ∀ c ∈ (xs.flatMap (' ' :: ·)).head?, isBlank c = true := by
  cases xs with
  | nil => exact nofun
  | cons x xs => exact fun c hc => Option.some.inj hc ▸ by decide

theorem Tail.ends_written {tail : Tail} (h : tail.Trimmed) :
    tail.Ends (tail.written.flatMap (' ' :: ·)) := by
  have htrim : ∀ t : List Char, trim (' ' :: t) = trim t := fun _ => rfl
  cases tail with
  | blank => rfl
  | optional text =>
    by_cases hempty : text = ""
    · subst hempty
      rfl
    · simpa [written, hempty, Ends, htrim, Trimmed] using h
  | required text => simpa [written, Ends, htrim, Trimmed] using h

/-- The canonical rendering of a command renders it. -/
theorem Command.renders_render {command : Command}
    (hwell : ∀ slot ∈ command.form.slots, slot.WellFormed) (htrimmed : command.form.tail.Trimmed) :
    command.form.Renders command.render.toList := by
  obtain ⟨slots, hslots⟩ := List.head?_eq_some_iff.1 command.form_head
  have hkeyword := command.isBare_keyword
  have hends := head_flatMap_blank_cons command.form.tail.written
  refine ⟨command.form.tail.written.flatMap (' ' :: ·), ?_, Tail.ends_written htrimmed⟩
  rw [hslots, List.forall_mem_cons] at hwell hkeyword
  have hwords := words_written hwell.2 hkeyword.2 hends
  have hrest := head_flatMap_blank_cons (slots.map Slot.written ++ command.form.tail.written)
  rw [List.flatMap_append, List.flatMap_map] at hrest
  rw [render, String.toList_ofList, hslots, List.map_cons, List.cons_append,
    intercalate_blank_cons, List.flatMap_append, List.flatMap_map]
  exact .cons ((hkeyword.1 _ rfl).begins hrest) (Text.sameWord_self _) hwords

namespace Command

open CommandReader

theorem reads_finish : Reads finish fun _ s rest => trimStart s = [] ∧ rest = [] := by
  intro size s a rest
  rw [run_finish]
  by_cases hblank : trimStart s = []
  · rw [if_pos hblank]
    constructor
    · intro h
      cases h
      exact ⟨hblank, rfl⟩
    · rintro ⟨-, rfl⟩
      rfl
  · rw [if_neg hblank]
    exact ⟨nofun, fun h => absurd h.1 hblank⟩

theorem pairwise_alternatives :
    (alternatives.map Prod.fst).Pairwise fun k k' => Text.sameWord k k' = false := by
  decide

theorem name_mem_alternatives (command : Command) :
    command.name ∈ alternatives.map Prod.fst := by
  rcases command with _ | _ | _ | _ | _ | _ | _ | _ | ⟨_ | _ | _, _⟩ | _ <;>
    simp [name, Setting.name, alternatives]

/-- The reader of commands reads exactly the renderings of commands, to their end. -/
theorem reads_reader : Reads reader fun command s rest => command.form.Renders s ∧ rest = [] := by
  refine (reads_word?_bind (R := fun w command s rest =>
    ∃ k ∈ alternatives.map Prod.fst, Text.sameWord k w = true ∧
      ∃ mid, command.form.LeavesAfter [Slot.keyword k] s mid ∧ trimStart mid = [] ∧ rest = [])
    (fun position w => reads_named pairwise_alternatives ?_ ?_) (reads_throw _)).congr ?_
  · intro k next hmem hword
    simp only [hword]
    refine (Reads.bind (follows_alternatives _ hmem) fun command =>
      reads_finish.bind fun _ => reads_pure command).congr fun command s rest => ?_
    constructor
    · rintro ⟨_, mid, hleaves, _, _, ⟨hblank, rfl⟩, rfl, rfl⟩
      exact ⟨mid, hleaves, hblank, rfl⟩
    · rintro ⟨mid, hleaves, hblank, rfl⟩
      exact ⟨command, mid, hleaves, (), [], ⟨hblank, rfl⟩, rfl, rfl⟩
  · intro hword
    simp only [hword]
    exact reads_throw _
  · intro command s rest
    rw [Form.renders_iff_leaves]
    constructor
    · rintro ⟨w, mid, begins, k, -, hsame, last, ⟨f, hf, hleaves⟩, hblank, rfl⟩
      exact ⟨⟨last, hf ▸ Form.leaves_behind_iff.2 ⟨w, mid, begins, hsame, hleaves⟩, hblank⟩, rfl⟩
    · rintro ⟨⟨last, hleaves, hblank⟩, rfl⟩
      obtain ⟨f, hf⟩ := command.exists_form_eq
      obtain ⟨w, mid, begins, fits, hinner⟩ := Form.leaves_behind_iff.1 (hf ▸ hleaves)
      exact ⟨w, mid, begins, command.name, command.name_mem_alternatives, fits, last,
        ⟨f, hf, hinner⟩, hblank, rfl⟩

/-- A text that goes on behind a command without free text is rejected for what is left. -/
theorem run_reader_of_trailing {command : Command} (htail : command.form.tail = .blank)
    (words : Words rest command.form.slots s) (hrest : trim rest ≠ []) (size : Nat) :
    (reader.run size).run s = .error (.trailingInput (String.ofList (trim rest))
      (positionAt size (trimStart rest))) := by
  have hleaves : command.form.Leaves s rest := ⟨rest, words, by rw [htail]; rfl⟩
  obtain ⟨f, hf⟩ := command.exists_form_eq
  obtain ⟨w, mid, begins, fits, hinner⟩ := Form.leaves_behind_iff.1 (hf ▸ hleaves)
  obtain ⟨⟨k, next⟩, hmem, rfl⟩ := List.mem_map.1 command.name_mem_alternatives
  have hword : alternative? alternatives w = some next :=
    (alternative?_eq_some_iff pairwise_alternatives).2 ⟨_, hmem, fits⟩
  have hnext : (next.run size).run mid = .ok (command, rest) :=
    (follows_alternatives _ hmem ..).2 ⟨f, hf, hinner⟩
  have hblank : trimStart rest ≠ [] := fun h => hrest (Text.trim_eq_nil_iff.2 h)
  rw [reader, run_bind, run_word?_of_begins begins]
  simp only [String.ofList_toList, hword]
  rw [run_bind, hnext]
  simp only [run_bind, run_finish, if_neg hblank]

theorem parse_eq (s : String) :
    parse s = ((reader.run (Text.byteSize s.toList)).run s.toList).map Prod.fst :=
  rfl

theorem parse_eq_ok_iff {s : String} {command : Command} :
    parse s = .ok command ↔ command.form.Renders s.toList := by
  rw [parse_eq]
  constructor
  · intro h
    cases hrun : (reader.run (Text.byteSize s.toList)).run s.toList with
    | error e =>
      rw [hrun] at h
      cases h
    | ok p =>
      rw [hrun] at h
      cases h
      exact ((reads_reader ..).1 hrun).1
  · intro h
    rw [(reads_reader ..).2 ⟨h, rfl⟩]
    rfl

/-- What is read as a command is exactly what renders it. Every command with identifiers that have
the form of identifiers, and with a trimmed free text, is read from its canonical rendering,
whatever text names a variable in it; and a text that goes on behind a complete command without free
text is rejected, for what is left of it and at the place where that starts. -/
theorem parse_exact :
    (∀ (s : String) (command : Command),
      parse s = .ok command ↔ command.form.Renders s.toList) ∧
    (∀ command : Command, (∀ slot ∈ command.form.slots, slot.WellFormed) →
      command.form.tail.Trimmed → parse command.render = .ok command) ∧
    (∀ (s : String) (command : Command) (rest : List Char), command.form.tail = .blank →
      Words rest command.form.slots s.toList → trim rest ≠ [] →
      parse s = .error (.trailingInput (String.ofList (trim rest))
        (Text.byteSize s.toList - Text.byteSize (trimStart rest)))) := by
  refine ⟨fun _ _ => parse_eq_ok_iff, fun command hwell htrimmed => ?_, ?_⟩
  · exact parse_eq_ok_iff.2 (renders_render hwell htrimmed)
  · intro s command rest htail words hrest
    rw [parse_eq, run_reader_of_trailing htail words hrest]
    rfl

example : (Command.vars (.set "a \"b\"" "x  y")).render = "vars set \"a \\\"b\\\"\" x  y" := by
  decide

example : parse " VARS\tset \"a \\\"b\\\"\"x  y " = .ok (.vars (.set "a \"b\"" "x  y")) := by
  decide

end Command

end RoomModeration
