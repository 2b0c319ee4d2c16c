import RoomModeration.Command.Grammar
import RoomModeration.Proofs.Command.Wording
import Mathlib.Data.List.Chain

/-!
# Where the cursor stands

A command is read with a cursor that moves over its text. To the readers the cursor is the text that
is left, so they cannot lose it. Here it is a position counted in bytes, as it is told to a user,
and its steps are additions of sizes: over the blanks, to the next blank, behind a closing quote, to
the end. Text can be taken from a position only if it is a boundary between two characters.

A course of a reader is a run of it step by step: the positions at which the cursor comes to stand,
and what comes out. Every look at the text is a slice from the position reached. So a course exists
only if no slice ever goes wrong, and it is shown that the reader of commands has one for every
text, that its positions are boundaries and never go back, and that an error that names a position
names one from which the text is complained about in the same way.

## Main definitions

* `Text.sliceFrom?` : the text from a position on.
* `CursorStep` : the steps of the cursor.
* `CommandReader.Course` : the courses of a reader.
* `CommandError.Recurs` : a text gives rise to the complaint that an error makes.
* `CommandReader.Traced` : a reader has a course from everywhere, and its errors lie where they say.

## Main results

* `Course.run_eq` : a course is what the reader does.
* `Course.isChain` : the positions of a course are boundaries and never go back.
* `traced_word?` : words are taken from where the cursor stands.
* `Command.positions_right` : the positions of commands and their errors.
-/

namespace RoomModeration

open Text (isBlank trim trimStart trimEnd byteSize)

variable {α β : Type} {text s rest : List Char} {p q : Nat}

/-! ### Positions -/

namespace Text

/-- The text from a position on, which is counted in bytes. There is none if the position lies
within a character or behind the end. -/
def sliceFrom? : List Char → Nat → Option (List Char)
  | s, 0 => some s
  | [], _ + 1 => none
  | c :: s, n + 1 => if c.utf8Size ≤ n + 1 then sliceFrom? s (n + 1 - c.utf8Size) else none

/-- A text can be taken from the positions at which one of its parts ends. -/
theorem sliceFrom?_eq_some_iff :
    sliceFrom? s p = some rest ↔ ∃ before, s = before ++ rest ∧ byteSize before = p := by
  constructor
  · intro h
    fun_induction sliceFrom? s p with
    | case1 s => exact ⟨[], Option.some.inj h, rfl⟩
    | case2 => cases h
    | case3 c s n hle ih =>
      obtain ⟨before, hs, hsize⟩ := ih h
      refine ⟨c :: before, by rw [hs, List.cons_append], ?_⟩
      rw [byteSize_cons, hsize]
      omega
    | case4 => cases h
  · rintro ⟨before, rfl, rfl⟩
    induction before with
    | nil =>
      rw [byteSize_nil, List.nil_append]
      cases rest <;> rfl
    | cons c before ih =>
      obtain ⟨n, hn⟩ : ∃ n, c.utf8Size + byteSize before = n + 1 :=
        Nat.exists_eq_add_one.2 (Nat.add_pos_left c.utf8Size_pos _)
      rw [List.cons_append, byteSize_cons, hn, sliceFrom?, if_pos (by omega), ← ih]
      congr 1
      omega

theorem sliceFrom?_zero (s : List Char) : sliceFrom? s 0 = some s :=
  sliceFrom?_eq_some_iff.2 ⟨[], rfl, rfl⟩

/-- Behind the first part of what is taken, the rest can be taken. -/
theorem sliceFrom?_append (part : List Char) (h : sliceFrom? s p = some (part ++ rest)) :
    sliceFrom? s (p + byteSize part) = some rest := by
  obtain ⟨before, rfl, rfl⟩ := sliceFrom?_eq_some_iff.1 h
  exact sliceFrom?_eq_some_iff.2 ⟨before ++ part, by rw [List.append_assoc], byteSize_append _ _⟩

/-- The position of a text that can be taken. -/
theorem positionAt_of_sliceFrom? (h : sliceFrom? s p = some rest) :
    CommandReader.positionAt (byteSize s) rest = p := by
  obtain ⟨before, rfl, rfl⟩ := sliceFrom?_eq_some_iff.1 h
  rw [CommandReader.positionAt, byteSize_append, Nat.add_sub_cancel]

theorem sliceFrom?_byteSize (s : List Char) : sliceFrom? s (byteSize s) = some [] :=
  sliceFrom?_eq_some_iff.2 ⟨s, (List.append_nil s).symm, rfl⟩

theorem le_byteSize_of_sliceFrom? (h : sliceFrom? s p = some rest) : p ≤ byteSize s := by
  obtain ⟨before, rfl, rfl⟩ := sliceFrom?_eq_some_iff.1 h
  rw [byteSize_append]
  exact Nat.le_add_right _ _

theorem sliceFrom?_trimStart (h : sliceFrom? s p = some rest) :
    sliceFrom? s (p + (byteSize rest - byteSize (trimStart rest))) = some (trimStart rest) := by
  obtain ⟨gap, -, hgap⟩ := exists_gap_trimStart rest
  have hsize : byteSize rest - byteSize (trimStart rest) = byteSize gap := by
    rw [Nat.sub_eq_of_eq_add]
    rw [← byteSize_append, ← hgap]
  rw [hsize]
  exact sliceFrom?_append gap (hgap ▸ h)

theorem sliceFrom?_dropWhile (h : sliceFrom? s p = some rest) (f : Char → Bool) :
    sliceFrom? s (p + byteSize (rest.takeWhile f)) = some (rest.dropWhile f) := by
  rw [← rest.takeWhile_append_dropWhile (p := f)] at h
  exact sliceFrom?_append _ h

theorem sliceFrom?_quoted {q : List Char} (h : sliceFrom? s p = some ('"' :: (q ++ '"' :: rest))) :
    sliceFrom? s (p + 1 + byteSize q + 1) = some rest := by
  have hopen : sliceFrom? s (p + 1) = some (q ++ '"' :: rest) := sliceFrom?_append ['"'] h
  exact sliceFrom?_append ['"'] (sliceFrom?_append q hopen)

theorem byteSize_eq_utf8ByteSize (s : List Char) : byteSize s = (String.ofList s).utf8ByteSize := by
  induction s with
  | nil => rfl
  | cons c s ih =>
    rw [byteSize_cons, ih, ← List.singleton_append, String.ofList_append,
      String.utf8ByteSize_append, ← String.singleton_eq_ofList, String.utf8ByteSize_singleton]

/-- The positions from which the text of a string can be taken are its valid ones. -/
theorem isValid_of_sliceFrom? {s : String} (h : sliceFrom? s.toList p = some rest) :
    (⟨p⟩ : String.Pos.Raw).IsValid s := by
  obtain ⟨before, hs, rfl⟩ := sliceFrom?_eq_some_iff.1 h
  refine String.Pos.Raw.isValid_iff_exists_append.2 ⟨.ofList before, .ofList rest, ?_, ?_⟩
  · rw [← String.ofList_append, ← hs, String.ofList_toList]
  · rw [byteSize_eq_utf8ByteSize]
    rfl

end Text

/-! ### Steps and courses -/

/-- The steps of the cursor over a text. -/
inductive CursorStep (text : List Char) : Nat → Nat → Prop
  /-- Over the blanks at which it stands. -/
  | blanks {p : Nat} {rest : List Char} (here : Text.sliceFrom? text p = some rest) :
      CursorStep text p (p + (byteSize rest - byteSize (trimStart rest)))
  /-- To the next blank, or to the end. -/
  | bare {p : Nat} {rest : List Char} (here : Text.sliceFrom? text p = some rest) :
      CursorStep text p (p + byteSize (rest.takeWhile (!isBlank ·)))
  /-- From an opening quote to behind the closing one. -/
  | quoted {p : Nat} {w q after : List Char}
      (here : Text.sliceFrom? text p = some ('"' :: (q ++ '"' :: after)))
      (quotation : Quotation w q) : CursorStep text p (p + 1 + byteSize q + 1)
  /-- To the end. -/
  | toEnd {p : Nat} {rest : List Char} (here : Text.sliceFrom? text p = some rest) :
      CursorStep text p (byteSize text)

namespace CommandReader

/-- The courses of a reader over a text, from a position: where the cursor comes to stand on the
way, and what comes out. -/
inductive Course (text : List Char) :
    {α : Type} → CommandReader α → Nat → List Nat → Except CommandError α → Prop
  /-- Nothing is read. -/
  | pure {α : Type} (a : α) (p : Nat) : Course text (Pure.pure a) p [] (.ok a)
  /-- It is complained. -/
  | throw {α : Type} (e : CommandError) (p : Nat) :
      Course text (MonadExcept.throw e : CommandReader α) p [] (.error e)
  /-- The size of the whole text is asked for. -/
  | size (p : Nat) : Course text MonadReader.read p [] (.ok (byteSize text))
  /-- The text at the cursor is looked at. -/
  | look {p : Nat} {rest : List Char} (here : Text.sliceFrom? text p = some rest) :
      Course text MonadState.get p [] (.ok rest)
  /-- The cursor makes a step. -/
  | move {p q : Nat} {rest : List Char} (step : CursorStep text p q)
      (there : Text.sliceFrom? text q = some rest) :
      Course text (MonadState.set rest) p [q] (.ok ())
  /-- One reader goes on where another has come to. -/
  | bind {α β : Type} {x : CommandReader α} {f : α → CommandReader β} {p : Nat} {ps qs : List Nat}
      {a : α} {r : Except CommandError β} (first : Course text x p ps (.ok a))
      (next : Course text (f a) (ps.getLastD p) qs r) : Course text (x >>= f) p (ps ++ qs) r
  /-- A reader fails, and nothing is read behind it. -/
  | stop {α β : Type} {x : CommandReader α} {f : α → CommandReader β} {p : Nat} {ps : List Nat}
      {e : CommandError} (first : Course text x p ps (.error e)) :
      Course text (x >>= f) p ps (.error e)

end CommandReader

/-- The cursor steps from a boundary to a boundary, and never back. -/
theorem CursorStep.lands (h : CursorStep text p q) :
    p ≤ q ∧ ∃ rest, Text.sliceFrom? text q = some rest := by
  cases h with
  | blanks here => exact ⟨Nat.le_add_right _ _, _, Text.sliceFrom?_trimStart here⟩
  | bare here => exact ⟨Nat.le_add_right _ _, _, Text.sliceFrom?_dropWhile here _⟩
  | quoted here _ => exact ⟨by omega, _, Text.sliceFrom?_quoted here⟩
  | toEnd here => exact ⟨Text.le_byteSize_of_sliceFrom? here, _, Text.sliceFrom?_byteSize text⟩

namespace CommandReader

/-- A course is what the reader does with the text at the cursor; where it ends, there is the text
that is left. -/
theorem Course.run_eq {x : CommandReader α} {ps : List Nat} {r : Except CommandError α}
    (h : Course text x p ps r) (here : Text.sliceFrom? text p = some s) :
    ∃ rest, Text.sliceFrom? text (ps.getLastD p) = some rest ∧
      (x.run (byteSize text)).run s = r.map fun a => (a, rest) := by
  induction h generalizing s with
  | pure a p => exact ⟨s, here, rfl⟩
  | throw e p => exact ⟨s, here, rfl⟩
  | size p => exact ⟨s, here, rfl⟩
  | look here' =>
    obtain rfl := Option.some.inj (here.symm.trans here')
    exact ⟨_, here, rfl⟩
  | move _ there => exact ⟨_, there, rfl⟩
  | @bind _ _ x f p ps qs a r _ _ ih ih' =>
    obtain ⟨mid, hmid, hrun⟩ := ih here
    obtain ⟨rest, hrest, hrun'⟩ := ih' hmid
    refine ⟨rest, ?_, ?_⟩
    · cases qs with
      | nil => rwa [List.append_nil]
      | cons q qs => simpa using hrest
    · rw [run_bind, hrun]
      exact hrun'
  | stop _ ih =>
    obtain ⟨rest, hrest, hrun⟩ := ih here
    exact ⟨rest, hrest, by rw [run_bind, hrun]; rfl⟩

/-- The cursor only comes to stand at boundaries, and never goes back. -/
theorem Course.isChain {x : CommandReader α} {ps : List Nat} {r : Except CommandError α}
    (h : Course text x p ps r) :
    (p :: ps).IsChain (· ≤ ·) ∧ ∀ q ∈ ps, ∃ rest, Text.sliceFrom? text q = some rest := by
  induction h with
  | pure | throw | size | look => exact ⟨.singleton _, List.forall_mem_nil _⟩
  | move step _ =>
    obtain ⟨hle, hlands⟩ := step.lands
    exact ⟨.cons_cons hle (.singleton _), List.forall_mem_singleton.2 hlands⟩
  | @bind _ _ x f p ps qs a r _ _ ih ih' =>
    refine ⟨?_, fun q hq => (List.mem_append.1 hq).elim (ih.2 q) (ih'.2 q)⟩
    obtain ⟨hnext, hqs⟩ := List.isChain_cons.1 ih'.1
    refine List.isChain_append.2 ⟨ih.1, hqs, fun last hlast => ?_⟩
    rw [List.getLast?_cons, ← List.getLastD_eq_getLast?] at hlast
    exact Option.some.inj hlast ▸ hnext
  | stop _ ih => exact ih

end CommandReader

/-! ### Complaints -/

/-- A text gives rise to the complaint that an error makes, apart from its position. -/
def CommandError.Recurs (s : List Char) : CommandError → Prop
  | invalidId _ cause => (∃ after, Begins cause.value.toList after s) ∧
      (RoomId.parse cause.value = .error cause ∨ MemberId.parse cause.value = .error cause)
  | invalidMode _ cause => (∃ after, Begins cause.value.toList after s) ∧
      RoomMode.parse cause.value = .error cause
  | unterminatedQuote _ => ∃ behind, s = '"' :: behind ∧
      ∀ w q after, Quotation w q → behind ≠ q ++ '"' :: after
  | trailingInput input _ => input ≠ "" ∧ trimEnd s = input.toList
  | empty | unknownCommand _ | incomplete .. | invalidSubcommand .. => True

/-- If an error names a position, it names a boundary in the text, and from the character there,
which is no blank, the complaint recurs. -/
def CommandError.Located (text : List Char) (e : CommandError) : Prop :=
  ∀ p ∈ e.position?, ∃ c rest, Text.sliceFrom? text p = some (c :: rest) ∧ isBlank c = false ∧
    e.Recurs (c :: rest)

/-- An argument is a word that begins where it says. -/
def Argument.IsWord (text : List Char) (argument : Argument) : Prop :=
  ∃ c rest after, Text.sliceFrom? text argument.position = some (c :: rest) ∧ isBlank c = false ∧
    Begins argument.text.toList after (c :: rest)

/-- An argument is all the text from where it says. -/
def Argument.IsFreeText (text : List Char) (argument : Argument) : Prop :=
  ∃ c rest, Text.sliceFrom? text argument.position = some (c :: rest) ∧ isBlank c = false ∧
    argument.text.toList = trimEnd (c :: rest)

/-- An error at a word is located if whatever begins with the word gives rise to it. -/
theorem Argument.IsWord.located {argument : Argument} {e : CommandError}
    (h : argument.IsWord text) (hposition : e.position? = some argument.position)
    (hrecurs : ∀ s after, Begins argument.text.toList after s → e.Recurs s) : e.Located text := by
  obtain ⟨c, rest, after, hslice, hc, hbegins⟩ := h
  intro p hp
  obtain rfl := Option.some.inj (hposition.symm.trans hp)
  exact ⟨c, rest, hslice, hc, hrecurs _ after hbegins⟩

theorem Argument.IsWord.located_invalidId {argument : Argument} (h : argument.IsWord text)
    {cause : IdError}
    (hcause : RoomId.parse argument.text = .error cause ∨
      MemberId.parse argument.text = .error cause) :
    (CommandError.invalidId argument.position cause).Located text := by
  have hvalue : cause.value = argument.text := by
    rcases hcause with hcause | hcause
    · rw [RoomId.parse] at hcause
      split at hcause <;> cases hcause
      rfl
    · rw [MemberId.parse] at hcause
      split at hcause <;> cases hcause
      rfl
  exact h.located rfl fun s after hbegins => ⟨⟨after, hvalue ▸ hbegins⟩, hvalue.symm ▸ hcause⟩

theorem Argument.IsWord.located_invalidMode {argument : Argument} (h : argument.IsWord text)
    {cause : ModeError} (hcause : RoomMode.parse argument.text = .error cause) :
    (CommandError.invalidMode argument.position cause).Located text := by
  have hvalue : cause.value = argument.text := by
    rw [RoomMode.parse] at hcause
    split at hcause <;> cases hcause
    rfl
  exact h.located rfl fun s after hbegins => ⟨⟨after, hvalue ▸ hbegins⟩, hvalue.symm ▸ hcause⟩

theorem Argument.IsFreeText.located_trailingInput {argument : Argument}
    (h : argument.IsFreeText text) :
    (CommandError.trailingInput argument.text argument.position).Located text := by
  obtain ⟨c, rest, hslice, hc, htext⟩ := h
  intro p hp
  obtain rfl := Option.some.inj hp
  refine ⟨c, rest, hslice, hc, fun hempty => ?_, htext.symm⟩
  have hblank : trim (c :: rest) = [] := by
    rw [trim, Text.trimStart_cons_of_solid hc, ← htext, hempty]
    rfl
  have hstart := Text.trim_eq_nil_iff.1 hblank
  rw [Text.trimStart_cons_of_solid hc] at hstart
  cases hstart

namespace CommandReader

/-! ### Readers that have courses -/

/-- From every boundary a reader has a course. Its result has some property, and its error lies
where it says. -/
def Traced (text : List Char) (x : CommandReader α) (Q : α → Prop := fun _ => True) : Prop :=
  ∀ p s, Text.sliceFrom? text p = some s → ∃ ps r, Course text x p ps r ∧
    (∀ a, r = .ok a → Q a) ∧ ∀ e, r = .error e → e.Located text

variable {x : CommandReader α} {Q : α → Prop} {R : β → Prop}

theorem traced_pure {a : α} (ha : Q a) : Traced text (pure a) Q := fun p _ _ =>
  ⟨[], .ok a, .pure a p, fun _ h => Except.ok.inj h ▸ ha, nofun⟩

theorem traced_throw {e : CommandError} (he : e.Located text) :
    Traced text (throw e : CommandReader α) Q := fun p _ _ =>
  ⟨[], .error e, .throw e p, nofun, fun _ h => Except.error.inj h ▸ he⟩

theorem Traced.bind {f : α → CommandReader β} (hx : Traced text x Q)
    (hf : ∀ a, Q a → Traced text (f a) R) : Traced text (x >>= f) R := by
  intro p s here
  obtain ⟨ps, r, hcourse, hok, herror⟩ := hx p s here
  cases r with
  | error e => exact ⟨ps, .error e, .stop hcourse, nofun, fun _ h => herror _ (by cases h; rfl)⟩
  | ok a =>
    obtain ⟨mid, hmid, -⟩ := hcourse.run_eq here
    obtain ⟨qs, r, hcourse', hok', herror'⟩ := hf a (hok a rfl) _ _ hmid
    exact ⟨ps ++ qs, r, .bind hcourse hcourse', hok', herror'⟩

theorem Traced.map (hx : Traced text x Q) (f : α → β) : Traced text (f <$> x) := by
  rw [map_eq_pure_bind]
  exact hx.bind fun _ _ => traced_pure trivial

/-- The cursor is moved over the blanks at which it stands. -/
theorem course_skipBlanks (here : Text.sliceFrom? text p = some s) :
    ∃ q, Text.sliceFrom? text q = some (trimStart s) ∧
      Course text skipBlanks p [q] (.ok (q, trimStart s)) := by
  have there := Text.sliceFrom?_trimStart here
  refine ⟨_, there, .bind (.size p) (.bind (.look here) (.bind (.move (.blanks here) there) ?_))⟩
  rw [Text.positionAt_of_sliceFrom? there]
  exact .pure _ _

/-- A reader that starts behind the blanks has courses if it has them from where no blank is. -/
theorem traced_skipBlanks_bind {f : Nat × List Char → CommandReader β}
    (hf : ∀ q t, Text.sliceFrom? text q = some t → (∀ c r, t = c :: r → isBlank c = false) →
      ∃ ps r, Course text (f (q, t)) q ps r ∧ (∀ b, r = .ok b → R b) ∧
        ∀ e, r = .error e → e.Located text) :
    Traced text (skipBlanks >>= f) R := by
  intro p s here
  obtain ⟨q, there, hskip⟩ := course_skipBlanks here
  obtain ⟨ps, r, hcourse, hok, herror⟩ := hf q _ there fun _ _ => Text.trimStart_head
  exact ⟨[q] ++ ps, r, .bind hskip hcourse, hok, herror⟩

/-- A word is taken from where the cursor stands behind the blanks. -/
theorem traced_word? : Traced text word? fun argument? => ∀ a ∈ argument?, a.IsWord text := by
  refine traced_skipBlanks_bind fun q t there hsolid => ?_
  cases t with
  | nil => exact ⟨[], .ok none, .pure none q, fun _ h => Except.ok.inj h ▸ nofun, nofun⟩
  | cons c r =>
    have hc := hsolid c r rfl
    by_cases hquote : c = '"'
    · subst hquote
      cases hunquote : unquote r with
      | none =>
        refine ⟨[], .error (.unterminatedQuote q), ?_, nofun, fun e he p hp => ?_⟩
        · simp only [hunquote]
          exact .throw _ q
        · obtain rfl := Except.error.inj he
          obtain rfl := Option.some.inj hp
          refine ⟨'"', r, there, hc, r, rfl, fun w inner after quotation hr => ?_⟩
          rw [hr, unquote_append quotation] at hunquote
          cases hunquote
      | some found =>
        obtain ⟨w, after⟩ := found
        obtain ⟨inner, quotation, rfl⟩ := unquote_eq_some_iff.1 hunquote
        refine ⟨[q + 1 + byteSize inner + 1], .ok (some ⟨q, String.ofList w⟩), ?_,
          fun a ha argument hargument => ?_, nofun⟩
        · simp only [hunquote]
          exact .bind (.move (.quoted there quotation) (Text.sliceFrom?_quoted there)) (.pure _ _)
        · obtain rfl := Except.ok.inj ha
          obtain rfl := Option.some.inj hargument
          refine ⟨'"', _, after, there, hc, ?_⟩
          rw [String.toList_ofList]
          exact .quoted [] (List.forall_mem_nil _) inner quotation
    · refine ⟨[q + byteSize ((c :: r).takeWhile (!isBlank ·))],
        .ok (some ⟨q, String.ofList ((c :: r).takeWhile (!isBlank ·))⟩), ?_,
        fun a ha argument hargument => ?_, nofun⟩
      · simp only [List.cons.injEq, hquote, false_and, imp_self, implies_true]
        exact .bind (.move (.bare there) (Text.sliceFrom?_dropWhile there _)) (.pure _ _)
      · obtain rfl := Except.ok.inj ha
        obtain rfl := Option.some.inj hargument
        refine ⟨c, r, (c :: r).dropWhile (!isBlank ·), there, hc, ?_⟩
        rw [String.toList_ofList]
        exact begins_of_solid hc hquote

theorem traced_word (command expected : String) :
    Traced text (word command expected) fun argument => argument.IsWord text := by
  refine traced_word?.bind fun argument? h => ?_
  cases argument? with
  | none => exact traced_throw nofun
  | some argument => exact traced_pure (h argument rfl)

/-- All the text is taken from where the cursor stands behind the blanks. -/
theorem traced_freeText? :
    Traced text freeText? fun argument? => ∀ a ∈ argument?, a.IsFreeText text := by
  refine traced_skipBlanks_bind fun q t there hsolid => ?_
  cases t with
  | nil => exact ⟨[], .ok none, .pure none q, fun _ h => Except.ok.inj h ▸ nofun, nofun⟩
  | cons c r =>
    refine ⟨[byteSize text], .ok (some ⟨q, String.ofList (trimEnd (c :: r))⟩),
      .bind (.move (.toEnd there) (Text.sliceFrom?_byteSize text)) (.pure _ _),
      fun a ha argument hargument => ?_, nofun⟩
    obtain rfl := Except.ok.inj ha
    obtain rfl := Option.some.inj hargument
    exact ⟨c, r, there, hsolid c r rfl, String.toList_ofList⟩

theorem traced_freeText (command expected : String) : Traced text (freeText command expected) := by
  refine traced_freeText?.bind fun argument? h => ?_
  cases argument? with
  | none => exact traced_throw nofun
  | some argument => exact traced_pure trivial

theorem traced_finish : Traced text finish := by
  refine traced_freeText?.bind fun argument? h => ?_
  cases argument? with
  | none => exact traced_pure trivial
  | some argument => exact traced_throw (h argument rfl).located_trailingInput

theorem traced_memberId (command : String) : Traced text (memberId command) := by
  refine (traced_word _ _).bind fun argument hword => ?_
  cases hparse : MemberId.parse argument.text with
  | ok member => exact traced_pure trivial
  | error cause => exact traced_throw (hword.located_invalidId (.inr hparse))

theorem traced_asRoom {argument : Argument} (hword : argument.IsWord text) :
    Traced text (asRoom argument) := by
  rw [asRoom]
  cases hparse : RoomId.parse argument.text with
  | ok room => exact traced_pure trivial
  | error cause => exact traced_throw (hword.located_invalidId (.inl hparse))

theorem traced_roomId (command : String) : Traced text (roomId command) :=
  (traced_word _ _).bind fun _ hword => traced_asRoom hword

theorem traced_modeName (command : String) : Traced text (modeName command) := by
  refine (traced_word _ _).bind fun argument hword => ?_
  cases hparse : RoomMode.parse argument.text with
  | ok mode => exact traced_pure trivial
  | error cause => exact traced_throw (hword.located_invalidMode hparse)

/-- The alternative that a word names has courses if all alternatives have. -/
theorem traced_of_alternative? {alternatives : List (String × CommandReader α)} {w : String}
    {next : CommandReader α} (h : alternative? alternatives w = some next)
    (hall : ∀ a ∈ alternatives, Traced text a.2) : Traced text next := by
  obtain ⟨a, hfound, rfl⟩ := Option.map_eq_some_iff.1 h
  exact hall a (List.mem_of_find?_eq_some hfound)

theorem traced_choose (command expected : String) {alternatives : List (String × CommandReader α)}
    (hall : ∀ a ∈ alternatives, Traced text a.2) :
    Traced text (choose command expected alternatives) := by
  refine (traced_word _ _).bind fun argument _ => ?_
  cases hword : alternative? alternatives argument.text with
  | none => exact traced_throw nofun
  | some next => exact traced_of_alternative? hword hall

end CommandReader

/-! ### The readers of commands -/

namespace Command

open CommandReader

theorem traced_readAdmin : Traced text readAdmin := by
  refine traced_choose _ _ ?_
  simp only [List.forall_mem_cons, List.not_mem_nil, false_implies, implies_true, and_true]
  exact ⟨(traced_memberId _).map _, (traced_memberId _).map _, traced_pure trivial⟩

theorem traced_readRoomMode (room : RoomId) : Traced text (readRoomMode room) := by
  refine traced_choose _ _ ?_
  simp only [List.forall_mem_cons, List.not_mem_nil, false_implies, implies_true, and_true]
  exact ⟨(traced_modeName _).map _, (traced_modeName _).map _, traced_pure trivial⟩

theorem traced_readRoomParams (room : RoomId) : Traced text (readRoomParams room) := by
  refine (traced_modeName _).bind fun mode _ => traced_choose _ _ ?_
  exact List.forall_mem_singleton.2 ((traced_freeText _ _).map _)

theorem traced_readRoom : Traced text readRoom := by
  have halternatives : ∀ a ∈ roomAlternatives, Traced text a.2 := by
    simp only [roomAlternatives, List.forall_mem_cons, List.not_mem_nil, false_implies,
      implies_true, and_true]
    exact ⟨(traced_roomId _).map _, (traced_roomId _).map _, traced_pure trivial⟩
  refine (traced_word _ _).bind fun argument hword => ?_
  cases hnext : alternative? roomAlternatives argument.text with
  | some next => exact traced_of_alternative? hnext halternatives
  | none =>
    by_cases hsigil : argument.text.toList.head?.any IdKind.room.sigils.contains = true
    · simp only [hsigil, if_true]
      refine (traced_asRoom hword).bind fun room _ => traced_choose _ _ ?_
      simp only [List.forall_mem_cons, List.not_mem_nil, false_implies, implies_true, and_true]
      exact ⟨traced_readRoomMode room, traced_readRoomParams room⟩
    · simp only [hsigil]
      exact traced_throw nofun

theorem traced_readVars : Traced text readVars := by
  refine traced_choose _ _ ?_
  simp only [List.forall_mem_cons, List.not_mem_nil, false_implies, implies_true, and_true]
  exact ⟨(traced_word _ _).bind fun _ _ => (traced_freeText _ _).map _, (traced_word _ _).map _,
    (traced_word _ _).map _, traced_pure trivial⟩

theorem traced_readSay : Traced text readSay := by
  refine traced_choose _ _ (List.forall_mem_singleton.2 ?_)
  exact (traced_roomId _).bind fun _ _ => (traced_freeText _ _).map _

theorem traced_readSetting (setting : Setting) : Traced text (readSetting setting) := by
  refine (traced_choose _ _ ?_).map _
  simp only [List.forall_mem_cons, List.not_mem_nil, false_implies, implies_true, and_true]
  exact ⟨traced_pure trivial, (traced_freeText _ _).map _⟩

theorem traced_readBan : Traced text readBan :=
  (traced_memberId _).bind fun _ _ => traced_freeText?.bind fun _ _ => traced_pure trivial

theorem traced_alternatives : ∀ a ∈ alternatives, Traced text a.2 := by
  simp only [alternatives, List.forall_mem_cons, List.not_mem_nil, false_implies, implies_true,
    and_true]
  exact ⟨traced_pure trivial, traced_pure trivial, traced_pure trivial, traced_readAdmin.map _,
    traced_readBan, (traced_memberId _).map _, traced_readRoom.map _, traced_readVars.map _,
    traced_readSay, traced_readSetting _, traced_readSetting _, traced_readSetting _⟩

/-- The reader of commands has a course for every text. -/
theorem traced_reader : Traced text reader := by
  refine traced_word?.bind fun argument? _ => ?_
  cases argument? with
  | none => exact traced_throw nofun
  | some argument =>
    cases hnext : alternative? alternatives argument.text with
    | none =>
      simp only [hnext]
      exact traced_throw nofun
    | some next =>
      simp only [hnext]
      refine (traced_of_alternative? hnext traced_alternatives).bind fun command _ => ?_
      exact traced_finish.bind fun _ _ => traced_pure trivial

/-- For every text, the reader of commands has a course that ends in what the text stands for; in
all its courses the cursor stands at boundaries of the text and never goes back; and an error that
names a position names a boundary in the text at which there is a character that is no blank, and
from which the complaint recurs. -/
theorem positions_right (text : String) :
    (∃ ps, Course text.toList reader 0 ps (parse text)) ∧
    (∀ ps r, Course text.toList reader 0 ps r → r = parse text ∧ (0 :: ps).Pairwise (· ≤ ·) ∧
      ∀ p ∈ ps, (⟨p⟩ : String.Pos.Raw).IsValid text) ∧
    ∀ e, parse text = .error e → ∀ p ∈ e.position?,
      (⟨p⟩ : String.Pos.Raw).IsValid text ∧ p < text.utf8ByteSize ∧
      ∃ c rest, Text.sliceFrom? text.toList p = some (c :: rest) ∧ isBlank c = false ∧
        e.Recurs (c :: rest) := by
  have hcourse : ∀ ps r, Course text.toList reader 0 ps r → r = parse text := by
    intro ps r h
    obtain ⟨rest, -, hrun⟩ := h.run_eq (Text.sliceFrom?_zero text.toList)
    have hparse : parse text = (r.map fun a => (a, rest)).map Prod.fst := congrArg _ hrun
    rw [hparse]
    cases r <;> rfl
  obtain ⟨ps, r, h, -, herror⟩ := traced_reader 0 text.toList (Text.sliceFrom?_zero _)
  obtain rfl := hcourse ps r h
  refine ⟨⟨ps, h⟩, fun qs r h' => ?_, fun e he p hp => ?_⟩
  · obtain ⟨hchain, hvalid⟩ := h'.isChain
    refine ⟨hcourse qs r h', List.isChain_iff_pairwise.1 hchain, fun q hq => ?_⟩
    obtain ⟨rest, hslice⟩ := hvalid q hq
    exact Text.isValid_of_sliceFrom? hslice
  · obtain ⟨c, rest, hslice, hc, hrecurs⟩ := herror e he p hp
    refine ⟨Text.isValid_of_sliceFrom? hslice, ?_, c, rest, hslice, hc, hrecurs⟩
    have hbehind := Text.le_byteSize_of_sliceFrom? (Text.sliceFrom?_append [c] hslice)
    rw [Text.byteSize_eq_utf8ByteSize text.toList, String.ofList_toList] at hbehind
    have hpos : 0 < byteSize [c] := c.utf8Size_pos
    omega

/-- The blank in front takes three bytes. -/
example : parse "\u2003ban über" = .error (.invalidId 7 ⟨.member, "über"⟩) := by decide +kernel

end Command

end RoomModeration
