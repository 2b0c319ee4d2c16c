import RoomModeration.Command.Word
import Mathlib.Data.List.TakeWhile

/-!
# What the words of a command look like

A word of a command is written as it is, or between double quotes. Written as it is, it is not
empty, has no blanks and does not start with a double quote; it goes on to the next blank or to the
end of the text. Between double quotes any text can be a word: a double quote or a backslash is
written behind a backslash, and so may be any other character. Nothing need follow a closing quote
but what comes next. Before a word there may be blanks.

These rules are stated here as relations between texts, without regard to how a text is read. The
readers of words and of free text are then shown to accept exactly the texts so related.

## Main definitions

* `Quotation` : what may stand for a word between double quotes.
* `Begins` : a text begins with a word, and this is left of it.
* `CommandReader.Reads` : what a reader accepts.

## Main results

* `unquote_eq_some_iff` : quoted words are read as they are written.
* `run_word?_of_begins`, `begins_of_run_word?` : the word that is read is the one with which the
  text begins.
* `reads_choose` : a choice goes on as the alternative does that a word names.
-/

namespace RoomModeration

open Text (isBlank trim trimStart trimEnd)

variable {α β : Type} {c : Char} {w q s rest : List Char}

/-! ### Quoted words -/

/-- What may stand for a word between double quotes: a character stands for itself or is written
behind a backslash, and a double quote and a backslash always are. -/
inductive Quotation : List Char → List Char → Prop
  | nil : Quotation [] []
  | plain {c : Char} {w q : List Char} (quote : c ≠ '"') (backslash : c ≠ '\\')
      (tail : Quotation w q) : Quotation (c :: w) (c :: q)
  | escaped (c : Char) {w q : List Char} (tail : Quotation w q) :
      Quotation (c :: w) ('\\' :: c :: q)

theorem unquote_append (h : Quotation w q) (rest : List Char) :
    unquote (q ++ '"' :: rest) = some (w, rest) := by
  induction h with
  | nil => rfl
  | @plain c w q quote backslash _ ih =>
    have hstep : unquote (c :: (q ++ '"' :: rest)) =
        (unquote (q ++ '"' :: rest)).map fun found => (c :: found.1, found.2) := by
      rw [unquote.eq_def]
      split <;> simp_all
    rw [List.cons_append, hstep, ih]
    rfl
  | escaped c _ ih =>
    rw [List.cons_append, List.cons_append, unquote, ih]
    rfl

theorem exists_quotation_of_unquote (h : unquote s = some (w, rest)) :
    ∃ q, Quotation w q ∧ s = q ++ '"' :: rest := by
  fun_induction unquote s generalizing w rest with
  | case1 => cases h
  | case2 after =>
    obtain ⟨rfl, rfl⟩ := Prod.mk.inj (Option.some.inj h)
    exact ⟨[], .nil, rfl⟩
  | case3 => cases h
  | case4 c after ih =>
    obtain ⟨⟨word, left⟩, hword, heq⟩ := Option.map_eq_some_iff.1 h
    obtain ⟨rfl, rfl⟩ := Prod.mk.inj heq
    obtain ⟨q, hq, rfl⟩ := ih hword
    exact ⟨_, .escaped c hq, rfl⟩
  | case5 c after hquote hlone hbackslash ih =>
    obtain ⟨⟨word, left⟩, hword, heq⟩ := Option.map_eq_some_iff.1 h
    obtain ⟨rfl, rfl⟩ := Prod.mk.inj heq
    obtain ⟨q, hq, rfl⟩ := ih hword
    refine ⟨_, .plain (fun hc => hquote hc) (fun hc => ?_) hq, rfl⟩
    cases q with
    | nil => exact hbackslash _ _ hc rfl
    | cons d q => exact hbackslash _ _ hc rfl

/-- Quoted words are read as they are written. -/
theorem unquote_eq_some_iff :
    unquote s = some (w, rest) ↔ ∃ q, Quotation w q ∧ s = q ++ '"' :: rest := by
  constructor
  · exact exists_quotation_of_unquote
  · rintro ⟨q, hq, rfl⟩
    exact unquote_append hq rest

/-! ### The first word of a text -/

/-- A text begins with a word, before which there may be blanks, and this is left of it. -/
inductive Begins (w rest : List Char) : List Char → Prop
  /-- The word is written as it is. -/
  | bare (gap : List Char) (blank : ∀ c ∈ gap, isBlank c = true) (nonempty : w ≠ [])
      (unquoted : w.head? ≠ some '"') (solid : ∀ c ∈ w, isBlank c = false)
      (ends : ∀ c ∈ rest.head?, isBlank c = true) : Begins w rest (gap ++ (w ++ rest))
  /-- The word is written between double quotes. -/
  | quoted (gap : List Char) (blank : ∀ c ∈ gap, isBlank c = true) (q : List Char)
      (quotation : Quotation w q) : Begins w rest (gap ++ '"' :: (q ++ '"' :: rest))

namespace Text

theorem trimStart_append_of_blank {gap : List Char} (hgap : ∀ c ∈ gap, isBlank c = true)
    (s : List Char) : trimStart (gap ++ s) = trimStart s :=
  List.dropWhile_append_of_pos hgap

theorem trimStart_cons_of_solid (hc : isBlank c = false) (s : List Char) :
    trimStart (c :: s) = c :: s :=
  List.dropWhile_cons_of_neg (by rw [hc]; exact Bool.false_ne_true)

/-- A text is what is left when it is trimmed at the start, behind blanks. -/
theorem exists_gap_trimStart (s : List Char) :
    ∃ gap, (∀ c ∈ gap, isBlank c = true) ∧ s = gap ++ trimStart s :=
  ⟨s.takeWhile isBlank, fun _ hc => List.mem_takeWhile_imp hc, List.takeWhile_append_dropWhile.symm⟩

/-- A text is blank when nothing is left of it once it is trimmed at the start. -/
theorem trim_eq_nil_iff : trim s = [] ↔ trimStart s = [] := by
  constructor
  · intro h
    cases hstart : trimStart s with
    | nil => rfl
    | cons c r =>
      have hc : isBlank c = false := trimStart_head hstart
      have hall : ∀ d ∈ (c :: r).reverse, isBlank d = true :=
        List.dropWhile_eq_nil_iff.1 (List.reverse_eq_nil_iff.1 (hstart ▸ h))
      rw [hall c (List.mem_reverse.2 List.mem_cons_self)] at hc
      cases hc
  · intro h
    rw [trim, h]
    rfl

end Text

/-- A word that is written as it is ends where the text is blank again. -/
theorem takeWhile_solid_append (solid : ∀ c ∈ w, isBlank c = false)
    (ends : ∀ c ∈ rest.head?, isBlank c = true) :
    (w ++ rest).takeWhile (!isBlank ·) = w ∧ (w ++ rest).dropWhile (!isBlank ·) = rest := by
  have hsolid : ∀ c ∈ w, (!isBlank c) = true := fun c hc => by rw [solid c hc]; rfl
  rw [List.takeWhile_append_of_pos hsolid, List.dropWhile_append_of_pos hsolid]
  cases rest with
  | nil => exact ⟨List.append_nil w, rfl⟩
  | cons d rest =>
    have hd : isBlank d = true := ends d rfl
    simp [hd]

/-- A text that starts neither with a blank nor with a double quote begins with what stands before
its first blank. -/
theorem begins_of_solid {r : List Char} (hc : isBlank c = false) (hquote : c ≠ '"') :
    Begins ((c :: r).takeWhile (!isBlank ·)) ((c :: r).dropWhile (!isBlank ·)) (c :: r) := by
  have hfirst : (c :: r).takeWhile (!isBlank ·) = c :: r.takeWhile (!isBlank ·) :=
    List.takeWhile_cons_of_pos (by rw [hc]; rfl)
  have hends : ∀ d ∈ ((c :: r).dropWhile (!isBlank ·)).head?, isBlank d = true := by
    intro d hd
    have hnot := List.head?_dropWhile_not (!isBlank ·) (c :: r)
    rw [Option.mem_def.1 hd] at hnot
    simpa using hnot
  suffices hbare : Begins ((c :: r).takeWhile (!isBlank ·)) ((c :: r).dropWhile (!isBlank ·))
      ([] ++ ((c :: r).takeWhile (!isBlank ·) ++ (c :: r).dropWhile (!isBlank ·))) by
    rwa [List.nil_append, List.takeWhile_append_dropWhile] at hbare
  refine .bare [] (List.forall_mem_nil _) ?_ ?_ ?_ hends
  · rw [hfirst]
    exact List.cons_ne_nil _ _
  · rw [hfirst]
    exact fun h => hquote (Option.some.inj h)
  · exact fun d hd => by simpa using List.mem_takeWhile_imp hd

/-- Behind a gap, a text begins as it would without it. -/
theorem Begins.of_trimStart (h : Begins w rest (trimStart s)) : Begins w rest s := by
  obtain ⟨gap, hgap, hs⟩ := Text.exists_gap_trimStart s
  rw [hs]
  generalize trimStart s = t at h
  cases h with
  | bare inner blank nonempty unquoted solid ends =>
    rw [← List.append_assoc]
    refine .bare _ (fun c hc => ?_) nonempty unquoted solid ends
    exact (List.mem_append.1 hc).elim (hgap c) (blank c)
  | quoted inner blank q quotation =>
    rw [← List.append_assoc]
    refine .quoted _ (fun c hc => ?_) q quotation
    exact (List.mem_append.1 hc).elim (hgap c) (blank c)

namespace CommandReader

/-! ### What readers accept -/

/-- A reader accepts the texts related to its result and to what it leaves, and no others. -/
def Reads (x : CommandReader α) (R : α → List Char → List Char → Prop) : Prop :=
  ∀ size s a rest, (x.run size).run s = .ok (a, rest) ↔ R a s rest

theorem run_bind (x : CommandReader α) (f : α → CommandReader β) (size : Nat) (s : List Char) :
    ((x >>= f).run size).run s =
      match (x.run size).run s with
      | .ok (a, rest) => ((f a).run size).run rest
      | .error e => .error e := by
  change ((x.run size).run s >>= fun p => ((f p.1).run size).run p.2) = _
  cases (x.run size).run s <;> rfl

/-- The reader of words, as a function of the text. -/
theorem run_word? (size : Nat) (s : List Char) :
    (word?.run size).run s =
      match trimStart s with
      | [] => .ok (none, [])
      | '"' :: quoted =>
        match unquote quoted with
        | some (text, after) =>
          .ok (some ⟨positionAt size ('"' :: quoted), String.ofList text⟩, after)
        | none => .error (.unterminatedQuote (positionAt size ('"' :: quoted)))
      | next => .ok (some ⟨positionAt size next, String.ofList (next.takeWhile (!isBlank ·))⟩,
          next.dropWhile (!isBlank ·)) := by
  have hskip : (skipBlanks.run size).run s =
      .ok ((positionAt size (trimStart s), trimStart s), trimStart s) := rfl
  unfold word?
  rw [run_bind, hskip]
  generalize trimStart s = t
  cases t with
  | nil => rfl
  | cons c r =>
    by_cases hc : c = '"'
    · subst hc
      simp only []
      cases unquote r <;> rfl
    · simp only [List.cons.injEq, hc, false_and, imp_self, implies_true]
      rfl

/-- A word with which a text begins is read. -/
theorem run_word?_of_begins (h : Begins w rest s) (size : Nat) :
    (word?.run size).run s =
      .ok (some ⟨positionAt size (trimStart s), String.ofList w⟩, rest) := by
  rw [run_word?]
  cases h with
  | bare gap blank nonempty unquoted solid ends =>
    obtain ⟨htake, hdrop⟩ := takeWhile_solid_append solid ends
    obtain ⟨c, r, rfl⟩ := List.exists_cons_of_ne_nil nonempty
    have hc : c ≠ '"' := fun hc => unquoted (congrArg some hc)
    rw [Text.trimStart_append_of_blank blank, List.cons_append,
      Text.trimStart_cons_of_solid (solid c List.mem_cons_self)]
    rw [List.cons_append] at htake hdrop
    split
    · next heq => cases heq
    · next heq => exact absurd (List.cons.inj heq).1 hc
    · rw [htake, hdrop]
  | quoted gap blank q quotation =>
    rw [Text.trimStart_append_of_blank blank, Text.trimStart_cons_of_solid (by decide)]
    simp only [unquote_append quotation]

/-- A word that is read is one with which the text begins. -/
theorem begins_of_run_word? {size : Nat} {argument : Argument}
    (h : (word?.run size).run s = .ok (some argument, rest)) :
    Begins argument.text.toList rest s := by
  have hsolid : ∀ c r, trimStart s = c :: r → isBlank c = false := fun _ _ => Text.trimStart_head
  rw [run_word?] at h
  refine .of_trimStart ?_
  generalize trimStart s = t at h hsolid
  split at h
  · cases h
  · next quoted =>
    split at h
    · next text after hunquote =>
      cases h
      obtain ⟨q, hq, rfl⟩ := unquote_eq_some_iff.1 hunquote
      exact String.toList_ofList.symm ▸ .quoted [] (List.forall_mem_nil _) q hq
    · cases h
  · next hnonempty hunquoted =>
    cases h
    obtain ⟨c, r, rfl⟩ := List.exists_cons_of_ne_nil hnonempty
    rw [String.toList_ofList]
    exact begins_of_solid (hsolid c r rfl) fun hc => hunquoted r (hc ▸ rfl)

/-! ### Readers put together -/

section Combinators

variable {x : CommandReader α} {R : α → List Char → List Char → Prop}

/-- A reader that accepts what is related accepts what is related in other words. -/
theorem Reads.congr {S : α → List Char → List Char → Prop} (h : Reads x R)
    (hiff : ∀ a s rest, R a s rest ↔ S a s rest) : Reads x S :=
  fun size s a rest => (h size s a rest).trans (hiff a s rest)

theorem reads_pure (a : α) : Reads (pure a) fun b s rest => b = a ∧ rest = s := by
  intro size s b rest
  constructor
  · intro h
    cases h
    exact ⟨rfl, rfl⟩
  · rintro ⟨rfl, rfl⟩
    rfl

theorem reads_throw (e : CommandError) :
    Reads (throw e : CommandReader α) fun _ _ _ => False :=
  fun _ _ _ _ => ⟨nofun, False.elim⟩

theorem Reads.bind {f : α → CommandReader β} {S : α → β → List Char → List Char → Prop}
    (hx : Reads x R) (hf : ∀ a, Reads (f a) (S a)) :
    Reads (x >>= f) fun b s rest => ∃ a mid, R a s mid ∧ S a b mid rest := by
  intro size s b rest
  rw [run_bind]
  constructor
  · intro h
    split at h
    · next a mid hrun => exact ⟨a, mid, (hx ..).1 hrun, (hf ..).1 h⟩
    · cases h
  · rintro ⟨a, mid, hR, hS⟩
    rw [(hx ..).2 hR]
    exact (hf ..).2 hS

theorem Reads.map (f : α → β) (hx : Reads x R) :
    Reads (f <$> x) fun b s rest => ∃ a, b = f a ∧ R a s rest := by
  rw [map_eq_pure_bind]
  refine (hx.bind fun a => reads_pure (f a)).congr fun b s rest => ?_
  constructor
  · rintro ⟨a, _, hR, rfl, rfl⟩
    exact ⟨a, rfl, hR⟩
  · rintro ⟨a, rfl, hR⟩
    exact ⟨a, rest, hR, rfl, rfl⟩

end Combinators

/-- A reader that goes on from a word, in a way that does not depend on where the word stands. -/
theorem reads_word?_bind {f : Option Argument → CommandReader β}
    {R : String → β → List Char → List Char → Prop}
    (hsome : ∀ position w, Reads (f (some ⟨position, w⟩)) (R w))
    (hnone : Reads (f none) fun _ _ _ => False) :
    Reads (word? >>= f) fun b s rest => ∃ w mid, Begins w.toList mid s ∧ R w b mid rest := by
  intro size s b rest
  rw [run_bind]
  constructor
  · intro h
    split at h
    · next argument? mid hrun =>
      cases argument? with
      | none => exact ((hnone ..).1 h).elim
      | some argument => exact ⟨argument.text, mid, begins_of_run_word? hrun, (hsome ..).1 h⟩
    · cases h
  · rintro ⟨w, mid, hbegins, hR⟩
    rw [run_word?_of_begins hbegins, String.ofList_toList]
    exact (hsome ..).2 hR

/-- The reader of a word that must not be missing. -/
theorem reads_word_bind (command expected : String) {f : Argument → CommandReader β}
    {R : String → β → List Char → List Char → Prop}
    (hf : ∀ position w, Reads (f ⟨position, w⟩) (R w)) :
    Reads (word command expected >>= f) fun b s rest =>
      ∃ w mid, Begins w.toList mid s ∧ R w b mid rest := by
  rw [word, bind_assoc]
  exact reads_word?_bind (fun position w => by rw [pure_bind]; exact hf position w)
    (reads_throw _)

/-! ### Identifiers and names of modes -/

/-- A reader that takes one word for what it stands for. -/
theorem reads_parsed {ε : Type} (command expected : String) {parse : String → Except ε α}
    {f : Argument → CommandReader α}
    (hok : ∀ position w a, parse w = .ok a → f ⟨position, w⟩ = pure a)
    (herror : ∀ position w cause, parse w = .error cause → ∃ e, f ⟨position, w⟩ = throw e) :
    Reads (word command expected >>= f) fun a s rest =>
      ∃ w : String, Begins w.toList rest s ∧ parse w = .ok a := by
  have hcont : ∀ position w, Reads (f ⟨position, w⟩) fun a s rest =>
      parse w = .ok a ∧ rest = s := by
    intro position w
    cases hparse : parse w with
    | ok a =>
      rw [hok position w a hparse]
      exact (reads_pure a).congr fun b s rest => by simp [eq_comm]
    | error cause =>
      obtain ⟨e, hthrow⟩ := herror position w cause hparse
      rw [hthrow]
      exact (reads_throw e).congr fun b s rest => by simp
  refine (reads_word_bind command expected hcont).congr fun a s rest => ?_
  constructor
  · rintro ⟨w, _, hbegins, hparse, rfl⟩
    exact ⟨w, hbegins, hparse⟩
  · rintro ⟨w, hbegins, hparse⟩
    exact ⟨w, rest, hbegins, hparse, rfl⟩

theorem reads_memberId (command : String) :
    Reads (memberId command) fun member s rest =>
      ∃ w : String, Begins w.toList rest s ∧ MemberId.parse w = .ok member :=
  reads_parsed command "a member id" (fun _ _ _ h => by simp only [h])
    fun _ _ _ h => ⟨_, by simp only [h]; rfl⟩

theorem reads_roomId (command : String) :
    Reads (roomId command) fun room s rest =>
      ∃ w : String, Begins w.toList rest s ∧ RoomId.parse w = .ok room :=
  reads_parsed command "a room id" (fun _ _ _ h => by simp only [asRoom, h])
    fun _ _ _ h => ⟨_, by simp only [asRoom, h]; rfl⟩

theorem reads_modeName (command : String) :
    Reads (modeName command) fun mode s rest =>
      ∃ w : String, Begins w.toList rest s ∧ RoomMode.parse w = .ok mode :=
  reads_parsed command "a room mode" (fun _ _ _ h => by simp only [h])
    fun _ _ _ h => ⟨_, by simp only [h]; rfl⟩

/-! ### What follows the words -/

/-- The reader of free text. -/
theorem run_freeText? (size : Nat) (s : List Char) :
    (freeText?.run size).run s =
      .ok (if trimStart s = [] then none
        else some ⟨positionAt size (trimStart s), String.ofList (trim s)⟩, []) := by
  have hskip : (skipBlanks.run size).run s =
      .ok ((positionAt size (trimStart s), trimStart s), trimStart s) := rfl
  unfold freeText? trim
  rw [run_bind, hskip]
  generalize trimStart s = t
  cases t <;> rfl

/-- A reader that ends with free text, which may be missing. -/
theorem reads_freeText?_bind (f : String → β) :
    Reads (freeText? >>= fun argument? => pure (f (argument?.elim "" Argument.text)))
      fun b s rest => b = f (String.ofList (trim s)) ∧ rest = [] := by
  intro size s b rest
  rw [run_bind, run_freeText?]
  have htext : f ((if trimStart s = [] then none
      else some (⟨positionAt size (trimStart s), String.ofList (trim s)⟩ : Argument)).elim ""
        Argument.text) = f (String.ofList (trim s)) := by
    split
    · next hblank => rw [Text.trim_eq_nil_iff.2 hblank]; rfl
    · rfl
  constructor
  · intro h
    cases h
    exact ⟨htext, rfl⟩
  · rintro ⟨rfl, rfl⟩
    rw [← htext]
    rfl

theorem reads_freeText (command expected : String) :
    Reads (freeText command expected) fun text s rest =>
      trim s = text.toList ∧ text ≠ "" ∧ rest = [] := by
  intro size s text rest
  rw [freeText, run_bind, run_freeText?]
  by_cases hblank : trimStart s = []
  · rw [if_pos hblank]
    constructor
    · exact nofun
    · rintro ⟨htext, hnonempty, -⟩
      rw [Text.trim_eq_nil_iff.2 hblank] at htext
      exact absurd (String.toList_eq_nil_iff.1 htext.symm) hnonempty
  · rw [if_neg hblank]
    constructor
    · intro h
      cases h
      refine ⟨String.toList_ofList.symm, fun hempty => hblank (Text.trim_eq_nil_iff.1 ?_), rfl⟩
      rw [← String.toList_ofList (l := trim s)]
      exact congrArg String.toList hempty
    · rintro ⟨htext, -, rfl⟩
      rw [htext, String.ofList_toList]
      rfl

/-- The reader of the end fails where a text goes on, for what is left. -/
theorem run_finish (size : Nat) (s : List Char) :
    (finish.run size).run s =
      if trimStart s = [] then .ok ((), [])
      else .error (.trailingInput (String.ofList (trim s)) (positionAt size (trimStart s))) := by
  rw [finish, run_bind, run_freeText?]
  by_cases hblank : trimStart s = []
  · rw [if_pos hblank, if_pos hblank]
    rfl
  · rw [if_neg hblank, if_neg hblank]
    rfl

/-! ### Alternatives -/

/-- Of alternatives whose words differ, a word names those that it is the word of. -/
theorem alternative?_eq_some_iff {alternatives : List (String × α)} {word : String} {a : α}
    (hwords : (alternatives.map Prod.fst).Pairwise fun k k' => Text.sameWord k k' = false) :
    alternative? alternatives word = some a ↔
      ∃ k, (k, a) ∈ alternatives ∧ Text.sameWord k word = true := by
  induction alternatives with
  | nil => simp [alternative?]
  | cons p alternatives ih =>
    obtain ⟨k, b⟩ := p
    obtain ⟨hfirst, hrest⟩ := List.pairwise_cons.1 hwords
    by_cases hk : Text.sameWord k word = true
    · have hfound : alternative? ((k, b) :: alternatives) word = some b := by
        simp [alternative?, hk]
      rw [hfound]
      constructor
      · intro h
        exact ⟨k, Option.some.inj h ▸ List.mem_cons_self, hk⟩
      · rintro ⟨k', hmem, hk'⟩
        rcases List.mem_cons.1 hmem with heq | hmem
        · rw [(Prod.mk.inj heq).2]
        · have hdiff := hfirst k' (List.mem_map_of_mem hmem)
          rw [Text.sameWord_eq_true_iff] at hk hk'
          rw [Text.sameWord_eq_true_iff.2 (hk.trans hk'.symm)] at hdiff
          cases hdiff
    · have hpassed :
          alternative? ((k, b) :: alternatives) word = alternative? alternatives word := by
        simp [alternative?, hk]
      rw [hpassed, ih hrest]
      constructor
      · rintro ⟨k', hmem, hk'⟩
        exact ⟨k', List.mem_cons_of_mem _ hmem, hk'⟩
      · rintro ⟨k', hmem, hk'⟩
        rcases List.mem_cons.1 hmem with heq | hmem
        · exact absurd ((Prod.mk.inj heq).1 ▸ hk') hk
        · exact ⟨k', hmem, hk'⟩

theorem alternative?_eq_none_iff {alternatives : List (String × α)} {word : String} :
    alternative? alternatives word = none ↔
      ∀ k ∈ alternatives.map Prod.fst, ¬Text.sameWord k word = true := by
  simp [alternative?, List.find?_eq_none]

/-- A reader that goes on as a word says, or in some other way when the word names no alternative,
for a word that is known. -/
theorem reads_alternative {alternatives : List (String × CommandReader α)} {word : String}
    {x : CommandReader β} {R : String → β → List Char → List Char → Prop}
    {Q : β → List Char → List Char → Prop}
    (hwords : (alternatives.map Prod.fst).Pairwise fun k k' => Text.sameWord k k' = false)
    (hsome : ∀ k next, (k, next) ∈ alternatives → alternative? alternatives word = some next →
      Reads x (R k))
    (hnone : alternative? alternatives word = none → Reads x Q) :
    Reads x fun b s rest =>
      (∃ k ∈ alternatives.map Prod.fst, Text.sameWord k word = true ∧ R k b s rest) ∨
        (∀ k ∈ alternatives.map Prod.fst, ¬Text.sameWord k word = true) ∧ Q b s rest := by
  cases hword : alternative? alternatives word with
  | none =>
    have hno := alternative?_eq_none_iff.1 hword
    refine (hnone hword).congr fun b s rest => ?_
    constructor
    · exact fun hQ => .inr ⟨hno, hQ⟩
    · rintro (⟨k, hk, hsame, -⟩ | ⟨-, hQ⟩)
      · exact absurd hsame (hno k hk)
      · exact hQ
  | some next =>
    obtain ⟨k, hmem, hsame⟩ := (alternative?_eq_some_iff hwords).1 hword
    refine (hsome k next hmem hword).congr fun b s rest => ?_
    constructor
    · exact fun hR => .inl ⟨k, List.mem_map_of_mem hmem, hsame, hR⟩
    · rintro (⟨k', hk', hsame', hR⟩ | ⟨hno, -⟩)
      · obtain ⟨⟨_, next'⟩, hmem', rfl⟩ := List.mem_map.1 hk'
        have hword' := (alternative?_eq_some_iff hwords).2 ⟨_, hmem', hsame'⟩
        exact (hsome k next hmem hword 0 ..).1 ((hsome _ next' hmem' hword' 0 ..).2 hR)
      · exact absurd hsame (hno k (List.mem_map_of_mem hmem))

/-- A reader that goes on as a word says, and fails when the word names no alternative. -/
theorem reads_named {alternatives : List (String × CommandReader α)} {word : String}
    {x : CommandReader β} {R : String → β → List Char → List Char → Prop}
    (hwords : (alternatives.map Prod.fst).Pairwise fun k k' => Text.sameWord k k' = false)
    (hsome : ∀ k next, (k, next) ∈ alternatives → alternative? alternatives word = some next →
      Reads x (R k))
    (hnone : alternative? alternatives word = none → Reads x fun _ _ _ => False) :
    Reads x fun b s rest =>
      ∃ k ∈ alternatives.map Prod.fst, Text.sameWord k word = true ∧ R k b s rest := by
  refine (reads_alternative hwords hsome hnone).congr fun b s rest => ?_
  rw [and_false, or_false]

/-- The reader of a choice goes on as the alternative does that a word names. -/
theorem reads_choose (command expected : String) {alternatives : List (String × CommandReader α)}
    {R : String → α → List Char → List Char → Prop}
    (hwords : (alternatives.map Prod.fst).Pairwise fun k k' => Text.sameWord k k' = false)
    (hreads : ∀ p ∈ alternatives, Reads p.2 (R p.1)) :
    Reads (choose command expected alternatives) fun a s rest =>
      ∃ (w : String) (mid : List Char), Begins w.toList mid s ∧
        ∃ k ∈ alternatives.map Prod.fst, Text.sameWord k w = true ∧ R k a mid rest := by
  refine reads_word_bind command expected fun position w => reads_named hwords ?_ ?_
  · intro k next hmem hword
    simp only [hword]
    exact hreads _ hmem
  · intro hword
    simp only [hword]
    exact reads_throw _

end CommandReader

end RoomModeration
