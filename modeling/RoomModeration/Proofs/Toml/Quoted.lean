import RoomModeration.Toml.Quoted

/-!
# Strings are read as they are written

A text is written in one of four forms, or with escapes if none of them shows it as it is. Whatever
the text, and whatever form it takes, reading gives it back and stops behind it, provided that what
follows does not start with a quote; for a form with tripled quotes ends with the last of several
quotes in a row.

In these forms up to two quotes in a row stand for themselves, also at the end. The reader sees such
a row before it knows what comes behind; so the lemmas say what is read when some quotes that have
been written are still to be read.

## Main results

* `basic?_writeBasic`, `literal?_append`, `multiBasic?_writeMultiBasic`, `multiLiteral?_append` :
  each form is read as it is written.
* `stringLiteral?_writeString` : a string is read as it is written.
* `key?_writeKey` : a key is read as it is written.
-/

namespace RoomModeration.Toml

variable {c d letter : Char} {s rest : List Char}

/-! ### Characters -/

/-- A character of a class is none of those outside of it. -/
theorem ne_of_class {isClass : Char → Bool} (hc : isClass c = true) (hd : isClass d = false) :
    c ≠ d := by
  rintro rfl
  rw [hc] at hd
  cases hd

theorem charOfCode?_toNat (c : Char) : Text.charOfCode? c.toNat = some c := by
  have hvalid : c.toNat.isValidChar := c.valid
  rw [Text.charOfCode?, dif_pos hvalid]
  rfl

/-- Four digits are enough for the characters that have to be written so. -/
theorem codePoint?_hex4 (h : isControl c = true) : codePoint? (hex4 c.toNat) = some c := by
  have hsmall : ∀ n < 0x80, codePoint? (hex4 n) = Text.charOfCode? n := by decide +kernel
  have hbound : c.toNat < 0x80 := by
    simp only [isControl, Bool.or_eq_true, Bool.and_eq_true, decide_eq_true_eq, beq_iff_eq] at h
    omega
  rw [hsmall _ hbound, charOfCode?_toNat]

/-- A character is written with a letter, with its code, or as itself. -/
theorem writeChar_cases (c : Char) :
    (∃ letter, writeChar c = ['\\', letter] ∧ escape? letter = some c) ∨
      (writeChar c = '\\' :: 'u' :: hex4 c.toNat ∧ isControl c = true) ∨
      (writeChar c = [c] ∧ isPlain c = true ∧ c ≠ '"' ∧ c ≠ '\\') := by
  unfold writeChar
  simp only [beq_iff_eq]
  split
  · next h => exact .inl ⟨'b', rfl, by rw [h]; rfl⟩
  split
  · next h => exact .inl ⟨'t', rfl, by rw [h]; rfl⟩
  split
  · next h => exact .inl ⟨'n', rfl, by rw [h]; rfl⟩
  split
  · next h => exact .inl ⟨'f', rfl, by rw [h]; rfl⟩
  split
  · next h => exact .inl ⟨'r', rfl, by rw [h]; rfl⟩
  split
  · next h => exact .inl ⟨'"', rfl, by rw [h]; rfl⟩
  split
  · next h => exact .inl ⟨'\\', rfl, by rw [h]; rfl⟩
  split
  · next h => exact .inr (.inl ⟨rfl, h⟩)
  · next hn _ _ hquote hslash hcontrol =>
    exact .inr (.inr ⟨rfl, by simp_all [isPlain], hquote, hslash⟩)

/-- Nothing is written so that it starts with a quote or with what may not stand for itself. -/
theorem exists_writeChar_eq_cons (c : Char) :
    ∃ d t, writeChar c = d :: t ∧ d ≠ '"' ∧ isPlain d = true := by
  obtain ⟨letter, h, -⟩ | ⟨h, -⟩ | ⟨h, hplain, hquote, -⟩ := writeChar_cases c
  · exact ⟨_, _, h, by decide, by decide⟩
  · exact ⟨_, _, h, by decide, by decide⟩
  · exact ⟨_, _, h, hquote, hplain⟩

theorem bind_consText (c : Char) (read : Option (List Char × List Char)) :
    (do return consText c (← read)) = consText c <$> read := by
  cases read <;> rfl

/-! ### In double quotes -/

theorem basic?_escaped (h : escape? letter = some c) (rest : List Char) :
    basic? ('\\' :: letter :: rest) = consText c <$> basic? rest := by
  rw [basic?]
  · rw [h, ← bind_consText]
    rfl
  all_goals
    intros
    subst_vars
    cases h

theorem basic?_coded (h : codePoint? (hex4 c.toNat) = some c) (rest : List Char) :
    basic? ('\\' :: 'u' :: (hex4 c.toNat ++ rest)) = consText c <$> basic? rest := by
  rw [hex4] at h ⊢
  dsimp only [List.cons_append, List.nil_append]
  rw [basic?, h, ← bind_consText]
  rfl

theorem basic?_plain (hplain : isPlain c = true) (hquote : c ≠ '"') (hslash : c ≠ '\\')
    (rest : List Char) : basic? (c :: rest) = consText c <$> basic? rest := by
  rw [basic?.eq_def]
  split <;> simp_all

theorem basic?_writeChar (c : Char) (rest : List Char) :
    basic? (writeChar c ++ rest) = consText c <$> basic? rest := by
  obtain ⟨letter, h, hletter⟩ | ⟨h, hcontrol⟩ | ⟨h, hplain, hquote, hslash⟩ := writeChar_cases c
  · rw [h]
    exact basic?_escaped hletter rest
  · rw [h]
    exact basic?_coded (codePoint?_hex4 hcontrol) rest
  · rw [h]
    exact basic?_plain hplain hquote hslash rest

theorem basic?_writeBasic (s rest : List Char) :
    basic? (writeBasic s ++ '"' :: rest) = some (s, rest) := by
  induction s with
  | nil => rfl
  | cons c s ih =>
    rw [writeBasic, List.flatMap_cons, List.append_assoc, basic?_writeChar]
    change consText c <$> basic? (writeBasic s ++ '"' :: rest) = _
    rw [ih]
    rfl

/-! ### In tripled double quotes -/

/-- Up to two quotes stand for themselves when no further one comes behind, in both forms with
tripled quotes. -/
theorem read_quotes {read : List Char → Option (List Char × List Char)} {quote : Char}
    (hone : ∀ t : List Char, (∀ u, t ≠ quote :: quote :: u) →
      read (quote :: t) = consText quote <$> read t)
    {k : Nat} (hk : k ≤ 2) (hnext : c ≠ quote) (rest : List Char) :
    read (List.replicate k quote ++ c :: rest) =
      (fun p => (List.replicate k quote ++ p.1, p.2)) <$> read (c :: rest) := by
  obtain rfl | rfl | rfl : k = 0 ∨ k = 1 ∨ k = 2 := by omega
  · simp
  · change read (quote :: c :: rest) = _
    rw [hone _ (by simp [hnext])]
    rfl
  · change read (quote :: quote :: c :: rest) = _
    rw [hone _ (by simp [hnext]), hone _ (by simp [hnext])]
    cases read (c :: rest) <;> rfl

theorem multiBasic?_escaped (h : escape? letter = some c) (rest : List Char) :
    multiBasic? .text ('\\' :: letter :: rest) = consText c <$> multiBasic? .text rest := by
  rw [multiBasic?]
  · rw [h, ← bind_consText]
    rfl
  all_goals
    intros
    simp_all [escape?]

theorem multiBasic?_coded (h : codePoint? (hex4 c.toNat) = some c) (rest : List Char) :
    multiBasic? .text ('\\' :: 'u' :: (hex4 c.toNat ++ rest)) =
      consText c <$> multiBasic? .text rest := by
  rw [hex4] at h ⊢
  dsimp only [List.cons_append, List.nil_append]
  rw [multiBasic?, h, ← bind_consText]
  · rfl
  · nofun

theorem multiBasic?_plain (hcontrol : isControl c = false) (hquote : c ≠ '"') (hslash : c ≠ '\\')
    (rest : List Char) : multiBasic? .text (c :: rest) = consText c <$> multiBasic? .text rest := by
  have hreturn : c ≠ '\r' := by
    rintro rfl
    cases hcontrol
  rw [multiBasic?.eq_def]
  split <;> simp_all

/-- What a character other than a quote is written as, when line feeds stand for themselves. -/
theorem multiBasic?_writeChar (hquote : c ≠ '"') (rest : List Char) :
    multiBasic? .text ((if c == '\n' then ['\n'] else writeChar c) ++ rest) =
      consText c <$> multiBasic? .text rest := by
  by_cases hfeed : c = '\n'
  · subst hfeed
    exact multiBasic?_plain rfl (by decide) (by decide) rest
  rw [if_neg (by simpa using hfeed)]
  obtain ⟨letter, h, hletter⟩ | ⟨h, hcontrol⟩ | ⟨h, hplain, -, hslash⟩ := writeChar_cases c
  · rw [h]
    exact multiBasic?_escaped hletter rest
  · rw [h]
    exact multiBasic?_coded (codePoint?_hex4 hcontrol) rest
  · rw [h]
    exact multiBasic?_plain (by simp_all [isPlain]) hquote hslash rest

theorem multiBasic?_quotes {k : Nat} (hk : k ≤ 2) (hnext : c ≠ '"') (rest : List Char) :
    multiBasic? .text (List.replicate k '"' ++ c :: rest) =
      (fun p => (List.replicate k '"' ++ p.1, p.2)) <$> multiBasic? .text (c :: rest) := by
  refine read_quotes (fun t ht => ?_) hk hnext rest
  rw [multiBasic?]
  · rfl
  all_goals simp_all

/-- The closing quotes are the last three of those in a row. -/
theorem multiBasic?_closing {k : Nat} (hk : k ≤ 2) (hrest : rest.head? ≠ some '"') :
    multiBasic? .text (List.replicate k '"' ++ '"' :: '"' :: '"' :: rest) =
      some (List.replicate k '"', rest) := by
  cases rest with
  | nil =>
    obtain rfl | rfl | rfl : k = 0 ∨ k = 1 ∨ k = 2 := by omega
    all_goals rfl
  | cons d rest =>
    have hd : d ≠ '"' := by simpa using hrest
    obtain rfl | rfl | rfl : k = 0 ∨ k = 1 ∨ k = 2 := by omega
    all_goals simp [multiBasic?, hd, List.replicate]

theorem writeMultiBasic_cons_of_ne (hquote : c ≠ '"') (k : Nat) (s : List Char) :
    writeMultiBasic k (c :: s) =
      (if c == '\n' then ['\n'] else writeChar c) ++ writeMultiBasic 0 s := by
  rw [writeMultiBasic]
  exact hquote

/-- What is written behind some quotes is read together with those quotes. -/
theorem multiBasic?_writeMultiBasic {k : Nat} (hk : k ≤ 2) (s : List Char)
    (hrest : rest.head? ≠ some '"') :
    multiBasic? .text
        (List.replicate k '"' ++ (writeMultiBasic k s ++ '"' :: '"' :: '"' :: rest)) =
      some (List.replicate k '"' ++ s, rest) := by
  induction s generalizing k with
  | nil =>
    rw [writeMultiBasic, List.nil_append, multiBasic?_closing hk hrest, List.append_nil]
  | cons c s ih =>
    by_cases hquote : c = '"'
    · subst hquote
      by_cases hrun : k < 2
      · -- The quote stands for itself and is still to be read.
        have hmore : List.replicate k '"' ++ '"' :: (writeMultiBasic (k + 1) s ++
            '"' :: '"' :: '"' :: rest) = List.replicate (k + 1) '"' ++
              (writeMultiBasic (k + 1) s ++ '"' :: '"' :: '"' :: rest) := by
          rw [List.replicate_succ', List.append_assoc]
          rfl
        rw [writeMultiBasic, if_pos hrun, List.cons_append, hmore, ih (by omega),
          List.replicate_succ', List.append_assoc]
        rfl
      · obtain rfl : k = 2 := by omega
        have hs := ih (k := 0) (by omega)
        rw [List.replicate_zero, List.nil_append, List.nil_append] at hs
        rw [writeMultiBasic, if_neg hrun, List.cons_append, List.cons_append,
          multiBasic?_quotes hk (by decide), multiBasic?_escaped (c := '"') rfl, hs]
        rfl
    · have hs := ih (k := 0) (by omega)
      rw [List.replicate_zero, List.nil_append, List.nil_append] at hs
      have hread := multiBasic?_writeChar hquote
        (writeMultiBasic 0 s ++ '"' :: '"' :: '"' :: rest)
      rw [hs] at hread
      rw [writeMultiBasic_cons_of_ne hquote, List.append_assoc]
      obtain ⟨d, t, hwritten, hd⟩ : ∃ d t,
          (if c == '\n' then ['\n'] else writeChar c) = d :: t ∧ d ≠ '"' := by
        split
        · exact ⟨_, _, rfl, by decide⟩
        · obtain ⟨d, t, h, hd, -⟩ := exists_writeChar_eq_cons c
          exact ⟨d, t, h, hd⟩
      rw [hwritten, List.cons_append] at hread ⊢
      rw [multiBasic?_quotes hk hd, hread]
      rfl

/-! ### In single quotes -/

theorem literal?_append (hs : ∀ c ∈ s, isPlain c = true ∧ c ≠ '\'') (rest : List Char) :
    literal? (s ++ '\'' :: rest) = some (s, rest) := by
  induction s with
  | nil => rfl
  | cons c s ih =>
    obtain ⟨⟨hplain, hquote⟩, hs⟩ := List.forall_mem_cons.1 hs
    rw [List.cons_append, literal?, if_pos hplain, ih hs]
    · rfl
    · exact hquote

/-! ### In tripled single quotes -/

/-- The runs of single quotes in a text are of at most two quotes, and so is the first one when
some more quotes stand in front of it. -/
def RunsShort : Nat → List Char → Prop
  | k, [] => k ≤ 2
  | k, c :: s => k ≤ 2 ∧ if c = '\'' then RunsShort (k + 1) s else RunsShort 0 s

theorem runsShort_of_foldl {best current : Nat} (hle : current ≤ best)
    (h : (s.foldl (fun (best, current) x =>
      if x == '\'' then (max best (current + 1), current + 1) else (best, 0))
      (best, current)).1 ≤ 2) : best ≤ 2 ∧ RunsShort current s := by
  induction s generalizing best current with
  | nil => exact ⟨h, Nat.le_trans hle h⟩
  | cons c s ih =>
    rw [List.foldl_cons] at h
    by_cases hc : c = '\''
    · subst hc
      simp only [beq_self_eq_true, if_true] at h
      obtain ⟨hbest, hruns⟩ := ih (Nat.le_max_right _ _) h
      have hold : best ≤ 2 := Nat.le_trans (Nat.le_max_left _ _) hbest
      refine ⟨hold, Nat.le_trans hle hold, ?_⟩
      rwa [if_pos rfl]
    · dsimp only at h
      rw [if_neg (by simpa using hc)] at h
      obtain ⟨hbest, hruns⟩ := ih (Nat.zero_le _) h
      refine ⟨hbest, Nat.le_trans hle hbest, ?_⟩
      rwa [if_neg hc]

/-- The length of the longest run tells whether all runs are short. -/
theorem runsShort_of_longestRun (h : longestRun '\'' s ≤ 2) : RunsShort 0 s :=
  (runsShort_of_foldl (Nat.le_refl 0) h).2

theorem multiLiteral?_plain (hcontrol : isControl c = false) (hquote : c ≠ '\'')
    (rest : List Char) : multiLiteral? (c :: rest) = consText c <$> multiLiteral? rest := by
  have hreturn : c ≠ '\r' := by
    rintro rfl
    cases hcontrol
  rw [multiLiteral?.eq_def]
  split <;> simp_all

theorem multiLiteral?_quotes {k : Nat} (hk : k ≤ 2) (hnext : c ≠ '\'') (rest : List Char) :
    multiLiteral? (List.replicate k '\'' ++ c :: rest) =
      (fun p => (List.replicate k '\'' ++ p.1, p.2)) <$> multiLiteral? (c :: rest) := by
  refine read_quotes (fun t ht => ?_) hk hnext rest
  rw [multiLiteral?]
  · rfl
  all_goals simp_all

/-- The closing quotes are the last three of those in a row. -/
theorem multiLiteral?_closing {k : Nat} (hk : k ≤ 2) (hrest : rest.head? ≠ some '\'') :
    multiLiteral? (List.replicate k '\'' ++ '\'' :: '\'' :: '\'' :: rest) =
      some (List.replicate k '\'', rest) := by
  cases rest with
  | nil =>
    obtain rfl | rfl | rfl : k = 0 ∨ k = 1 ∨ k = 2 := by omega
    all_goals rfl
  | cons d rest =>
    have hd : d ≠ '\'' := by simpa using hrest
    obtain rfl | rfl | rfl : k = 0 ∨ k = 1 ∨ k = 2 := by omega
    all_goals simp [multiLiteral?, hd, List.replicate]

/-- What stands behind some quotes is read together with those quotes. -/
theorem multiLiteral?_append {k : Nat} (hcontrol : ∀ c ∈ s, isControl c = false)
    (hruns : RunsShort k s) (hrest : rest.head? ≠ some '\'') :
    multiLiteral? (List.replicate k '\'' ++ (s ++ '\'' :: '\'' :: '\'' :: rest)) =
      some (List.replicate k '\'' ++ s, rest) := by
  induction s generalizing k with
  | nil => rw [List.nil_append, multiLiteral?_closing hruns hrest, List.append_nil]
  | cons c s ih =>
    obtain ⟨hc, hs⟩ := List.forall_mem_cons.1 hcontrol
    obtain ⟨hk, hruns⟩ := hruns
    by_cases hquote : c = '\''
    · subst hquote
      rw [if_pos rfl] at hruns
      have hmore : ∀ t : List Char,
          List.replicate k '\'' ++ '\'' :: t = List.replicate (k + 1) '\'' ++ t := by
        intro t
        rw [List.replicate_succ', List.append_assoc]
        rfl
      rw [List.cons_append, hmore, ih hs hruns, hmore]
    · rw [if_neg hquote] at hruns
      have hread := ih hs hruns
      rw [List.replicate_zero, List.nil_append, List.nil_append] at hread
      rw [List.cons_append, multiLiteral?_quotes hk hquote, multiLiteral?_plain hc hquote, hread]
      rfl

/-! ### Strings -/

/-- What is known of a text that is written in some form. -/
theorem StringForm.of_cases (s : List Char) :
    of s = basic ∨ (of s = literal ∧ s ≠ [] ∧ ∀ c ∈ s, isPlain c = true ∧ c ≠ '\'') ∨
      of s = multiBasic ∨
      (of s = multiLiteral ∧ (∀ c ∈ s, isControl c = false) ∧ longestRun '\'' s ≤ 2) := by
  unfold of
  dsimp only
  split
  · exact .inl rfl
  split
  · next hbasic hliteral =>
    refine .inr (.inl ⟨rfl, ?_, ?_⟩)
    · rintro rfl
      exact hbasic rfl
    · simp only [Bool.and_eq_true, Bool.not_eq_true', List.any_eq_false] at hliteral
      obtain ⟨⟨hquote, hfeed⟩, hcontrol⟩ := hliteral
      intro c hc
      have hc' : isControl c = false := by simpa using hcontrol c hc
      constructor
      · simp only [isPlain, hc', Bool.not_false, Bool.true_and, bne_iff_ne]
        rintro rfl
        simp [hc] at hfeed
      · rintro rfl
        simp [hc] at hquote
  split
  · exact .inr (.inr (.inl rfl))
  split
  · next hliteral =>
    simp only [Bool.and_eq_true, Bool.not_eq_true', List.any_eq_false, decide_eq_true_eq]
      at hliteral
    exact .inr (.inr (.inr ⟨rfl, fun c hc => by simpa using hliteral.1 c hc, hliteral.2⟩))
  split
  · exact .inr (.inr (.inl rfl))
  · exact .inl rfl

theorem stringLiteral?_double {t : List Char} (ht : ∀ u, t ≠ '"' :: '"' :: u) :
    stringLiteral? ('"' :: t) = basic? t := by
  rw [stringLiteral?]
  exact fun u h => ht u h

theorem stringLiteral?_single {t : List Char} (ht : ∀ u, t ≠ '\'' :: '\'' :: u) :
    stringLiteral? ('\'' :: t) = literal? t := by
  rw [stringLiteral?]
  exact fun u h => ht u h

/-- A text of several lines is set off, and no other text starts with the end of a line. -/
theorem dropLineBreak_leadingBreak {t : List Char}
    (ht : '\n' ∉ s → ∃ c t', t = c :: t' ∧ isPlain c = true) :
    dropLineBreak (leadingBreak s ++ t) = t := by
  unfold leadingBreak
  by_cases hs : '\n' ∈ s
  · rw [if_pos (by simpa using hs)]
    rfl
  · rw [if_neg (by simpa using hs)]
    obtain ⟨c, t', rfl, hplain⟩ := ht hs
    rw [List.nil_append, dropLineBreak.eq_def]
    split <;> simp_all [isPlain, isControl]

/-- A string is read as it is written, unless a quote follows it. -/
theorem stringLiteral?_writeString (s : List Char) (hdouble : rest.head? ≠ some '"')
    (hsingle : rest.head? ≠ some '\'') :
    stringLiteral? (writeString s ++ rest) = some (s, rest) := by
  obtain hform | ⟨hform, hne, hplain⟩ | hform | ⟨hform, hcontrol, hruns⟩ := StringForm.of_cases s
  · have hwritten : writeString s ++ rest = '"' :: (writeBasic s ++ '"' :: rest) := by
      simp [writeString, hform]
    rw [hwritten, stringLiteral?_double, basic?_writeBasic]
    intro u
    cases s with
    | nil =>
      rintro ⟨⟩
      exact hdouble rfl
    | cons c s =>
      obtain ⟨d, t, hd, hquote, -⟩ := exists_writeChar_eq_cons c
      rw [writeBasic, List.flatMap_cons, hd]
      exact fun h => hquote (List.cons.inj h).1
  · have hwritten : writeString s ++ rest = '\'' :: (s ++ '\'' :: rest) := by
      simp [writeString, hform]
    rw [hwritten, stringLiteral?_single, literal?_append hplain]
    intro u
    cases s with
    | nil => exact absurd rfl hne
    | cons c s => exact fun h => (hplain c List.mem_cons_self).2 (List.cons.inj h).1
  · have hwritten : writeString s ++ rest = '"' :: '"' :: '"' ::
        (leadingBreak s ++ (writeMultiBasic 0 s ++ '"' :: '"' :: '"' :: rest)) := by
      simp [writeString, hform]
    rw [hwritten, stringLiteral?, dropLineBreak_leadingBreak]
    · exact multiBasic?_writeMultiBasic (Nat.zero_le 2) s hdouble
    · intro hfeed
      cases s with
      | nil => exact ⟨'"', _, rfl, by decide⟩
      | cons c s =>
        by_cases hquote : c = '"'
        · subst hquote
          exact ⟨'"', _, rfl, by decide⟩
        · obtain ⟨d, t, hd, -, hplain⟩ := exists_writeChar_eq_cons c
          have hc : ¬(c == '\n') = true := by
            rintro h
            obtain rfl := beq_iff_eq.1 h
            exact hfeed List.mem_cons_self
          rw [writeMultiBasic_cons_of_ne hquote, if_neg hc, hd]
          exact ⟨d, _, rfl, hplain⟩
  · have hwritten : writeString s ++ rest = '\'' :: '\'' :: '\'' ::
        (leadingBreak s ++ (s ++ '\'' :: '\'' :: '\'' :: rest)) := by
      simp [writeString, hform]
    rw [hwritten, stringLiteral?, dropLineBreak_leadingBreak]
    · exact multiLiteral?_append hcontrol (runsShort_of_longestRun hruns) hsingle
    · intro hfeed
      cases s with
      | nil => exact ⟨'\'', _, rfl, by decide⟩
      | cons c s =>
        refine ⟨c, _, rfl, ?_⟩
        have hc : c ≠ '\n' := by
          rintro rfl
          exact hfeed List.mem_cons_self
        simp [isPlain, hcontrol c List.mem_cons_self, hc]

/-! ### Keys -/

/-- A key is read as it is written, unless more of it seems to follow. -/
theorem key?_writeKey (s : List Char) (hrest : ∀ c ∈ rest.head?, isBareKey c = false) :
    key? (writeKey s ++ rest) = some (s, rest) := by
  have hbasic : key? (('"' :: writeBasic s ++ ['"']) ++ rest) = some (s, rest) := by
    rw [List.cons_append, List.cons_append, List.append_assoc, key?]
    exact basic?_writeBasic s rest
  unfold writeKey
  dsimp only
  split
  · next hbare =>
    simp only [Bool.and_eq_true, Bool.not_eq_true', List.isEmpty_eq_false_iff] at hbare
    obtain ⟨hne, hall⟩ := hbare
    rw [List.all_eq_true] at hall
    have hback : rest.takeWhile isBareKey = [] ∧ rest.dropWhile isBareKey = rest := by
      cases rest with
      | nil => exact ⟨rfl, rfl⟩
      | cons d rest =>
        have hd : ¬isBareKey d = true := by simpa using hrest d rfl
        exact ⟨List.takeWhile_cons_of_neg hd, List.dropWhile_cons_of_neg hd⟩
    rw [key?]
    · rw [List.takeWhile_append_of_pos hall, List.dropWhile_append_of_pos hall, hback.1, hback.2,
        List.append_nil, if_neg (by simpa using hne)]
    all_goals
      rintro t h
      cases s with
      | nil => exact hne rfl
      | cons c s =>
        exact ne_of_class (hall c List.mem_cons_self) (by decide) (List.cons.inj h).1
  split
  · exact hbasic
  split
  · next hliteral =>
    rw [List.cons_append, List.cons_append, List.append_assoc, key?]
    refine literal?_append (fun c hc => ?_) rest
    simp only [Bool.and_eq_true, Bool.not_eq_true', List.any_eq_false] at hliteral
    obtain ⟨hquote, hcontrol⟩ := hliteral
    refine ⟨by simpa [isPlain] using hcontrol c hc, ?_⟩
    rintro rfl
    simp [hc] at hquote
  · exact hbasic

end RoomModeration.Toml
