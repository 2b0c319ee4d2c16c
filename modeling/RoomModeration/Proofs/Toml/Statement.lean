import RoomModeration.Proofs.Toml.Quoted
import RoomModeration.Proofs.Toml.Scalar
import RoomModeration.Toml.Section
import RoomModeration.Toml.Statement

/-!
# Statements are read as they are written

A section is written as its header and its entries, each on a line. Reading takes one line after
the other and gives the statements of the section back. What a line holds decides where it ends, so
each lemma says what is read at the beginning of a longer text, and that the rest of it is left.

## Main definitions

* `Written.toToml` : the value that is read for what is written.
* `Section.statements` : the statements that are read for a section.
* `Section.Readable` : a section within the limits of the reader.

## Main results

* `value?_toText` : a value is read as it is written.
* `keyPath?_writePath` : a path is read as it is written.
* `readAll?_sections` : the sections of a document are read as they are written.
-/

namespace RoomModeration.Toml

variable {c : Char} {s rest : List Char} {limit : Nat}

/-- The value that is read for what is written. -/
def Written.toToml : Written → Toml
  | text s => .string s
  | natural n => .integer n
  | boolean b => .boolean b
  | texts values => .array (values.map .string)

/-- What is written can be read, since a number fits 64 bits. -/
def Written.Readable : Written → Prop
  | natural n => n < naturalBound
  | _ => True

/-- The statements of a section: its header, unless it is the document itself, and its entries. -/
def Section.statements (s : Section) : List Statement :=
  (if s.path.isEmpty then [] else [.table s.path]) ++
    s.entries.map fun entry => .entry [entry.1] entry.2.toToml

/-- A section is within the limits of the reader. -/
structure Section.Readable (s : Section) : Prop where
  /-- The path is not too long. -/
  path : s.path.length ≤ maxDepth
  /-- The numbers fit 64 bits. -/
  entries : ∀ entry ∈ s.entries, entry.2.Readable

/-! ### The first characters of what is written -/

/-- The characters that a word may start with, so that nothing is skipped in front of it. -/
def startsWord (c : Char) : Bool :=
  !isSpace c && c != '\n' && c != '\r' && c != '#'

theorem skipSpaces_cons (h : startsWord c = true) : skipSpaces (c :: s) = c :: s := by
  rw [skipSpaces, List.dropWhile_cons_of_neg]
  simp_all [startsWord]

theorem skipComment_cons (h : startsWord c = true) : skipComment (c :: s) = c :: s := by
  rw [skipComment, skipSpaces_cons h]
  split
  · next hcomment =>
    rw [(List.cons.inj hcomment).1] at h
    cases h
  · rfl

theorem lineEnd?_cons (h : startsWord c = true) : lineEnd? (c :: s) = none := by
  rw [lineEnd?.eq_def]
  split <;> simp_all [startsWord]

theorem skipLines_cons (h : startsWord c = true) : skipLines false (c :: s) = c :: s := by
  rw [skipLines.eq_def]
  split <;> simp_all [startsWord]

theorem exists_writeString_eq_cons (s : List Char) :
    ∃ quote t, writeString s = quote :: t ∧ (quote = '"' ∨ quote = '\'') := by
  unfold writeString
  split
  · exact ⟨_, _, rfl, .inl rfl⟩
  · exact ⟨_, _, rfl, .inr rfl⟩
  · exact ⟨_, _, rfl, .inl rfl⟩
  · exact ⟨_, _, rfl, .inr rfl⟩

/-- A key starts with a quote or with a character that needs none. -/
theorem exists_writeKey_eq_cons (s : List Char) :
    ∃ c t, writeKey s = c :: t ∧ (c = '"' ∨ c = '\'' ∨ isBareKey c = true) := by
  unfold writeKey
  dsimp only
  split
  · next hbare =>
    simp only [Bool.and_eq_true, Bool.not_eq_true', List.isEmpty_eq_false_iff] at hbare
    obtain ⟨hne, hall⟩ := hbare
    obtain ⟨c, t, rfl⟩ := List.exists_cons_of_ne_nil hne
    exact ⟨c, t, rfl, .inr (.inr (List.all_eq_true.1 hall c List.mem_cons_self))⟩
  split
  · exact ⟨_, _, rfl, .inl rfl⟩
  split
  · exact ⟨_, _, rfl, .inr (.inl rfl)⟩
  · exact ⟨_, _, rfl, .inl rfl⟩

theorem startsWord_of_key (h : c = '"' ∨ c = '\'' ∨ isBareKey c = true) :
    startsWord c = true ∧ c ≠ '[' ∧ c ≠ '\ufeff' := by
  obtain rfl | rfl | h := h
  · decide
  · decide
  · refine ⟨?_, ne_of_class h (by decide), ne_of_class h (by decide)⟩
    simp only [startsWord, isSpace, Bool.not_or, Bool.and_eq_true, bne_iff_ne, Bool.not_eq_true',
      beq_eq_false_iff_ne]
    exact ⟨⟨⟨⟨ne_of_class h (by decide), ne_of_class h (by decide)⟩, ne_of_class h (by decide)⟩,
      ne_of_class h (by decide)⟩, ne_of_class h (by decide)⟩

/-! ### Values -/

/-- A string is read as it is written, unless a quote follows it. -/
theorem value?_writeString (s : String) (hdouble : rest.head? ≠ some '"')
    (hsingle : rest.head? ≠ some '\'') :
    value? limit (writeString s.toList ++ rest) = some (.string s, rest) := by
  have hread := stringLiteral?_writeString s.toList hdouble hsingle
  obtain ⟨quote, t, hwritten, rfl | rfl⟩ := exists_writeString_eq_cons s.toList
  all_goals
    rw [hwritten, List.cons_append] at hread ⊢
    rw [value?, hread]
    simp

/-- The line of one text in a row of texts. -/
def writeItem (s : String) : List Char :=
  [' ', ' ', ' ', ' '] ++ writeString s.toList ++ [',', '\n']

/-- The lines of a row of texts are read to the closing bracket. -/
theorem rowItems?_writeItems (values : List String) (rest : List Char) :
    rowItems? (value? limit) ('\n' :: (values.flatMap writeItem ++ ']' :: rest)) =
      some (values.map .string, rest) := by
  -- Each line is read from the break in front of it, so the break behind it is for the next one.
  induction values with
  | nil => rw [rowItems?]; rfl
  | cons s values ih =>
    obtain ⟨quote, t, hwritten, hquote⟩ := exists_writeString_eq_cons s.toList
    have hword : startsWord quote = true ∧ quote ≠ ']' := by
      obtain rfl | rfl := hquote <;> decide
    have hskip : skipLines false ('\n' :: ((s :: values).flatMap writeItem ++ ']' :: rest)) =
        writeString s.toList ++ ',' :: '\n' :: (values.flatMap writeItem ++ ']' :: rest) := by
      rw [List.flatMap_cons, writeItem, hwritten]
      simp only [List.append_assoc, List.cons_append, List.nil_append]
      exact skipLines_cons hword.1
    have hread : value? limit (writeString s.toList ++
        ',' :: '\n' :: (values.flatMap writeItem ++ ']' :: rest)) = _ :=
      value?_writeString s (by simp) (by simp)
    rw [rowItems?, hskip]
    rw [hwritten, List.cons_append] at hread ⊢
    split
    · next _ h => exact absurd (List.cons.inj h).1 hword.2
    · rw [hread]
      change (if _ then _ else none) = _
      rw [if_pos, ih]
      · rfl
      · simp only [List.flatMap_cons, writeItem, List.length_cons, List.length_append]
        omega

/-- A row of one text is read to the closing bracket. -/
theorem rowItems?_writeString (s : String) (rest : List Char) :
    rowItems? (value? limit) (writeString s.toList ++ ']' :: rest) = some ([.string s], rest) := by
  have hread : value? limit (writeString s.toList ++ ']' :: rest) = _ :=
    value?_writeString s (by simp) (by simp)
  obtain ⟨quote, t, hwritten, hquote⟩ := exists_writeString_eq_cons s.toList
  have hword : startsWord quote = true ∧ quote ≠ ']' := by
    obtain rfl | rfl := hquote <;> decide
  rw [hwritten, List.cons_append] at hread ⊢
  rw [rowItems?, skipLines_cons hword.1]
  split
  · next h => exact absurd (List.cons.inj h).1 hword.2
  · rw [hread]
    rfl

theorem value?_scalar (hc : isScalar c = true) : value? limit (c :: s) = scalar? (c :: s) := by
  rw [value?]
  · exact fun t h => ne_of_class hc (by decide) (List.cons.inj h).1
  · exact fun t h => ne_of_class hc (by decide) (List.cons.inj h).1
  · exact fun _ t _ h => ne_of_class hc (by decide) (List.cons.inj h).1
  · exact fun _ t _ h => ne_of_class hc (by decide) (List.cons.inj h).1

/-- A value is read as it is written, up to the end of its line. -/
theorem value?_toText (v : Written) (hv : v.Readable) (rest : List Char) :
    value? (limit + 1) (v.toText ++ '\n' :: rest) = some (v.toToml, '\n' :: rest) := by
  cases v with
  | text s => exact value?_writeString s (by simp) (by simp)
  | natural n =>
    obtain ⟨c, t, hwritten⟩ : ∃ c t, Nat.toDigits 10 n = c :: t :=
      List.exists_cons_of_ne_nil Nat.toDigits_ne_nil
    have hc : c.isDigit = true := isDigit_toDigits n c (by rw [hwritten]; exact List.mem_cons_self)
    have hread := scalar?_toDigits hv rest
    rw [hwritten, List.cons_append] at hread
    rw [Written.toText, hwritten, List.cons_append,
      value?_scalar (by simp [isScalar, Char.isAlphanum, hc]), hread]
    rfl
  | boolean b =>
    cases b with
    | true => exact (value?_scalar (by decide)).trans (scalar?_word rest).1
    | false => exact (value?_scalar (by decide)).trans (scalar?_word rest).2
  | texts values =>
    cases values with
    | nil =>
      change value? (limit + 1) ('[' :: ']' :: '\n' :: rest) = _
      rw [value?, rowItems?]
      rfl
    | cons s values =>
      cases values with
      | nil =>
        change value? (limit + 1) ('[' :: (writeString s.toList ++ [']'] ++ '\n' :: rest)) = _
        rw [value?, List.append_assoc]
        change (rowItems? (value? limit) (writeString s.toList ++ ']' :: '\n' :: rest)).bind _ = _
        rw [rowItems?_writeString]
        rfl
      | cons s' values =>
        change value? (limit + 1)
          ('[' :: '\n' :: ((s :: s' :: values).flatMap writeItem ++ [']'] ++ '\n' :: rest)) = _
        rw [value?, List.append_assoc]
        change (rowItems? (value? limit)
          ('\n' :: ((s :: s' :: values).flatMap writeItem ++ ']' :: '\n' :: rest))).bind _ = _
        rw [rowItems?_writeItems]
        rfl

/-! ### Keys -/

/-- A path is read as it is written, unless more of it seems to follow. -/
theorem keyPath?_writePath {path : List String} (hne : path ≠ []) (hlength : path.length ≤ limit)
    (hbare : ∀ c ∈ rest.head?, isBareKey c = false) (hpoint : (skipSpaces rest).head? ≠ some '.') :
    keyPath? limit (writePath path ++ rest) = some (path, skipSpaces rest) := by
  induction path generalizing limit with
  | nil => exact absurd rfl hne
  | cons key path ih =>
    obtain ⟨limit, rfl⟩ : ∃ n, limit = n + 1 := ⟨limit - 1, by simp at hlength; omega⟩
    obtain ⟨c, t, hwritten, hc⟩ := exists_writeKey_eq_cons key.toList
    have hskip : ∀ u, skipSpaces (writeKey key.toList ++ u) = writeKey key.toList ++ u := by
      intro u
      rw [hwritten]
      exact skipSpaces_cons (startsWord_of_key hc).1
    cases path with
    | nil =>
      rw [writePath, keyPath?, hskip, key?_writeKey key.toList hbare]
      dsimp only [bind, Option.bind]
      split
      · next h =>
        rw [h] at hpoint
        exact absurd rfl hpoint
      · simp
    | cons key' path =>
      have hread : keyPath? limit (writePath (key' :: path) ++ rest) = _ :=
        ih (List.cons_ne_nil _ _) (by simpa using hlength)
      rw [writePath, List.append_assoc, keyPath?, hskip, key?_writeKey key.toList]
      · change (keyPath? limit (writePath (key' :: path) ++ rest)).bind _ = _
        rw [hread]
        simp
      · rintro d ⟨⟩
        decide
      · exact List.cons_ne_nil _ _

/-! ### Statements -/

/-- Nothing is skipped in front of a value. -/
theorem skipSpaces_toText (v : Written) (rest : List Char) :
    skipSpaces (v.toText ++ rest) = v.toText ++ rest := by
  obtain ⟨c, t, hwritten, hc⟩ : ∃ c t, v.toText = c :: t ∧ isSpace c = false := by
    cases v with
    | text s =>
      obtain ⟨quote, t, hwritten, rfl | rfl⟩ := exists_writeString_eq_cons s.toList
      all_goals exact ⟨_, t, hwritten, by decide⟩
    | natural n =>
      obtain ⟨c, t, hwritten⟩ : ∃ c t, Nat.toDigits 10 n = c :: t :=
        List.exists_cons_of_ne_nil Nat.toDigits_ne_nil
      refine ⟨c, t, hwritten, ?_⟩
      have hc := isDigit_toDigits n c (by rw [hwritten]; exact List.mem_cons_self)
      rw [isSpace, Bool.or_eq_false_iff, beq_eq_false_iff_ne, beq_eq_false_iff_ne]
      exact ⟨ne_of_class hc (by decide), ne_of_class hc (by decide)⟩
    | boolean b => cases b <;> exact ⟨_, _, rfl, by decide⟩
    | texts values =>
      obtain - | ⟨s, - | ⟨s', values⟩⟩ := values
      all_goals exact ⟨_, _, rfl, by decide⟩
  rw [hwritten, List.cons_append, skipSpaces, List.dropWhile_cons_of_neg (by simp [hc])]

/-- An entry is read as it is written, up to the end of its line. -/
theorem entry?_writeEntry (entry : String × Written) (hv : entry.2.Readable) (rest : List Char) :
    entry? (value? maxDepth) (writeEntry entry ++ rest) =
      some (([entry.1], entry.2.toToml), '\n' :: rest) := by
  have hkey : keyPath? maxDepth (writeKey entry.1.toList ++
      ' ' :: '=' :: ' ' :: (entry.2.toText ++ '\n' :: rest)) =
        some ([entry.1], '=' :: ' ' :: (entry.2.toText ++ '\n' :: rest)) := by
    refine keyPath?_writePath (List.cons_ne_nil entry.1 []) ?_ ?_ ?_
    · simp [maxDepth]
    · rintro d ⟨⟩
      decide
    · simp [skipSpaces, isSpace]
  unfold entry? writeEntry
  simp only [List.append_assoc, List.cons_append, List.nil_append]
  rw [hkey]
  change (value? maxDepth (skipSpaces (entry.2.toText ++ '\n' :: rest))).bind _ = _
  rw [skipSpaces_toText, maxDepth, value?_toText entry.2 hv]
  rfl

theorem read?_writeEntry (entry : String × Written) (hv : entry.2.Readable) (rest : List Char) :
    Statement.read? (writeEntry entry ++ rest) =
      some (.entry [entry.1] entry.2.toToml, '\n' :: rest) := by
  have hread := entry?_writeEntry entry hv rest
  obtain ⟨c, t, hwritten, hc⟩ := exists_writeKey_eq_cons entry.1.toList
  have hbracket := (startsWord_of_key hc).2.1
  have hentry : writeEntry entry = c :: (t ++ [' ', '=', ' '] ++ entry.2.toText ++ ['\n']) := by
    rw [writeEntry, hwritten]
    rfl
  rw [hentry, List.cons_append] at hread ⊢
  rw [Statement.read?, hread]
  · rfl
  · exact fun t h => hbracket (List.cons.inj h).1
  · exact fun t h => hbracket (List.cons.inj h).1

theorem read?_header {path : List String} (hne : path ≠ []) (hlength : path.length ≤ maxDepth)
    (rest : List Char) :
    Statement.read? ('[' :: (writePath path ++ ']' :: '\n' :: rest)) =
      some (.table path, '\n' :: rest) := by
  have hread : keyPath? maxDepth (writePath path ++ ']' :: '\n' :: rest) =
      some (path, ']' :: '\n' :: rest) := by
    refine keyPath?_writePath hne hlength ?_ ?_
    · rintro d ⟨⟩
      decide
    · simp [skipSpaces, isSpace]
  obtain ⟨c, t, hwritten, hc⟩ : ∃ c t, writePath path = c :: t ∧ c ≠ '[' := by
    obtain ⟨key, path, rfl⟩ := List.exists_cons_of_ne_nil hne
    obtain ⟨c, t, hwritten, hc⟩ := exists_writeKey_eq_cons key.toList
    cases path
    all_goals
      simp only [writePath, hwritten, List.cons_append]
      exact ⟨c, _, rfl, (startsWord_of_key hc).2.1⟩
  rw [hwritten, List.cons_append] at hread ⊢
  rw [Statement.read?, hread]
  · rfl
  · exact fun t h => hc (List.cons.inj h).1

/-- A line with a statement is read before the other lines. -/
theorem readAll?_line {statement : Statement} (hc : startsWord c = true)
    (hread : Statement.read? (c :: (s ++ '\n' :: rest)) = some (statement, '\n' :: rest)) :
    Statement.readAll? (c :: (s ++ '\n' :: rest)) =
      (statement :: ·) <$> Statement.readAll? rest := by
  rw [Statement.readAll?, skipComment_cons hc]
  dsimp only
  rw [lineEnd?_cons hc]
  dsimp only
  rw [skipSpaces_cons hc, hread]
  change (if _ then _ else none) = _
  rw [if_pos]
  simp
  omega

theorem readAll?_writeEntry (entry : String × Written) (hv : entry.2.Readable)
    (rest : List Char) :
    Statement.readAll? (writeEntry entry ++ rest) =
      (.entry [entry.1] entry.2.toToml :: ·) <$> Statement.readAll? rest := by
  have hread := read?_writeEntry entry hv rest
  obtain ⟨c, t, hwritten, hc⟩ := exists_writeKey_eq_cons entry.1.toList
  have hline : writeEntry entry ++ rest =
      c :: (t ++ [' ', '=', ' '] ++ entry.2.toText ++ '\n' :: rest) := by
    simp [writeEntry, hwritten]
  rw [hline] at hread ⊢
  exact readAll?_line (startsWord_of_key hc).1 hread

/-- The blank line in front of a header is skipped. -/
theorem readAll?_header {path : List String} (hne : path ≠ []) (hlength : path.length ≤ maxDepth)
    (rest : List Char) :
    Statement.readAll? ('\n' :: '[' :: (writePath path ++ ']' :: '\n' :: rest)) =
      (.table path :: ·) <$> Statement.readAll? rest := by
  have hread := read?_header hne hlength rest
  have hblank : ∀ u, Statement.readAll? ('\n' :: u) = Statement.readAll? u := by
    intro u
    rw [Statement.readAll?]
    change (if u.length < u.length + 1 then _ else none) = _
    rw [if_pos (Nat.lt_succ_self _)]
  have hline :
      writePath path ++ ']' :: '\n' :: rest = (writePath path ++ [']']) ++ '\n' :: rest := by
    simp
  rw [hline] at hread ⊢
  rw [hblank]
  exact readAll?_line (by decide) hread

/-- A section is read as it is written. -/
theorem readAll?_toText {sec : Section} (h : sec.Readable) (rest : List Char) :
    Statement.readAll? (sec.toText ++ rest) =
      (sec.statements ++ ·) <$> Statement.readAll? rest := by
  have hentries : ∀ entries : List (String × Written), (∀ entry ∈ entries, entry.2.Readable) →
      Statement.readAll? (entries.flatMap writeEntry ++ rest) =
        ((entries.map fun entry => .entry [entry.1] entry.2.toToml) ++ ·) <$>
          Statement.readAll? rest := by
    intro entries
    induction entries with
    | nil => intro; simp
    | cons entry entries ih =>
      intro hall
      obtain ⟨hv, hall⟩ := List.forall_mem_cons.1 hall
      rw [List.flatMap_cons, List.append_assoc, readAll?_writeEntry entry hv, ih hall,
        Option.map_eq_map, Option.map_eq_map, Option.map_map]
      rfl
  rw [Section.toText, Section.statements]
  by_cases hpath : sec.path = []
  · simpa [hpath] using hentries sec.entries h.entries
  · simp only [List.isEmpty_iff, hpath, if_false, List.append_assoc, List.cons_append,
      List.nil_append]
    rw [readAll?_header hpath h.path, hentries sec.entries h.entries]
    cases Statement.readAll? rest <;> rfl

/-- The sections of a document are read as they are written. -/
theorem readAll?_sections {sections : List Section} (h : ∀ sec ∈ sections, sec.Readable) :
    Statement.readAll? (sections.flatMap Section.toText) =
      some (sections.flatMap Section.statements) := by
  induction sections with
  | nil => rw [List.flatMap_nil, Statement.readAll?]; rfl
  | cons sec sections ih =>
    obtain ⟨hsec, hall⟩ := List.forall_mem_cons.1 h
    rw [List.flatMap_cons, readAll?_toText hsec, ih hall]
    rfl

end RoomModeration.Toml
