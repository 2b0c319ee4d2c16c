import RoomModeration.Proofs.Toml.Statement
import RoomModeration.Toml.Document

/-!
# What a written document comes to

The header of a table and its entries are carried out one after the other, each of them walking down
from the document to the table. Changes at the same place can be made in one walk; so a section is
one change of one table, and the sections below a table are one change of that table. A table that
is filled entry by entry, each under a name of its own, has exactly these entries.

## Main definitions

* `Section.fill?` : the change that a section makes.
* `Node.ofEntries` : the entries of a table that a section has filled.

## Main results

* `Builder.alter?_bind` : two changes at the same place are one change.
* `ofText?_writeSections` : a written document has the table that its sections fill.
* `fillAll?_under` : the sections below a table change this table only.
* `Builder.foldlM_set` : filling a table under different names.
-/

namespace RoomModeration.Toml

variable {key : String} {path : List String} {t : Builder}

namespace Builder

/-! ### Entries of a table -/

theorem lookup_filter_ne (key other : String) (entries : List (String × Node)) :
    Fields.lookup other (entries.filter (·.1 != key)) =
      if other = key then none else Fields.lookup other entries := by
  induction entries with
  | nil => simp [Fields.lookup]
  | cons entry entries ih =>
    obtain ⟨name, node⟩ := entry
    by_cases hname : name = key
    · subst hname
      rw [List.filter_cons_of_neg (by simp), ih]
      by_cases hother : other = name <;> simp [Fields.lookup, hother]
    · rw [List.filter_cons_of_pos (by simpa using hname), Fields.lookup, ih, Fields.lookup]
      by_cases hother : other = name
      · subst hother
        simp [hname]
      · simp [hother]

@[simp] theorem get?_set (t : Builder) (key other : String) (node : Node) :
    (t.set key node).get? other = if other = key then some node else t.get? other := by
  rw [get?, set, Fields.lookup, lookup_filter_ne]
  split <;> rfl

/-- Setting an entry again forgets what it was. -/
theorem set_set (t : Builder) (key : String) (first second : Node) :
    (t.set key first).set key second = t.set key second := by
  simp [set, List.filter_filter]

/-- A new entry is put in front. -/
theorem set_of_get?_eq_none (h : t.get? key = none) (node : Node) :
    t.set key node = { t with entries := (key, node) :: t.entries } := by
  have hkept : ∀ entries : List (String × Node), Fields.lookup key entries = none →
      entries.filter (·.1 != key) = entries := by
    intro entries
    induction entries with
    | nil => intro; rfl
    | cons entry entries ih =>
      intro hnone
      rw [Fields.lookup] at hnone
      split at hnone
      · cases hnone
      · next hname => rw [List.filter_cons_of_pos (by simpa using Ne.symm hname), ih hnone]
  rw [set, hkept _ h]

/-! ### Changes along a path -/

variable {f g : Builder → Option Builder}

/-- The part that a table under construction is within the table above it. -/
def toNode (t : Builder) : Node :=
  .table t.implicit t.dotted t.entries

/-- A change leaves the tables of a row what they are. -/
def KeepsRows (f : Builder → Option Builder) : Prop :=
  ∀ entries t, f ⟨false, false, entries⟩ = some t → t.implicit = false ∧ t.dotted = false

/-- A table that is not there is made. -/
theorem alter?_of_none (h : t.get? key = none) (f : Builder → Option Builder)
    (path : List String) :
    alter? false f (key :: path) t =
      (alter? false f path ⟨true, false, []⟩).map fun child => t.set key child.toNode := by
  rw [alter?, h]
  cases alter? false f path ⟨true, false, []⟩ <;> rfl

/-- A table that is there is changed. -/
theorem alter?_of_table {c : Builder} (h : t.get? key = some c.toNode)
    (f : Builder → Option Builder) (path : List String) :
    alter? false f (key :: path) t =
      (alter? false f path c).map fun child => t.set key child.toNode := by
  rw [alter?, h]
  change (alter? false f path c).bind _ = _
  cases alter? false f path c <;> rfl

/-- The last table of a row is changed. -/
theorem alter?_of_rows {row : List (String × Node)} {rows : List (List (String × Node))}
    (h : t.get? key = some (.tables (row :: rows))) (f : Builder → Option Builder)
    (path : List String) :
    alter? false f (key :: path) t =
      (alter? false f path ⟨false, false, row⟩).map fun child =>
        t.set key (.tables (child.entries :: rows)) := by
  rw [alter?, h]
  change (alter? false f path ⟨false, false, row⟩).bind _ = _
  cases alter? false f path ⟨false, false, row⟩ <;> rfl

theorem alter?_append (f : Builder → Option Builder) (front back : List String) (t : Builder) :
    alter? false f (front ++ back) t = alter? false (alter? false f back) front t := by
  induction front generalizing t with
  | nil => rfl
  | cons key front ih =>
    rw [List.cons_append, alter?, alter?]
    simp only [ih]

/-- What a table is does not change when a table below it is changed. -/
theorem of_alter?_cons {child : Builder} (h : alter? false f (key :: path) t = some child) :
    child.implicit = t.implicit ∧ child.dotted = t.dotted := by
  have hset : ∀ {made : Option Builder} {node : Builder → Node},
      made.map (fun c => t.set key (node c)) = some child →
        child.implicit = t.implicit ∧ child.dotted = t.dotted := by
    intro made node hmade
    obtain ⟨c, -, rfl⟩ := Option.map_eq_some_iff.1 hmade
    exact ⟨rfl, rfl⟩
  match hget : t.get? key with
  | none => exact hset (alter?_of_none hget f path ▸ h)
  | some (.table implicit dotted entries) =>
    exact hset (alter?_of_table (c := ⟨implicit, dotted, entries⟩) hget f path ▸ h)
  | some (.tables (row :: rows)) => exact hset (alter?_of_rows hget f path ▸ h)
  | some (.value _) => rw [alter?, hget] at h; cases h
  | some (.tables []) => rw [alter?, hget] at h; cases h

theorem KeepsRows.alter? (hf : KeepsRows f) (path : List String) :
    KeepsRows (alter? false f path) := by
  intro entries t h
  cases path with
  | nil => exact hf entries t h
  | cons key path => exact of_alter?_cons h

/-- Two changes at the same place are one change. -/
theorem alter?_bind (hf : KeepsRows f) (g : Builder → Option Builder) (path : List String)
    (t : Builder) :
    (alter? false f path t).bind (alter? false g path) =
      alter? false (fun t => (f t).bind g) path t := by
  induction path generalizing t with
  | nil => rfl
  | cons key path ih =>
    match hget : t.get? key with
    | none =>
      rw [alter?_of_none hget, alter?_of_none hget, ← ih]
      cases alter? false f path ⟨true, false, []⟩ with
      | none => rfl
      | some child =>
        rw [Option.map_some, Option.bind_some, alter?_of_table (c := child) (by simp)]
        simp only [set_set, Option.bind_some]
    | some (.table implicit dotted entries) =>
      have hchild : t.get? key = some (toNode ⟨implicit, dotted, entries⟩) := hget
      rw [alter?_of_table hchild, alter?_of_table hchild, ← ih]
      cases alter? false f path ⟨implicit, dotted, entries⟩ with
      | none => rfl
      | some child =>
        rw [Option.map_some, Option.bind_some, alter?_of_table (c := child) (by simp)]
        simp only [set_set, Option.bind_some]
    | some (.tables (row :: rows)) =>
      rw [alter?_of_rows hget, alter?_of_rows hget, ← ih]
      cases hmade : alter? false f path ⟨false, false, row⟩ with
      | none => rfl
      | some child =>
        -- A row does not remember how its tables came about, so nothing else may have come of it.
        obtain ⟨himplicit, hdotted⟩ := hf.alter? path row child hmade
        have hchild : child = ⟨false, false, child.entries⟩ := by
          cases child
          simp_all
        have hrows : (t.set key (.tables (child.entries :: rows))).get? key =
            some (.tables (child.entries :: rows)) := by
          simp
        rw [Option.map_some, Option.bind_some, alter?_of_rows hrows, ← hchild]
        simp only [set_set, Option.bind_some]
    | some (.value _) =>
      rw [alter?, alter?, hget]
      rfl
    | some (.tables []) =>
      rw [alter?, alter?, hget]
      rfl

/-! ### Sections -/

/-- A table gets a header of its own, which no header and no entry has named before. -/
def begin? (t : Builder) : Option Builder :=
  if t.implicit && !t.dotted then some { t with implicit := false } else none

/-- A table gets entries. -/
def insertAll? (entries : List (String × Written)) (t : Builder) : Option Builder :=
  entries.foldlM (fun t entry => t.insertPath? ([entry.1], entry.2.toToml)) t

theorem insertPath?_singleton (t : Builder) (key : String) (value : Toml) :
    t.insertPath? ([key], value) =
      if t.dotted || (t.get? key).isSome then none else some (t.set key (.value value)) := by
  change (if t.dotted == true || (t.get? key).isSome then none
    else some (t.set key (.value value))) = _
  rw [beq_true]

theorem keepsRows_insertPath? (key : String) (value : Toml) :
    KeepsRows (·.insertPath? ([key], value)) := by
  intro entries t h
  dsimp only at h
  rw [insertPath?_singleton] at h
  split at h
  · cases h
  · cases h
    exact ⟨rfl, rfl⟩

theorem KeepsRows.bind (hf : KeepsRows f) (hg : KeepsRows g) :
    KeepsRows fun t => (f t).bind g := by
  intro entries t h
  obtain ⟨⟨implicit, dotted, entries'⟩, hfirst, hsecond⟩ := Option.bind_eq_some_iff.1 h
  obtain ⟨rfl, rfl⟩ := hf entries _ hfirst
  exact hg entries' t hsecond

theorem keepsRows_begin? : KeepsRows begin? := nofun

/-- A header walks down to the table above the one it names, and names that table. -/
theorem beginTable?_eq (key : String) (t : Builder) :
    Draft.beginTable? key t = alter? false begin? [key] t := by
  rw [Draft.beginTable?]
  match hget : t.get? key with
  | none => rw [alter?_of_none hget]; rfl
  | some (.table implicit dotted entries) =>
    rw [alter?_of_table (c := ⟨implicit, dotted, entries⟩) hget]
    cases implicit <;> cases dotted <;> rfl
  | some (.tables (row :: rows)) => rw [alter?_of_rows hget]; rfl
  | some (.value _) => rw [alter?, hget]
  | some (.tables []) => rw [alter?, hget]

end Builder

/-- The change that a section makes: its table is named, unless it is the document itself, and gets
the entries. -/
def Section.fill? (sec : Section) : Builder → Option Builder :=
  Builder.alter? false (fun t =>
    (if sec.path.isEmpty then some t else t.begin?).bind (Builder.insertAll? sec.entries)) sec.path

namespace Draft

open Builder

theorem carryOut?_table (hne : path ≠ []) (d : Draft) :
    d.carryOut? (.table path) = (d.root.alter? false begin? path).map (⟨·, path⟩) := by
  obtain ⟨front, key, rfl⟩ : ∃ front key, path = front ++ [key] :=
    ⟨_, _, (List.dropLast_concat_getLast hne).symm⟩
  rw [carryOut?, header?, List.getLast?_concat, List.dropLast_concat, alter?_append,
    ← funext (beginTable?_eq key)]
  change (d.root.alter? false (beginTable? key) front).bind _ = _
  cases d.root.alter? false (beginTable? key) front <;> rfl

/-- The entries of a section go to the table that has been changed last. -/
theorem foldlM_entries {f : Builder → Option Builder} (hf : KeepsRows f)
    (entries : List (String × Written)) (path : List String) (t : Builder) :
    ((t.alter? false f path).map (Draft.mk · path)).bind
        ((entries.map fun e => Statement.entry [e.1] e.2.toToml).foldlM carryOut?) =
      (t.alter? false (fun t => (f t).bind (insertAll? entries)) path).map (⟨·, path⟩) := by
  -- The change `f` grows with each entry that has been carried out.
  induction entries generalizing f with
  | nil =>
    have hnone : (fun t => (f t).bind (insertAll? [])) = f := by
      funext t
      exact Option.bind_fun_some (f t)
    rw [hnone]
    exact Option.bind_fun_some _
  | cons entry entries ih =>
    have hinsert := keepsRows_insertPath? entry.1 entry.2.toToml
    have hall : (fun t => (f t).bind (insertAll? (entry :: entries))) = fun t =>
        ((f t).bind (·.insertPath? ([entry.1], entry.2.toToml))).bind (insertAll? entries) := by
      funext t
      rw [Option.bind_assoc]
      rfl
    rw [hall, ← ih (hf.bind hinsert), ← alter?_bind hf]
    cases t.alter? false f path with
    | none => rfl
    | some t =>
      simp only [Option.map_some, Option.bind_some, List.map_cons, List.foldlM_cons]
      rw [carryOut?]
      dsimp only
      cases t.alter? false (·.insertPath? ([entry.1], entry.2.toToml)) path <;> rfl

/-- Carrying out the statements of a section is the change that the section makes. -/
theorem foldlM_statements (sec : Section) {d : Draft} (h : sec.path = [] → d.path = []) :
    sec.statements.foldlM carryOut? d = (sec.fill? d.root).map (⟨·, sec.path⟩) := by
  obtain ⟨path, entries⟩ := sec
  obtain ⟨root, current⟩ := d
  rw [Section.statements, Section.fill?]
  by_cases hpath : path = []
  · obtain rfl := h hpath
    subst hpath
    exact foldlM_entries (f := some) (fun _ _ h => by cases h; exact ⟨rfl, rfl⟩) entries [] root
  · have hheader : (path.isEmpty) = false := List.isEmpty_eq_false_iff.2 hpath
    simp only [hheader]
    exact (congrArg (Option.bind · _) (carryOut?_table hpath ⟨root, current⟩)).trans
      (foldlM_entries keepsRows_begin? entries path root)

end Draft

/-- The changes that sections make, one after the other. -/
def fillAll? (sections : List Section) (t : Builder) : Option Builder :=
  sections.foldlM (fun t sec => sec.fill? t) t

theorem Draft.foldlM_sections {sections : List Section} (h : ∀ sec ∈ sections, sec.path ≠ [])
    (d : Draft) :
    ((sections.flatMap Section.statements).foldlM carryOut? d).map root =
      fillAll? sections d.root := by
  induction sections generalizing d with
  | nil => rfl
  | cons sec sections ih =>
    obtain ⟨hsec, hall⟩ := List.forall_mem_cons.1 h
    rw [List.flatMap_cons, List.foldlM_append, foldlM_statements sec (absurd · hsec), fillAll?,
      List.foldlM_cons]
    cases sec.fill? d.root with
    | none => rfl
    | some t => exact ih hall ⟨t, sec.path⟩

theorem Draft.foldlM_document {entries : List (String × Written)} {sections : List Section}
    (h : ∀ sec ∈ sections, sec.path ≠ []) :
    (((⟨[], entries⟩ :: sections).flatMap Section.statements).foldlM carryOut? empty).map root =
      fillAll? (⟨[], entries⟩ :: sections) .empty := by
  rw [List.flatMap_cons, List.foldlM_append, foldlM_statements _ (fun _ => rfl), fillAll?,
    List.foldlM_cons]
  change _ = (Section.fill? ⟨[], entries⟩ empty.root).bind _
  cases Section.fill? ⟨[], entries⟩ empty.root with
  | none => rfl
  | some t => exact foldlM_sections h ⟨t, []⟩

/-- A document starts with a key or a line break, and not with a mark. -/
theorem skipByteOrderMark_sections (sections : List Section) :
    skipByteOrderMark (sections.flatMap Section.toText) = sections.flatMap Section.toText := by
  have hentries : ∀ entries : List (String × Written),
      (entries.flatMap writeEntry).head? ≠ some '\ufeff' := by
    intro entries
    cases entries with
    | nil =>
      intro h
      cases h
    | cons entry entries =>
      obtain ⟨c, t, hwritten, hc⟩ := exists_writeKey_eq_cons entry.1.toList
      rw [List.flatMap_cons, writeEntry, hwritten]
      exact fun h => (startsWord_of_key hc).2.2 (Option.some.inj h)
  have hhead : (sections.flatMap Section.toText).head? ≠ some '\ufeff' := by
    induction sections with
    | nil =>
      intro h
      cases h
    | cons sec sections ih =>
      rw [List.flatMap_cons, Section.toText, List.append_assoc]
      by_cases hpath : sec.path = []
      · rw [if_pos (List.isEmpty_iff.2 hpath), List.nil_append, List.head?_append]
        cases hfirst : (sec.entries.flatMap writeEntry).head? with
        | none => exact ih
        | some c =>
          have hc := hentries sec.entries
          rwa [hfirst] at hc
      · rw [if_neg (by simpa using hpath)]
        exact fun h => absurd (Option.some.inj h) (by decide)
  rw [skipByteOrderMark.eq_def]
  split
  · next h =>
    rw [h] at hhead
    exact absurd rfl hhead
  · rfl

/-- A written document has the table that its sections fill, one after the other. -/
theorem ofText?_writeSections {entries : List (String × Written)} {sections : List Section}
    (hreadable : ∀ sec ∈ ⟨[], entries⟩ :: sections, sec.Readable)
    (hpath : ∀ sec ∈ sections, sec.path ≠ []) :
    ofText? (writeSections (⟨[], entries⟩ :: sections)) =
      (fillAll? (⟨[], entries⟩ :: sections) .empty).map Builder.toToml := by
  rw [ofText?, writeSections, String.toList_ofList, skipByteOrderMark_sections,
    readAll?_sections hreadable, ← Draft.foldlM_document hpath, Option.map_map]
  change (List.foldlM Draft.carryOut? Draft.empty _).bind _ = _
  cases List.foldlM Draft.carryOut? Draft.empty
    ((⟨[], entries⟩ :: sections).flatMap Section.statements) <;> rfl

/-! ### Filling tables -/

/-- Parts that are put into a table, each under a new name, are what the table has got. -/
theorem Builder.foldlM_set {α : Type} {items : List α} (change : α → Builder → Option Builder)
    (name : α → String) (node : α → Node)
    (hchange : ∀ x ∈ items, ∀ t : Builder, t.dotted = false → t.get? (name x) = none →
      change x t = some (t.set (name x) (node x)))
    (hnames : (items.map name).Nodup) (ht : t.dotted = false)
    (hfresh : ∀ x ∈ items, t.get? (name x) = none) :
    items.foldlM (fun t x => change x t) t =
      some { t with entries := (items.map fun x => (name x, node x)).reverse ++ t.entries } := by
  induction items generalizing t with
  | nil => rfl
  | cons x items ih =>
    obtain ⟨hx, hitems⟩ := List.forall_mem_cons.1 hchange
    obtain ⟨hnew, hfresh⟩ := List.forall_mem_cons.1 hfresh
    rw [List.map_cons, List.nodup_cons] at hnames
    have hset := ih (t := t.set (name x) (node x)) hitems hnames.2 ht fun y hy => by
      have hne : name y ≠ name x := fun h => hnames.1 (h ▸ List.mem_map_of_mem hy)
      rw [get?_set, if_neg hne]
      exact hfresh y hy
    rw [List.foldlM_cons, hx t ht hnew]
    refine Eq.trans hset ?_
    rw [set_of_get?_eq_none hnew]
    simp

/-- The entries of a table that a section has filled, the last one first. -/
def Node.ofEntries (entries : List (String × Written)) : List (String × Node) :=
  (entries.map fun entry => (entry.1, .value entry.2.toToml)).reverse

theorem Node.entriesToToml_eq_map (entries : List (String × Node)) :
    entriesToToml entries = entries.map fun entry => (entry.1, entry.2.toToml) := by
  induction entries with
  | nil => rfl
  | cons entry entries ih => rw [entriesToToml, ih]; rfl

/-- The value of a table that a section has filled. -/
def ofEntries (entries : List (String × Written)) : Toml :=
  .table (entries.map fun entry => (entry.1, entry.2.toToml)).reverse

theorem Node.toToml_ofEntries (implicit : Bool) (entries : List (String × Written)) :
    (Node.table implicit false (ofEntries entries)).toToml = Toml.ofEntries entries := by
  rw [toToml, entriesToToml_eq_map, ofEntries, Toml.ofEntries, List.map_reverse, List.map_map]
  simp only [Function.comp_def, toToml]

theorem Builder.insertAll?_empty {entries : List (String × Written)}
    (hnames : (entries.map Prod.fst).Nodup) (implicit : Bool) :
    insertAll? entries ⟨implicit, false, []⟩ = some ⟨implicit, false, Node.ofEntries entries⟩ := by
  have hinsert : ∀ entry ∈ entries, ∀ t : Builder, t.dotted = false → t.get? entry.1 = none →
      t.insertPath? ([entry.1], entry.2.toToml) =
        some (t.set entry.1 (.value entry.2.toToml)) := by
    intro entry _ t ht hnew
    rw [insertPath?_singleton, ht, hnew]
    rfl
  have hset := foldlM_set (t := ⟨implicit, false, []⟩) (fun entry t => t.insertPath? _) Prod.fst _
    hinsert hnames rfl fun _ _ => rfl
  rw [insertAll?, hset, List.append_nil, Node.ofEntries]

/-- A section makes a new table with its entries. -/
theorem fill?_singleton {entries : List (String × Written)}
    (hnames : (entries.map Prod.fst).Nodup) (hnew : t.get? key = none) :
    Section.fill? ⟨[key], entries⟩ t =
      some (t.set key (.table false false (Node.ofEntries entries))) := by
  rw [Section.fill?, Builder.alter?_of_none hnew]
  change (Builder.insertAll? entries ⟨false, false, []⟩).map _ = _
  rw [Builder.insertAll?_empty hnames]
  rfl

/-- Sections make one new table each. -/
theorem fillAll?_tables {tables : List (String × List (String × Written))}
    (hentries : ∀ table ∈ tables, (table.2.map Prod.fst).Nodup)
    (hnames : (tables.map Prod.fst).Nodup) (ht : t.dotted = false)
    (hnew : ∀ table ∈ tables, t.get? table.1 = none) :
    fillAll? (tables.map fun table => ⟨[table.1], table.2⟩) t =
      some { t with entries := (tables.map fun table =>
        (table.1, Node.table false false (Node.ofEntries table.2))).reverse ++ t.entries } := by
  rw [fillAll?, List.foldlM_map]
  exact Builder.foldlM_set (fun table => Section.fill? ⟨[table.1], table.2⟩) Prod.fst _
    (fun table htable _ _ hnew => fill?_singleton (hentries table htable) hnew) hnames ht hnew

theorem fillAll?_append (front back : List Section) (t : Builder) :
    fillAll? (front ++ back) t = (fillAll? front t).bind (fillAll? back) :=
  List.foldlM_append

theorem fillAll?_flatMap {α : Type} (items : List α) (f : α → List Section) (t : Builder) :
    fillAll? (items.flatMap f) t = items.foldlM (fun t x => fillAll? (f x) t) t := by
  induction items generalizing t with
  | nil => rfl
  | cons x items ih =>
    rw [List.flatMap_cons, fillAll?_append, List.foldlM_cons]
    cases fillAll? (f x) t with
    | none => rfl
    | some t => exact ih t

/-- A section below a table. -/
def Section.under (key : String) (sec : Section) : Section :=
  { sec with path := key :: sec.path }

theorem fill?_under {sec : Section} (h : sec.path ≠ []) (key : String) :
    (sec.under key).fill? = Builder.alter? false sec.fill? [key] := by
  have hheader : sec.path.isEmpty = false := List.isEmpty_eq_false_iff.2 h
  funext t
  simp only [Section.fill?, Section.under, List.isEmpty_cons, hheader]
  exact Builder.alter?_append _ [key] sec.path t

theorem keepsRows_fill? {sec : Section} (h : sec.path ≠ []) : Builder.KeepsRows sec.fill? := by
  intro entries t hfill
  obtain ⟨key, path, hpath⟩ := List.exists_cons_of_ne_nil h
  rw [Section.fill?, hpath] at hfill
  exact Builder.of_alter?_cons hfill

/-- The sections below a table change this table only. -/
theorem fillAll?_under {sections : List Section} (hne : sections ≠ [])
    (h : ∀ sec ∈ sections, sec.path ≠ []) (key : String) (t : Builder) :
    fillAll? (sections.map (Section.under key)) t = t.alter? false (fillAll? sections) [key] := by
  -- As for the entries of a section, the change that has been made so far grows.
  have hmore : ∀ {sections : List Section} {f : Builder → Option Builder}, Builder.KeepsRows f →
      (∀ sec ∈ sections, sec.path ≠ []) →
      (t.alter? false f [key]).bind (fillAll? (sections.map (Section.under key))) =
        t.alter? false (fun t => (f t).bind (fillAll? sections)) [key] := by
    intro sections
    induction sections with
    | nil =>
      intro f _ _
      have hnone : (fun t => (f t).bind (fillAll? [])) = f := by
        funext t
        exact Option.bind_fun_some (f t)
      rw [hnone]
      exact Option.bind_fun_some _
    | cons sec sections ih =>
      intro f hf hall
      obtain ⟨hsec, hall⟩ := List.forall_mem_cons.1 hall
      have hrest := ih (hf.bind (keepsRows_fill? hsec)) hall
      rw [← Builder.alter?_bind hf, ← fill?_under hsec, Option.bind_assoc] at hrest
      refine hrest.trans ?_
      simp only [Option.bind_assoc]
      rfl
  obtain ⟨sec, sections, rfl⟩ := List.exists_cons_of_ne_nil hne
  obtain ⟨hsec, hall⟩ := List.forall_mem_cons.1 h
  have hfill := hmore (keepsRows_fill? hsec) hall
  rw [← fill?_under hsec] at hfill
  exact hfill

end RoomModeration.Toml
