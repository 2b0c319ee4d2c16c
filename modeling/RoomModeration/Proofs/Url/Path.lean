import RoomModeration.Url.Reader

/-!
# Segments that are put into a path

A segment is put into a path with every character encoded that could end it there. So what is
written holds no slash, and it is decoded to the bytes of the segment. It is taken for a dot segment
only if the segment is one, since a written dot segment is decoded to one or two dots. Segments
that are no dot segments, and of which no character is left out, therefore come one for one at the
end of the path, however they look.

## Main definitions

* `Url.IsPlain` : a segment that is put into a path as it is.
* `Url.written` : how a segment is written in a path.

## Main results

* `Text.percentDecode_percentEncode` : an encoded text is decoded to its bytes.
* `Url.resolve_written` : a plain segment is not taken for a dot segment.
* `Url.pushAll_of_isPlain` : what putting segments into a path does.
* `Url.splitOn_pathText` : a written path is split into its segments.
-/

namespace RoomModeration

/-! ### Encoded texts -/

namespace Text

variable {keeps : Char → Bool}

/-- The characters that an encoded byte is written with. -/
def codeChars : List Char := "%0123456789ABCDEF".toList

theorem percentByte_subset (b : UInt8) : percentByte b ⊆ codeChars := by
  have hdigit : ∀ n : Fin 16, upperHexDigit n ∈ codeChars := by decide
  have hhigh : b.toNat / 16 < 16 := Nat.div_lt_of_lt_mul b.toNat_lt
  have hlow : b.toNat % 16 < 16 := Nat.mod_lt _ (by decide)
  simp only [percentByte, List.cons_subset, List.nil_subset, and_true]
  exact ⟨by decide, hdigit ⟨_, hhigh⟩, hdigit ⟨_, hlow⟩⟩

/-- A character with which no byte is written stands for itself in an encoded text. -/
theorem mem_of_mem_percentEncode {c : Char} {s : List Char} (hcode : c ∉ codeChars)
    (h : c ∈ percentEncode keeps s) : c ∈ s ∧ keeps c = true := by
  obtain ⟨d, hd, hc⟩ := List.mem_flatMap.1 h
  split at hc
  · next hkept =>
    obtain rfl := List.mem_singleton.1 hc
    exact ⟨hd, hkept⟩
  · obtain ⟨b, -, hb⟩ := List.mem_flatMap.1 hc
    exact absurd (percentByte_subset b hb) hcode

/-- A character that is not kept is in an encoded text only as a part of codes. -/
theorem notMem_percentEncode {c : Char} (hcode : c ∉ codeChars) (hkeeps : keeps c = false)
    (s : List Char) : c ∉ percentEncode keeps s := by
  intro hmem
  obtain ⟨-, hkept⟩ := mem_of_mem_percentEncode hcode hmem
  rw [hkeeps] at hkept
  cases hkept

theorem percentDecode_cons {c : Char} (h : c ≠ '%') (rest : List Char) :
    percentDecode (c :: rest) = String.utf8EncodeChar c ++ percentDecode rest := by
  rw [percentDecode]
  rintro - - - rfl -
  exact h rfl

theorem percentDecode_percentBytes (bytes : List UInt8) (rest : List Char) :
    percentDecode (bytes.flatMap percentByte ++ rest) = bytes ++ percentDecode rest := by
  induction bytes with
  | nil => rfl
  | cons b bytes ih =>
    rw [List.flatMap_cons, List.append_assoc, percentDecode_percentByte, ih, List.cons_append]

/-- A text in which percent signs are encoded as well is decoded to its bytes. -/
theorem percentDecode_percentEncode (h : keeps '%' = false) (s : List Char) :
    percentDecode (percentEncode keeps s) = s.flatMap String.utf8EncodeChar := by
  induction s with
  | nil => rfl
  | cons c s ih =>
    have hstep : percentEncode keeps (c :: s) =
        (if keeps c then [c] else (String.utf8EncodeChar c).flatMap percentByte) ++
          percentEncode keeps s := List.flatMap_cons
    rw [hstep, List.flatMap_cons]
    split
    · next hkept =>
      have hne : c ≠ '%' := by
        rintro rfl
        rw [h] at hkept
        cases hkept
      rw [List.singleton_append, percentDecode_cons hne, ih]
    · rw [percentDecode_percentBytes, ih]

/-- The bytes of a text are those of its characters. -/
theorem flatMap_utf8EncodeChar (s : String) :
    s.toList.flatMap String.utf8EncodeChar = s.toUTF8.data.toList := by
  have hencode : s.toList.utf8Encode = s.toUTF8 := String.utf8Encode_toList
  rw [← hencode, List.utf8Encode, List.data_toByteArray]

/-- Only a character and its capital have the same lower case. -/
theorem eq_or_eq_toUpper (c : Char) : c = c.toLower ∨ c = c.toLower.toUpper := by
  by_cases h : c.val ≥ 'A'.val ∧ c.val ≤ 'Z'.val
  · have hall : ∀ n : Fin 26, Char.ofNat (65 + n) = (Char.ofNat (65 + n)).toLower.toUpper := by
      decide
    obtain ⟨hlow, hhigh⟩ := h
    rw [ge_iff_le, UInt32.le_iff_toNat_le] at hlow
    rw [UInt32.le_iff_toNat_le] at hhigh
    change 65 ≤ c.toNat at hlow
    change c.toNat ≤ 90 at hhigh
    have hn := hall ⟨c.toNat - 65, by omega⟩
    rw [Nat.add_sub_cancel' hlow, Char.ofNat_toNat] at hn
    exact .inr hn
  · have hsame : c.toLower = c := dif_neg h
    exact .inl hsame.symm

end Text

namespace Url

open Text (percentEncode percentDecode)

/-! ### Dot segments -/

/-- A dot is written as it is or as a code. -/
theorem percentDecode_of_lower {w l : List Char}
    (h : Text.lower w = '.' :: l ∨ Text.lower w = '%' :: '2' :: 'e' :: l) :
    ∃ w', Text.lower w' = l ∧ percentDecode w = 46 :: percentDecode w' := by
  have hletter : ∀ {c d : Char}, c.toLower = d → c = d ∨ c = d.toUpper := by
    rintro c _ rfl
    exact Text.eq_or_eq_toUpper c
  rcases h with h | h
  · obtain ⟨c, w', rfl, hc, rfl⟩ := List.map_eq_cons_iff.1 h
    obtain rfl : c = '.' := (hletter hc).elim id id
    exact ⟨w', rfl, rfl⟩
  · obtain ⟨a, _, rfl, ha, h⟩ := List.map_eq_cons_iff.1 h
    obtain ⟨b, _, rfl, hb, h⟩ := List.map_eq_cons_iff.1 h
    obtain ⟨c, w', rfl, hc, rfl⟩ := List.map_eq_cons_iff.1 h
    obtain rfl : a = '%' := (hletter ha).elim id id
    obtain rfl : b = '2' := (hletter hb).elim id id
    refine ⟨w', rfl, ?_⟩
    rcases hletter hc with rfl | rfl <;> rfl

theorem percentDecode_of_isSingleDot {w : List Char} (h : isSingleDot w = true) :
    percentDecode w = ".".toUTF8.data.toList := by
  rw [isSingleDot, Bool.or_eq_true, beq_iff_eq, beq_iff_eq] at h
  obtain ⟨w', hnil, hdecode⟩ := percentDecode_of_lower h
  obtain rfl := List.map_eq_nil_iff.1 hnil
  rw [hdecode]
  rfl

theorem percentDecode_of_isDoubleDot {w : List Char} (h : isDoubleDot w = true) :
    percentDecode w = "..".toUTF8.data.toList := by
  have htwo : ∃ l, (Text.lower w = '.' :: l ∨ Text.lower w = '%' :: '2' :: 'e' :: l) ∧
      (l = '.' :: [] ∨ l = '%' :: '2' :: 'e' :: []) := by
    simp only [isDoubleDot, List.contains_iff_mem, List.mem_cons, List.not_mem_nil, or_false] at h
    rcases h with h | h | h | h
    · exact ⟨_, .inl h, .inl rfl⟩
    · exact ⟨_, .inl h, .inr rfl⟩
    · exact ⟨_, .inr h, .inl rfl⟩
    · exact ⟨_, .inr h, .inr rfl⟩
  obtain ⟨l, hfirst, hsecond⟩ := htwo
  obtain ⟨w', rfl, hdecode⟩ := percentDecode_of_lower hfirst
  obtain ⟨w'', hnil, hdecode'⟩ := percentDecode_of_lower hsecond
  obtain rfl := List.map_eq_nil_iff.1 hnil
  rw [hdecode, hdecode']
  rfl

/-- A segment that is put into a path as it is. -/
structure IsPlain (segment : String) : Prop where
  /-- It does not mean the path itself. -/
  ne_dot : segment ≠ "."
  /-- It does not mean the path above. -/
  ne_dots : segment ≠ ".."
  /-- No character is left out. -/
  kept : ∀ c ∈ segment.toList, isDropped c = false

instance : DecidablePred IsPlain := fun s =>
  decidable_of_iff (s ≠ "." ∧ s ≠ ".." ∧ s.toList.any isDropped = false)
    ⟨fun ⟨hdot, hdots, hkept⟩ =>
        ⟨hdot, hdots, fun c hc => Bool.eq_false_iff.2 (List.any_eq_false.1 hkept c hc)⟩,
      fun h => ⟨h.ne_dot, h.ne_dots,
        List.any_eq_false.2 fun c hc => Bool.eq_false_iff.1 (h.kept c hc)⟩⟩

/-- How a segment is written in a path. -/
def written (special : Bool) (segment : String) : List Char :=
  percentEncode (keptInSegment special) segment.toList

variable {special : Bool} {segment : String} {segments : List (List Char)}

theorem percentDecode_written (special : Bool) (segment : String) :
    percentDecode (written special segment) = segment.toUTF8.data.toList := by
  rw [written, Text.percentDecode_percentEncode, Text.flatMap_utf8EncodeChar]
  cases special <;> rfl

/-- No byte is written with a character that ends a segment or the path. -/
theorem notMem_codeChars {c : Char} (h : c ∈ ['/', '?', '#']) : c ∉ Text.codeChars := by
  simp only [List.mem_cons, List.not_mem_nil, or_false] at h
  rcases h with rfl | rfl | rfl <;> decide

theorem keptInSegment_eq_false {c : Char} (h : c ∈ ['/', '?', '#']) (special : Bool) :
    keptInSegment special c = false := by
  simp only [List.mem_cons, List.not_mem_nil, or_false] at h
  rcases h with rfl | rfl | rfl <;> cases special <;> rfl

/-- What ends a segment or the path is not in a written segment. -/
theorem notMem_written {c : Char} (h : c ∈ ['/', '?', '#']) (special : Bool) (segment : String) :
    c ∉ written special segment :=
  Text.notMem_percentEncode (notMem_codeChars h) (keptInSegment_eq_false h special) _

/-- Texts with the same bytes are the same. -/
theorem eq_of_utf8 {s t : String} (h : s.toUTF8.data.toList = t.toUTF8.data.toList) : s = t :=
  String.toByteArray_inj.1 (ByteArray.ext (Array.toList_inj.1 h))

theorem written_inj {s t : String} (h : written special s = written special t) : s = t := by
  refine eq_of_utf8 ?_
  rw [← percentDecode_written special, h, percentDecode_written]

/-- A plain segment is not taken for a dot segment. -/
theorem resolve_written (h : IsPlain segment) :
    resolve segments [written special segment] = segments ++ [written special segment] := by
  have hdots : ¬isDoubleDot (written special segment) = true := by
    intro hdots
    have hdecode := percentDecode_of_isDoubleDot hdots
    rw [percentDecode_written] at hdecode
    exact h.ne_dots (eq_of_utf8 hdecode)
  have hdot : ¬isSingleDot (written special segment) = true := by
    intro hdot
    have hdecode := percentDecode_of_isSingleDot hdot
    rw [percentDecode_written] at hdecode
    exact h.ne_dot (eq_of_utf8 hdecode)
  rw [resolve, if_neg hdots, if_neg hdot]

/-! ### Putting segments into a path -/

theorem pushSegment_of_isPlain (h : IsPlain segment) :
    pushSegment special segments segment.toList =
      (if segments = [[]] then [] else segments) ++ [written special segment] := by
  have hnot : ¬(segment.toList == ['.'] || segment.toList == ['.', '.']) = true := by
    rw [Bool.or_eq_true, beq_iff_eq, beq_iff_eq]
    rintro (hdot | hdots)
    · exact h.ne_dot (String.toList_inj.1 hdot)
    · exact h.ne_dots (String.toList_inj.1 hdots)
  have hall : segment.toList.filter (!isDropped ·) = segment.toList :=
    List.filter_eq_self.2 fun c hc => by rw [h.kept c hc, Bool.not_false]
  rw [pushSegment, if_neg hnot, hall]
  simp only [beq_iff_eq]
  exact resolve_written h

variable {u : Url} {name : String} {names : List String}

theorem push_of_isPlain (hpath : u.path = .segments segments) (h : IsPlain name) :
    u.push name =
      { u with
        path := .segments ((if segments = [[]] then [] else segments) ++
          [written (isSpecial u.scheme) name]) } := by
  rw [push, hpath]
  dsimp only
  rw [pushSegment_of_isPlain h]

/-- Behind a path that is neither empty nor a lone slash, segments come one for one. -/
theorem pushAll_of_path (hpath : u.path = .segments segments) (hne : segments ≠ [])
    (hlone : segments ≠ [[]]) (hplain : ∀ s ∈ names, IsPlain s) :
    u.pushAll names =
      { u with path := .segments (segments ++ names.map (written (isSpecial u.scheme))) } := by
  induction names generalizing u segments with
  | nil => rw [pushAll, List.foldl_nil, List.map_nil, List.append_nil, ← hpath]
  | cons name names ih =>
    obtain ⟨hname, hnames⟩ := List.forall_mem_cons.1 hplain
    have hlong : segments ++ [written (isSpecial u.scheme) name] ≠ [[]] := by
      intro h
      have hlength := congrArg List.length h
      rw [List.length_append] at hlength
      exact hne (List.length_eq_zero_iff.1 (Nat.succ.inj hlength))
    rw [pushAll, List.foldl_cons, ← pushAll, push_of_isPlain hpath hname, if_neg hlone,
      ih rfl (List.concat_ne_nil _ _) hlong hnames]
    rw [List.map_cons, List.append_assoc, List.singleton_append]

/-- Segments that are put into a path come one for one behind those that are there, but take the
place of a lone slash. -/
theorem pushAll_of_isPlain (hpath : u.path = .segments segments) (hname : name ≠ "")
    (hplain : ∀ s ∈ name :: names, IsPlain s) :
    u.pushAll (name :: names) =
      { u with
        path := .segments ((if segments = [[]] then [] else segments) ++
          (name :: names).map (written (isSpecial u.scheme))) } := by
  obtain ⟨hplain, hnames⟩ := List.forall_mem_cons.1 hplain
  have hlong : (if segments = [[]] then [] else segments) ++
      [written (isSpecial u.scheme) name] ≠ [[]] := by
    intro h
    have hlast := congrArg List.getLast? h
    rw [List.getLast?_concat] at hlast
    exact hname (written_inj (t := "") (Option.some.inj hlast))
  rw [pushAll, List.foldl_cons, ← pushAll, push_of_isPlain hpath hplain,
    pushAll_of_path rfl (List.concat_ne_nil _ _) hlong hnames]
  rw [List.map_cons, List.append_assoc, List.singleton_append]

/-! ### The segments of a written path -/

/-- A path that is not empty stays so when dot segments are taken out. -/
theorem resolve_ne_nil {passed segments : List (List Char)} (h : segments ≠ []) :
    resolve passed segments ≠ [] := by
  fun_induction resolve passed segments with
  | case1 => exact absurd rfl h
  | case2 | case3 | case4 => exact List.concat_ne_nil _ _
  | case5 _ _ _ hrest _ ih => exact ih hrest
  | case6 _ _ _ hrest _ _ ih => exact ih hrest
  | case7 _ _ _ hrest _ _ ih => exact ih hrest

/-- Taking out dot segments brings in no segment but an empty one. -/
theorem forall_mem_resolve {P : List Char → Prop} {passed segments : List (List Char)}
    (hnil : P []) (hpassed : ∀ s ∈ passed, P s) (h : ∀ s ∈ segments, P s) :
    ∀ s ∈ resolve passed segments, P s := by
  have hdrop : ∀ {l : List (List Char)}, (∀ s ∈ l, P s) → ∀ s ∈ l.dropLast, P s :=
    fun hl s hs => hl s (List.dropLast_subset _ hs)
  fun_induction resolve passed segments with
  | case1 => exact hpassed
  | case2 => exact List.forall_mem_append.2 ⟨hdrop hpassed, List.forall_mem_singleton.2 hnil⟩
  | case3 => exact List.forall_mem_append.2 ⟨hpassed, List.forall_mem_singleton.2 hnil⟩
  | case4 => exact List.forall_mem_append.2 ⟨hpassed, h⟩
  | case5 _ _ _ _ _ ih => exact ih (hdrop hpassed) (List.forall_mem_cons.1 h).2
  | case6 _ _ _ _ _ _ ih => exact ih hpassed (List.forall_mem_cons.1 h).2
  | case7 _ _ _ _ _ _ ih =>
    obtain ⟨hsegment, hrest⟩ := List.forall_mem_cons.1 h
    exact ih (List.forall_mem_append.2 ⟨hpassed, List.forall_mem_singleton.2 hsegment⟩) hrest

/-- What stands between two slashes holds none. -/
theorem notMem_of_mem_splitOn {s t : List Char} (h : t ∈ s.splitOn '/') : '/' ∉ t := by
  induction s generalizing t with
  | nil =>
    rw [List.splitOn_nil] at h
    obtain rfl := List.mem_singleton.1 h
    exact List.not_mem_nil
  | cons c s ih =>
    rw [List.splitOn_cons_eq_if_modifyHead] at h
    split at h
    · rcases List.mem_cons.1 h with rfl | h
      · exact List.not_mem_nil
      · exact ih h
    · next hc =>
      obtain ⟨first, rest, hsplit⟩ := List.exists_cons_of_ne_nil (List.splitOn_ne_nil '/' s)
      rw [hsplit] at h ih
      rcases List.mem_cons.1 h with rfl | h
      · rw [List.mem_cons, not_or]
        exact ⟨fun heq => hc (by simp [← heq]), ih List.mem_cons_self⟩
      · exact ih (List.mem_cons_of_mem _ h)

theorem splitOn_append_flatMap {first : List Char} (hfirst : '/' ∉ first)
    (h : ∀ s ∈ segments, '/' ∉ s) :
    (first ++ segments.flatMap fun s => '/' :: s).splitOn '/' = first :: segments := by
  induction segments generalizing first with
  | nil =>
    rw [List.flatMap_nil, List.append_nil]
    exact List.splitOn_eq_singleton hfirst
  | cons s segments ih =>
    obtain ⟨hs, hsegments⟩ := List.forall_mem_cons.1 h
    rw [List.flatMap_cons, List.cons_append, List.splitOn_append_cons_self_of_not_mem hfirst,
      ih hs hsegments]

/-- A written path is split into its segments; nothing stands before its first slash. -/
theorem splitOn_pathText (hpath : u.path = .segments segments)
    (h : ∀ s ∈ segments, '/' ∉ s) : u.pathText.splitOn '/' = [] :: segments := by
  rw [pathText, hpath]
  exact splitOn_append_flatMap List.not_mem_nil h

end Url

end RoomModeration
