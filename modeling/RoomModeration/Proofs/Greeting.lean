import RoomModeration.Welcome.Greeting
import Mathlib.Data.List.Infix

/-!
# What a greeting says

A template is a row of pieces: characters that stand for themselves, and placeholders for the
newcomer and for the name of the room. A greeting ought to be the row with each placeholder filled
in, so that what is put in is never read again. It is made by two passes instead, first for the
newcomer and then for the room, and the second pass also reads what the first one has put in.

The two are the same for every template and every name of a room exactly when the identifier of the
newcomer neither holds the placeholder for the room nor breaks off within it. The name of the room
is put in last, so nothing can go wrong with it.

## Main definitions

* `Template.pieces` : the pieces of a template.
* `Template.filled` : a template with every placeholder filled in at once.
* `MayBegin` : an occurrence of a pattern may begin in a text, by what follows the text.

## Main results

* `Template.spell_pieces` : a template is made of its pieces.
* `replaceAll_replaceAll` : the two passes fill in all placeholders at once.
* `filled_at_once_iff` : for which newcomers this holds whatever the template is.
-/

namespace RoomModeration

variable {p m r s : List Char}

/-! ### Templates and their pieces -/

namespace Template

/-- A piece of a template. -/
inductive Piece where
  /-- A character that stands for itself. -/
  | plain (c : Char)
  /-- The placeholder for the newcomer. -/
  | member
  /-- The placeholder for the name of the room. -/
  | room
  deriving DecidableEq

/-- What stands for a piece. -/
def Piece.fill (member room : List Char) : Piece → List Char
  | plain c => [c]
  | .member => member
  | .room => room

/-- The pieces of a template, from left to right. -/
def pieces : List Char → List Piece
  | [] => []
  | c :: rest =>
    if memberPlaceholder <+: c :: rest then .member :: pieces (rest.drop 7)
    else if roomPlaceholder <+: c :: rest then .room :: pieces (rest.drop 5)
    else .plain c :: pieces rest
termination_by s => s.length
decreasing_by all_goals simp only [List.length_cons, List.length_drop]; omega

/-- A template with every placeholder filled in at once. -/
def filled (template : String) (member : MemberId) (roomName : String) : String :=
  String.ofList ((pieces template.toList).flatMap
    (Piece.fill member.text.toList roomName.toList))

theorem pieces_member (s : List Char) : pieces (memberPlaceholder ++ s) = .member :: pieces s := by
  have hstart : memberPlaceholder ++ s = '\x7b' :: (memberPlaceholder.tail ++ s) := rfl
  rw [hstart, pieces, ← hstart, if_pos (List.prefix_append _ _)]
  rfl

/-- A text without an opening brace holds no placeholder. -/
theorem pieces_of_no_brace (h : '\x7b' ∉ s) : pieces s = s.map .plain := by
  induction s with
  | nil => rw [pieces, List.map_nil]
  | cons c s ih =>
    have hc : '\x7b' ≠ c := fun heq => h (heq ▸ List.mem_cons_self)
    have hmember : ¬memberPlaceholder <+: c :: s := fun hp => hc (List.cons_prefix_cons.1 hp).1
    have hroom : ¬roomPlaceholder <+: c :: s := fun hp => hc (List.cons_prefix_cons.1 hp).1
    rw [pieces, if_neg hmember, if_neg hroom, ih fun hs => h (List.mem_cons_of_mem _ hs),
      List.map_cons]

/-- With each placeholder for itself, the pieces spell the template. -/
theorem spell_pieces (s : List Char) :
    (pieces s).flatMap (Piece.fill memberPlaceholder roomPlaceholder) = s := by
  fun_induction pieces s with
  | case1 => rfl
  | case2 c rest h ih =>
    obtain ⟨after, hafter⟩ := h
    obtain ⟨rfl, rfl⟩ := List.cons.inj hafter
    rw [List.flatMap_cons, ih]
    rfl
  | case3 c rest _ h ih =>
    obtain ⟨after, hafter⟩ := h
    obtain ⟨rfl, rfl⟩ := List.cons.inj hafter
    rw [List.flatMap_cons, ih]
    rfl
  | case4 c rest _ _ ih =>
    rw [List.flatMap_cons, ih]
    rfl

end Template

/-! ### One pass -/

theorem replaceAll_nil (p r : List Char) : replaceAll p r [] = [] := by
  rw [replaceAll]

theorem replaceAll_append_self (hp : p ≠ []) (r s : List Char) :
    replaceAll p r (p ++ s) = r ++ replaceAll p r s := by
  obtain ⟨c, p, rfl⟩ := List.exists_cons_of_ne_nil hp
  have hstarts : (c :: p).isPrefixOf (c :: (p ++ s)) = true :=
    List.isPrefixOf_iff_prefix.2 (List.prefix_append (c :: p) s)
  rw [List.cons_append, replaceAll, if_neg (by simp), if_pos hstarts]
  simp

theorem replaceAll_cons_of_not_isPrefix {c : Char} (h : ¬p <+: c :: s) (r : List Char) :
    replaceAll p r (c :: s) = c :: replaceAll p r s := by
  have hp : ¬p.isEmpty = true := fun hp => h (List.isEmpty_iff.1 hp ▸ List.nil_prefix)
  have hstarts : ¬p.isPrefixOf (c :: s) = true := fun hp => h (List.isPrefixOf_iff_prefix.1 hp)
  rw [replaceAll, if_neg hp, if_neg hstarts]

/-- An occurrence of a pattern may begin in a text, if the right text follows. -/
def MayBegin (p m : List Char) : Prop :=
  ∃ t, t <:+ m ∧ t ≠ [] ∧ (t <+: p ∨ p <+: t)

instance (p m : List Char) : Decidable (MayBegin p m) :=
  decidable_of_iff (∃ t ∈ m.tails, t ≠ [] ∧ (t <+: p ∨ p <+: t))
    (exists_congr fun t => and_congr_left' (List.mem_tails t m))

/-- A text in which no occurrence may begin is passed over. -/
theorem replaceAll_append (h : ¬MayBegin p m) (r s : List Char) :
    replaceAll p r (m ++ s) = m ++ replaceAll p r s := by
  induction m with
  | nil => rfl
  | cons c m ih =>
    have hrest : ¬MayBegin p m := fun ⟨t, ht, hne, hmeets⟩ =>
      h ⟨t, ht.trans (List.suffix_cons c m), hne, hmeets⟩
    have hnot : ¬p <+: c :: (m ++ s) := fun hp =>
      h ⟨c :: m, List.suffix_rfl, List.cons_ne_nil _ _,
        List.prefix_or_prefix_of_prefix (List.prefix_append (c :: m) s) hp⟩
    rw [List.cons_append, replaceAll_cons_of_not_isPrefix hnot, ih hrest, List.cons_append]

/-- What a text starts with after a pass it has started with before, unless the start reaches into
what was put in. -/
theorem prefix_of_prefix_replaceAll {a : Char} {q : List Char} (hp : p ≠ [])
    (hr : r.head? = some a) (ha : a ∉ q) (h : q <+: replaceAll p r s) : q <+: s := by
  induction q generalizing s with
  | nil => exact List.nil_prefix
  | cons d q ih =>
    have hd : a ≠ d := fun heq => ha (heq ▸ List.mem_cons_self)
    cases s with
    | nil =>
      rw [replaceAll_nil] at h
      exact h
    | cons c s =>
      by_cases hstarts : p <+: c :: s
      · obtain ⟨after, hafter⟩ := hstarts
        obtain ⟨r, rfl⟩ := List.head?_eq_some_iff.1 hr
        rw [← hafter, replaceAll_append_self hp, List.cons_append] at h
        exact absurd (List.cons_prefix_cons.1 h).1.symm hd
      · rw [replaceAll_cons_of_not_isPrefix hstarts] at h
        obtain ⟨rfl, hq⟩ := List.cons_prefix_cons.1 h
        exact List.cons_prefix_cons.2 ⟨rfl, ih (fun hmem => ha (List.mem_cons_of_mem _ hmem)) hq⟩

theorem length_replaceAll_nil_le (p s : List Char) : (replaceAll p [] s).length ≤ s.length := by
  fun_induction replaceAll p [] s with
  | case1 => exact Nat.le_refl _
  | case2 => exact Nat.le_refl _
  | case3 c rest _ _ ih =>
    simp only [List.nil_append, List.length_cons, List.length_drop] at ih ⊢
    omega
  | case4 c rest _ _ ih => exact Nat.succ_le_succ ih

/-- A text from which a pattern is struck out gets shorter. -/
theorem length_replaceAll_nil_lt (hp : p ≠ []) (h : p <:+: s) :
    (replaceAll p [] s).length < s.length := by
  induction s with
  | nil => exact absurd (List.infix_nil.1 h) hp
  | cons c s ih =>
    by_cases hstarts : p <+: c :: s
    · obtain ⟨after, hafter⟩ := hstarts
      have hle := length_replaceAll_nil_le p after
      have hpos : 0 < p.length := List.length_pos_iff.2 hp
      rw [← hafter, replaceAll_append_self hp, List.nil_append, List.length_append]
      omega
    · rw [replaceAll_cons_of_not_isPrefix hstarts]
      exact Nat.succ_lt_succ (ih ((List.infix_cons_iff.1 h).resolve_left hstarts))

/-! ### Two passes -/

section Passes

open Template

/-- What is read as a member starts with the sigil of one. -/
theorem MemberId.head?_of_parse {raw : String} {member : MemberId}
    (h : MemberId.parse raw = .ok member) : member.text.toList.head? = some '@' := by
  obtain ⟨rfl, hserver⟩ := MemberId.parse_eq_ok_iff.1 h
  obtain ⟨sigil, rest, htext, hsigil, -⟩ := exists_sigil_of_serverPart hserver
  have hat : sigil = '@' := by simpa [IdKind.sigils] using hsigil
  rw [htext, hat, List.head?_cons]

/-- The two passes fill in all placeholders at once, if the first puts in a text that starts as an
identifier does and in which the placeholder for the room may not begin. -/
theorem replaceAll_replaceAll (hm : m.head? = some '@') (hroom : ¬MayBegin roomPlaceholder m)
    (r s : List Char) :
    replaceAll roomPlaceholder r (replaceAll memberPlaceholder m s) =
      (pieces s).flatMap (Piece.fill m r) := by
  have hmember : memberPlaceholder ≠ [] := List.cons_ne_nil _ _
  have hroomFilled : roomPlaceholder ≠ [] := List.cons_ne_nil _ _
  fun_induction pieces s with
  | case1 =>
    rw [replaceAll_nil, replaceAll_nil, List.flatMap_nil]
  | case2 c rest h ih =>
    obtain ⟨after, hafter⟩ := h
    have hdrop : rest.drop 7 = after := by
      rw [← List.drop_succ_cons (a := c), ← hafter]
      rfl
    rw [hdrop] at ih
    rw [hdrop, ← hafter, replaceAll_append_self hmember, replaceAll_append hroom, ih,
      List.flatMap_cons]
    rfl
  | case3 c rest _ h ih =>
    obtain ⟨after, hafter⟩ := h
    have hdrop : rest.drop 5 = after := by
      rw [← List.drop_succ_cons (a := c), ← hafter]
      rfl
    have hapart : ¬MayBegin memberPlaceholder roomPlaceholder := by decide
    rw [hdrop] at ih
    rw [hdrop, ← hafter, replaceAll_append hapart,
      replaceAll_append_self hroomFilled, ih, List.flatMap_cons]
    rfl
  | case4 c rest hnotMember hnotRoom ih =>
    -- the first pass makes no placeholder for the room out of what stands around this character
    have hpassed : ¬roomPlaceholder <+: c :: replaceAll memberPlaceholder m rest := by
      rw [← replaceAll_cons_of_not_isPrefix hnotMember]
      exact fun hp => hnotRoom (prefix_of_prefix_replaceAll hmember hm (by decide) hp)
    rw [replaceAll_cons_of_not_isPrefix hnotMember, replaceAll_cons_of_not_isPrefix hpassed, ih,
      List.flatMap_cons]
    rfl

/-- If the placeholder for the room may begin in a text, some text can follow that completes it and
holds no placeholder itself. -/
theorem exists_completion (h : MayBegin roomPlaceholder m) :
    ∃ q, '\x7b' ∉ q ∧ roomPlaceholder <:+: m ++ q := by
  obtain ⟨t, ⟨before, rfl⟩, hne, hmeets⟩ := h
  rcases hmeets with ⟨q, hq⟩ | hheld
  · refine ⟨q, fun hmem => ?_, before, [], by rw [← hq]; simp⟩
    obtain ⟨c, t, rfl⟩ := List.exists_cons_of_ne_nil hne
    have htail : t ++ q = roomPlaceholder.tail := (List.cons.inj hq).2
    have hmem' : '\x7b' ∈ roomPlaceholder.tail := htail ▸ List.mem_append_right t hmem
    exact absurd hmem' (by decide)
  · refine ⟨[], List.not_mem_nil, ?_⟩
    rw [List.append_nil]
    exact hheld.isInfix.trans (List.suffix_append before t).isInfix

/-- A newcomer in whose identifier the placeholder for the room may begin is greeted wrongly by some
template. -/
theorem exists_refilled {member : MemberId}
    (h : MayBegin roomPlaceholder member.text.toList) :
    ∃ template, renderGreeting template member "" ≠ filled template member "" := by
  obtain ⟨q, hbrace, hinfix⟩ := exists_completion h
  refine ⟨String.ofList (memberPlaceholder ++ q), fun heq => ?_⟩
  have hfirst : replaceAll memberPlaceholder member.text.toList q = q := by
    have hapart : ¬MayBegin memberPlaceholder q := by
      rintro ⟨t, ht, hne, hmeets⟩
      obtain ⟨c, t, rfl⟩ := List.exists_cons_of_ne_nil hne
      have hc : c = '\x7b' := by
        rcases hmeets with hp | hp
        · exact (List.cons_prefix_cons.1 hp).1
        · exact (List.cons_prefix_cons.1 hp).1.symm
      exact hbrace (hc ▸ ht.subset List.mem_cons_self)
    rw [← List.append_nil q, replaceAll_append hapart, replaceAll_nil]
  have hplain : (q.map Piece.plain).flatMap (Piece.fill member.text.toList []) = q := by
    rw [List.flatMap_map]
    exact List.flatMap_singleton' q
  have hmember : memberPlaceholder ≠ [] := List.cons_ne_nil _ _
  have hroom : roomPlaceholder ≠ [] := List.cons_ne_nil _ _
  have hshorter := length_replaceAll_nil_lt hroom hinfix
  have hempty : "".toList = [] := rfl
  rw [renderGreeting, filled, hempty, String.toList_ofList, replaceAll_append_self hmember, hfirst,
    pieces_member, pieces_of_no_brace hbrace, List.flatMap_cons, hplain] at heq
  rw [String.ofList_injective heq] at hshorter
  exact absurd hshorter (Nat.lt_irrefl _)

/-- A greeting is the template with every placeholder filled in at once, whatever the template and
the name of the room are, exactly for the newcomers in whose identifier the placeholder for the room
may not begin. -/
theorem filled_at_once_iff {raw : String} {member : MemberId}
    (h : MemberId.parse raw = .ok member) :
    (∀ template roomName,
      renderGreeting template member roomName = filled template member roomName) ↔
      ¬MayBegin roomPlaceholder member.text.toList := by
  constructor
  · intro hall hbegin
    obtain ⟨template, hne⟩ := exists_refilled hbegin
    exact hne (hall template "")
  · intro hroom template roomName
    rw [renderGreeting, filled, replaceAll_replaceAll (MemberId.head?_of_parse h) hroom]

/-- A brace in the identifier of a newcomer does no harm as long as the placeholder does not go on
behind it. -/
theorem braced_newcomer_filled_at_once :
    MemberId.parse "@\x7broom:x" = .ok ⟨"@\x7broom:x"⟩ ∧ ∀ template roomName,
      renderGreeting template ⟨"@\x7broom:x"⟩ roomName =
        filled template ⟨"@\x7broom:x"⟩ roomName := by
  have hparse : MemberId.parse "@\x7broom:x" = .ok ⟨"@\x7broom:x"⟩ := by decide
  exact ⟨hparse, (filled_at_once_iff hparse).2 (by decide)⟩

/-- A newcomer who is called like the placeholder for the room is greeted by the name of the
room. -/
theorem newcomer_read_as_template :
    ∃ member, MemberId.parse "@\x7broom\x7d:x" = .ok member ∧
      renderGreeting "Hi \x7bmember\x7d in \x7broom\x7d" member "Lobby" = "Hi @Lobby:x in Lobby" ∧
      filled "Hi \x7bmember\x7d in \x7broom\x7d" member "Lobby" =
        "Hi @\x7broom\x7d:x in Lobby" := by
  refine ⟨⟨"@\x7broom\x7d:x"⟩, by decide, ?_, ?_⟩
  · cbv
  · cbv

end Passes

end RoomModeration
