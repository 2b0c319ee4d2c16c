import RoomModeration.Room.Transition

/-!
# What an event means

An event that says something of a membership is no message, so that each event that counts means one
thing only.

## Main results

* `Event.meaning_of_content` : what a well formed membership event means.
* `Event.chat_of_meaning`, `Event.membership_of_meaning` : where a meaning comes from.
-/

namespace RoomModeration

variable {e : Event} {selfId : MemberId} {readyTs : Timestamp} {store : RoomStore} {room : RoomId}

namespace Event

theorem isMembership_of_content {content : MemberContent} (h : e.memberContent = .content content) :
    e.isMembership = true := by
  unfold memberContent at h
  split at h
  · assumption
  · cases h

/-- A membership event is no message. -/
theorem textBody?_eq_none_of_isMembership (h : e.isMembership = true) : e.textBody? = none := by
  have hkind : e.kind = memberKind := beq_iff_eq.1 h
  unfold textBody?
  rw [if_neg]
  rintro ⟨hmessage, -⟩
  rw [hkind] at hmessage
  exact absurd hmessage (by decide)

/-- A fresh and well formed membership event means what its content means. -/
theorem meaning_of_content {content : MemberContent} (hfresh : ¬ e.timestamp ≤ readyTs)
    (h : e.memberContent = .content content) :
    e.meaning selfId readyTs store room = content.meaning selfId store room e.sender e.subject := by
  rw [meaning, if_neg hfresh, textBody?_eq_none_of_isMembership (isMembership_of_content h), h]

/-- A message is fresh, and its text is that of the event. -/
theorem chat_of_meaning {sender : MemberId} {body : String}
    (h : e.meaning selfId readyTs store room = .chat sender body) :
    ¬ e.timestamp ≤ readyTs ∧ sender = e.sender ∧ e.textBody? = some body := by
  unfold meaning at h
  split at h
  · cases h
  · next hfresh =>
    cases htext : e.textBody? with
    | some text =>
      rw [htext] at h
      cases h
      exact ⟨hfresh, rfl, rfl⟩
    | none =>
      rw [htext] at h
      cases hcontent : e.memberContent with
      | unrelated | malformed =>
        rw [hcontent] at h
        cases h
      | content content =>
        rw [hcontent] at h
        unfold MemberContent.meaning at h
        dsimp only at h
        split at h
        · split at h <;> cases h
        all_goals cases h

/-- A change of membership is fresh; it comes from a membership event, and from its content if that
can be read. -/
theorem membership_of_meaning {t : Transition}
    (h : e.meaning selfId readyTs store room = .membership t) :
    ¬ e.timestamp ≤ readyTs ∧ e.textBody? = none ∧
      (e.memberContent = .malformed ∧ t = .other "" ∨
        ∃ content, e.memberContent = .content content ∧
          content.meaning selfId store room e.sender e.subject = .membership t) := by
  unfold meaning at h
  split at h
  · cases h
  · next hfresh =>
    cases htext : e.textBody? with
    | some text =>
      rw [htext] at h
      cases h
    | none =>
      rw [htext] at h
      refine ⟨hfresh, rfl, ?_⟩
      cases hcontent : e.memberContent with
      | unrelated =>
        rw [hcontent] at h
        cases h
      | malformed =>
        rw [hcontent] at h
        cases h
        exact .inl ⟨rfl, rfl⟩
      | content content =>
        rw [hcontent] at h
        exact .inr ⟨content, rfl, h⟩

end Event

end RoomModeration
