/-!
# Letter case of ASCII words

Keywords, mode names and log levels are read without regard to the case of the letters `A` to `Z`;
all other characters are compared as they are.

## Main definitions

* `lower` : the word with its ASCII letters in lower case.
* `sameWord` : equality up to the case of ASCII letters.
-/

namespace RoomModeration.Text

/-- The text with the letters `A` to `Z` in lower case. -/
def lower (s : List Char) : List Char :=
  s.map Char.toLower

/-- Equality up to the case of ASCII letters. -/
def sameWord (s t : String) : Bool :=
  lower s.toList == lower t.toList

@[simp] theorem sameWord_self (s : String) : sameWord s s = true := by
  simp [sameWord]

theorem sameWord_comm (s t : String) : sameWord s t = sameWord t s := by
  simp [sameWord, Bool.beq_comm]

theorem sameWord_eq_true_iff {s t : String} :
    sameWord s t = true ↔ lower s.toList = lower t.toList := by
  simp [sameWord]

end RoomModeration.Text
