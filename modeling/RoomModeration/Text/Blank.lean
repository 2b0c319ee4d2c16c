/-!
# Blank characters and trimming

The blank characters of this library are those of the Unicode property `White_Space`. Text is
worked on as a list of characters; this file holds the class, the two ways of cutting blanks off
the ends of a text, and the number of bytes a text takes in UTF-8, which is the unit of every
position reported to a user.

## Main definitions

* `isBlank` : membership in `White_Space`.
* `trimStart`, `trimEnd`, `trim` : a text without its outer blanks.
* `byteSize` : the length of a text in UTF-8 bytes.

## Main results

* `trimStart_head` : a trimmed text does not start with a blank.
* `byteSize_append` : sizes add up.
-/

namespace RoomModeration.Text

/-- The characters with the Unicode property `White_Space`. -/
def isBlank (c : Char) : Bool :=
  let n := c.toNat
  (9 ≤ n && n ≤ 13) || n == 0x20 || n == 0x85 || n == 0xA0 || n == 0x1680 ||
    (0x2000 ≤ n && n ≤ 0x200A) || n == 0x2028 || n == 0x2029 || n == 0x202F ||
    n == 0x205F || n == 0x3000

/-- A text without the blanks it starts with. -/
def trimStart (s : List Char) : List Char :=
  s.dropWhile isBlank

/-- A text without the blanks it ends with. -/
def trimEnd (s : List Char) : List Char :=
  (s.reverse.dropWhile isBlank).reverse

/-- A text without the blanks at either end. -/
def trim (s : List Char) : List Char :=
  trimEnd (trimStart s)

/-- A trimmed text does not start with a blank. -/
theorem trimStart_head {s : List Char} {c : Char} {r : List Char} (h : trimStart s = c :: r) :
    isBlank c = false := by
  have := List.head?_dropWhile_not isBlank s
  rw [trimStart] at h
  rw [h] at this
  simpa using this

/-- The number of bytes a text takes in UTF-8. -/
def byteSize : List Char → Nat
  | [] => 0
  | c :: r => c.utf8Size + byteSize r

@[simp] theorem byteSize_nil : byteSize [] = 0 := rfl

@[simp] theorem byteSize_cons (c : Char) (r : List Char) :
    byteSize (c :: r) = c.utf8Size + byteSize r := rfl

/-- The size of two texts set one after the other is the sum of their sizes. -/
@[simp] theorem byteSize_append (s t : List Char) :
    byteSize (s ++ t) = byteSize s + byteSize t := by
  induction s with
  | nil => simp
  | cons c r ih => simp [ih, Nat.add_assoc]

end RoomModeration.Text
