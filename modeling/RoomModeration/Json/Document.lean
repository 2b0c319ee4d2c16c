import RoomModeration.Json.Token

/-!
# The structure of a JSON text

A document is a JSON text with its structure made plain and nothing yet decided about its meaning:
fields may be repeated, strings and numbers may lack a value, and nesting may be as deep as it
likes. What a reader needs of a document it turns into values; the rest it ignores.

The structure is found by one pass over the tokens. The pass keeps the open arrays and objects in a
stack and remembers what may come next.

## Main definitions

* `JsonDocument` : the structure of a text.
* `JsonDocument.ofText?` : the document that a text spells.
* `JsonDocument.toJson?` : the value of a document, if its nesting is shallow enough.
-/

namespace RoomModeration

/-- The structure of a JSON text. -/
inductive JsonDocument where
  /-- The absent value. -/
  | null
  /-- A truth value. -/
  | bool (value : Bool)
  /-- A number, with its value if it is in range. -/
  | number (value : Option JsonNumber)
  /-- A string, with its value if it is a text. -/
  | string (value : Option String)
  /-- A row of documents. -/
  | array (items : List JsonDocument)
  /-- Named documents, in the order of the text. -/
  | object (fields : List (Option String × JsonDocument))

namespace JsonDocument

instance : Inhabited JsonDocument := ⟨null⟩

/-! ### The pass over the tokens -/

/-- An array or object that is still open. Its finished parts are kept in reverse. -/
inductive Frame where
  /-- An open array. -/
  | array (items : List JsonDocument)
  /-- An open object. -/
  | object (fields : List (Option String × JsonDocument))
  /-- An open object whose next field has its name already. -/
  | field (fields : List (Option String × JsonDocument)) (name : Option String)

/-- What may come next. -/
inductive Expectation where
  /-- A value. -/
  | value
  /-- A value, or the end of an array that is still empty. -/
  | firstItem
  /-- A field, or the end of an object that is still empty. -/
  | firstField
  /-- A field. -/
  | field
  /-- The colon of a field. -/
  | colon
  /-- A comma, or the end of the innermost open array or object. -/
  | next
  /-- Nothing: the document is complete. -/
  | nothing (document : JsonDocument)

/-- How far the pass has come: what is open, from the inside out, and what may come next. -/
structure Progress where
  /-- The open arrays and objects, innermost first. -/
  opened : List Frame
  /-- What may come next. -/
  expected : Expectation

/-- A complete value has been read. -/
def Progress.complete (opened : List Frame) (value : JsonDocument) : Option Progress :=
  match opened with
  | [] => some ⟨[], .nothing value⟩
  | .array items :: outer => some ⟨.array (value :: items) :: outer, .next⟩
  | .field fields name :: outer => some ⟨.object ((name, value) :: fields) :: outer, .next⟩
  | .object _ :: _ => none

/-- A token where a value is due. -/
def Progress.value (opened : List Frame) : JsonToken → Option Progress
  | .openArray => some ⟨.array [] :: opened, .firstItem⟩
  | .openObject => some ⟨.object [] :: opened, .firstField⟩
  | .null => complete opened .null
  | .bool b => complete opened (.bool b)
  | .number n => complete opened (.number n)
  | .string s => complete opened (.string s)
  | _ => none

/-- The next token. -/
def Progress.step (p : Progress) (token : JsonToken) : Option Progress :=
  match p.expected, token, p.opened with
  | .value, token, opened => value opened token
  | .firstItem, .closeArray, .array items :: outer => complete outer (.array items.reverse)
  | .firstItem, token, opened => value opened token
  | .firstField, .closeObject, .object fields :: outer => complete outer (.object fields.reverse)
  | .firstField, .string name, .object fields :: outer => some ⟨.field fields name :: outer, .colon⟩
  | .field, .string name, .object fields :: outer => some ⟨.field fields name :: outer, .colon⟩
  | .colon, .colon, opened => some ⟨opened, .value⟩
  | .next, .comma, .array items :: outer => some ⟨.array items :: outer, .value⟩
  | .next, .comma, .object fields :: outer => some ⟨.object fields :: outer, .field⟩
  | .next, .closeArray, .array items :: outer => complete outer (.array items.reverse)
  | .next, .closeObject, .object fields :: outer => complete outer (.object fields.reverse)
  | _, _, _ => none

/-- The document that a row of tokens spells. -/
def ofTokens? (tokens : List JsonToken) : Option JsonDocument := do
  match ← tokens.foldlM Progress.step ⟨[], .value⟩ with
  | ⟨[], .nothing document⟩ => return document
  | _ => none

/-- The document that a text spells. -/
def ofText? (text : List Char) : Option JsonDocument :=
  JsonToken.scan text >>= ofTokens?

/-! ### Values -/

/-- How deep arrays and objects may be nested in one another. -/
def maxDepth : Nat :=
  127

mutual

/-- The value of a document in which arrays and objects are nested at most `depth` deep. -/
def toJson? (depth : Nat) : JsonDocument → Option Json
  | null => some .null
  | bool b => some (.bool b)
  | number n => n.map .number
  | string s => s.map .string
  | array items => if depth = 0 then none else .array <$> toJsonItems? (depth - 1) items
  | object fields => if depth = 0 then none else Json.ofFields <$> toJsonFields? (depth - 1) fields

/-- The values of the items of an array. -/
def toJsonItems? (depth : Nat) : List JsonDocument → Option (List Json)
  | [] => some []
  | d :: rest => do
    let v ← toJson? depth d
    let vs ← toJsonItems? depth rest
    return v :: vs

/-- The values of the fields of an object. -/
def toJsonFields? (depth : Nat) :
    List (Option String × JsonDocument) → Option (List (String × Json))
  | [] => some []
  | (name, d) :: rest => do
    let name ← name
    let v ← toJson? depth d
    let vs ← toJsonFields? depth rest
    return (name, v) :: vs

end

end JsonDocument

/-- The value that a JSON text spells. -/
def Json.ofText? (text : String) : Option Json :=
  JsonDocument.ofText? text.toList >>= JsonDocument.toJson? JsonDocument.maxDepth

end RoomModeration
