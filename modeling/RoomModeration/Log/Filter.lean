import RoomModeration.Log.Description
import RoomModeration.Text.AsciiCase
import RoomModeration.Text.Blank
import RoomModeration.Text.Decimal

/-!
# Which notices are shown

A filter is a row of directives separated by commas. A directive gives a level, or a level for one
part of the program, or a level for what is said during an activity. Of several directives that
concern a part of the program the one that names it most exactly counts. Without directives only
errors are shown.

## Main definitions

* `LogFilter.parse?` : the filter that a text gives, if all its directives are well formed.
* `LogFilter.ofText` : the filter that its well formed directives give.
* `LogFilter.choose` : the filter that applies.
* `LogFilter.shows` : whether a notice is shown.
-/

namespace RoomModeration

/-- What a directive says about activities. -/
structure ActivityPattern where
  /-- The name of the activity, if it has to have one. -/
  name : Option String
  /-- A field that the activity has to have, and the value if it has to have one. -/
  field : Option (String × Option String)
  deriving DecidableEq, Repr

/-- Whether an activity is what a pattern says. -/
def ActivityPattern.fits (p : ActivityPattern) (a : Activity) : Bool :=
  let (name, fields) := a.description
  p.name.all (· == name) &&
    p.field.all fun (k, v) => fields.any fun (k', v') => k == k' && v.all (· == v')

/-- A directive of a filter. -/
structure Directive where
  /-- How many levels are shown. -/
  rank : Nat
  /-- The part of the program that it is about; all parts, if absent. -/
  target : Option String
  /-- The activities that it is about; absent if it is about none. -/
  activity : Option ActivityPattern
  deriving DecidableEq, Repr

/-- A filter. -/
abbrev LogFilter := List Directive

namespace Directive

/-! ### Reading -/

/-- The number of levels that a word shows, in any case of its letters. -/
def rankOf? (word : List Char) : Option Nat :=
  let words := [("off", 0), ("error", 1), ("warn", 2), ("info", 3), ("debug", 4), ("trace", 5)]
  let digits := if word.head? == some '+' then word.drop 1 else word
  if !digits.isEmpty && digits.all Char.isDigit then
    let n := Text.digitsValue digits
    if n ≤ 5 then some n else none
  else words.lookup (String.ofList (Text.lower word))

/-- What a directive shows that names no level. -/
def allRank : Nat := LogLevel.trace.rank

/-- The number of levels that what follows an equals sign shows. -/
def rankAfter? (word : List Char) : Option Nat :=
  if word.isEmpty then some allRank else rankOf? word

/-- The directive that is a level or else a part of the program. -/
def ofWord (word : List Char) : Directive :=
  match rankOf? word with
  | some rank => ⟨rank, none, none⟩
  | none => ⟨allRank, some (String.ofList word), none⟩

/-- A field and, behind an equals sign, its value. -/
def field? (s : List Char) : Option (String × Option String) :=
  let name := s.takeWhile (· != '=')
  match s.drop name.length with
  | _ :: value => some (String.ofList name, some (String.ofList value))
  | [] => if name.isEmpty then none else some (String.ofList name, none)

/-- What a directive says between its brackets. -/
def pattern? (s : List Char) : Option ActivityPattern :=
  let name := s.takeWhile (· != '\x7b')
  match s.drop name.length with
  | [] => some ⟨some (String.ofList name), none⟩
  | _ :: rest =>
    if rest.getLast? == some '\x7d' then
      (field? rest.dropLast).map fun field =>
        ⟨if name.isEmpty then none else some (String.ofList name), some field⟩
    else none

/-- The directive with brackets that stand at a position. -/
def ofBrackets? (target : Option String) (s : List Char) (position : Nat) : Option Directive := do
  let inner := (s.drop (position + 1)).takeWhile (· != ']')
  let pattern ← pattern? inner
  match s.drop (position + 1 + inner.length) with
  | [_] => some ⟨allRank, target, some pattern⟩
  | _ :: '=' :: level => (rankAfter? level).map fun rank => ⟨rank, target, some pattern⟩
  | _ => none

/-- Whether a directive can start with a character. -/
def mayStart (c : Char) : Bool :=
  c == '-' || c == ':' || c == '_' || c.isAlphanum || 0x80 ≤ c.toNat

/-- The directive that a text is. Blanks around it are passed over where the text is taken apart,
but its parts are counted off from the start of the whole. -/
def parse? (text : List Char) : Option Directive :=
  match Text.trim text with
  | [] => none
  | '[' :: _ => ofBrackets? none text 0
  | c :: rest =>
    if !mayStart c then none
    else
      let position := ((c :: rest).takeWhile fun c => c != '=' && c != '[').length
      let target := String.ofList (text.take position)
      match (c :: rest)[position]? with
      | none => some (ofWord text)
      | some '=' =>
        (rankAfter? (text.drop (position + 1))).map fun rank => ⟨rank, some target, none⟩
      | some _ => ofBrackets? (some target) text position

/-! ### Using -/

/-- Whether a directive concerns a part of the program. -/
def concerns (d : Directive) (target : String) : Bool :=
  d.target.all fun t => t.toList.isPrefixOf target.toList

/-- How exactly a directive names a part of the program. -/
def exactness (d : Directive) : Nat :=
  d.target.elim 0 fun t => t.utf8ByteSize + 1

end Directive

namespace LogFilter

/-- The directives of a text, as they are written. -/
def pieces (text : String) : List (List Char) :=
  (text.toList.splitOn ',').filter (!·.isEmpty)

/-- The filter of some directives; errors are shown if there is none. -/
def ofDirectives (directives : List Directive) : LogFilter :=
  if directives.isEmpty then [⟨1, none, none⟩] else directives

/-- The filter that a text gives, if all its directives are well formed. -/
def parse? (text : String) : Option LogFilter :=
  ofDirectives <$> (pieces text).mapM Directive.parse?

/-- The filter that the well formed directives of a text give. -/
def ofText (text : String) : LogFilter :=
  ofDirectives ((pieces text).filterMap Directive.parse?)

/-- What is said about the directives of a text that are not well formed. -/
def complaints (text : String) : List String :=
  ((pieces text).filter (Directive.parse? · |>.isNone)).map fun piece =>
    s!"ignoring `{String.ofList piece}`: invalid filter directive"

/-- The filter that the operator asks for, if it is well formed, or else the one that is
configured, and what is said about it. -/
def choose (asked : Option String) (configured : String) : LogFilter × List String :=
  match asked >>= parse? with
  | some f => (f, [])
  | none => (ofText configured, complaints configured)

/-- Of two directives the one that names the part more exactly; of equally exact ones the later. -/
def moreExact (best : Option Directive) (d : Directive) : Option Directive :=
  match best with
  | none => some d
  | some b => if b.exactness ≤ d.exactness then some d else some b

/-- How many levels are shown of a part of the program. -/
def rankFor (f : LogFilter) (target : String) : Nat :=
  let fitting := f.filter fun d => d.activity.isNone && d.concerns target
  (fitting.foldl moreExact none).elim 0 Directive.rank

/-- Whether what is said during some activities is shown down to a level. -/
def opensDuring (f : LogFilter) (activities : List Activity) (level : LogLevel) : Bool :=
  f.any fun d => level.rank ≤ d.rank &&
    d.activity.any fun pattern => activities.any pattern.fits

/-- Whether a notice given during some activities is shown. -/
def shows (f : LogFilter) (activities : List Activity) (d : Description) : Bool :=
  d.level.rank ≤ f.rankFor d.target || f.opensDuring activities d.level

/-- The part of the program that activities are named by. -/
def activityTarget : String := Description.part "telemetry::spans"

/-- Whether an activity is named around the notices given during it. -/
def showsActivity (f : LogFilter) (a : Activity) : Bool :=
  LogLevel.info.rank ≤ f.rankFor activityTarget ||
    f.any fun d => LogLevel.info.rank ≤ d.rank && d.activity.any (·.fits a)

end LogFilter

end RoomModeration
