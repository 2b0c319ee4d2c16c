import RoomModeration.Url.Host

/-!
# Addresses

An address has a scheme, mostly a host, and a path. The path of an address that can be built upon is
a row of segments. Segments are kept as they are written, so that a slash in a segment can never be
taken for the end of it.

## Main definitions

* `Url` : an address.
* `Url.push` : an address with one more segment.
* `Url.withParameter` : an address with one more parameter.
* `Url.text`, `Url.target` : how an address and its part behind the host are written.
-/

namespace RoomModeration

/-- The path of an address. -/
inductive UrlPath where
  /-- A row of segments, each as it is written. -/
  | segments (segments : List (List Char))
  /-- A text that cannot be built upon. -/
  | opaqueText (text : List Char)
  deriving DecidableEq, Repr

/-- An address. A name and a password that are written before the host are not kept. -/
structure Url where
  /-- The scheme, in lower case. -/
  scheme : String
  /-- The host and, if it is not the usual one, the port, as they are written. -/
  authority : Option String
  /-- The path. -/
  path : UrlPath
  /-- The query, as it is written. -/
  query : Option (List Char)
  /-- The fragment, as it is written. -/
  fragment : Option (List Char)
  deriving DecidableEq, Repr

namespace Url

/-- The usual port of a scheme whose hosts are domain names; `none` for all other schemes. -/
def usualPort? (scheme : String) : Option Nat :=
  [("http", 80), ("https", 443), ("ws", 80), ("wss", 443), ("ftp", 21)].lookup scheme

/-- Whether backslashes count as slashes in the addresses of a scheme. -/
def isSpecial (scheme : String) : Bool :=
  scheme == "file" || (usualPort? scheme).isSome

/-! ### Characters -/

/-- The characters that stand for themselves in a path. -/
def keptInPath (c : Char) : Bool :=
  0x20 < c.toNat && c.toNat < 0x7F && !"\"#<>?`\x7b\x7d".toList.contains c

/-- The characters that stand for themselves in a segment that is put into a path. -/
def keptInSegment (special : Bool) (c : Char) : Bool :=
  keptInPath c && c != '/' && c != '%' && !(special && c == '\\')

/-- The characters that stand for themselves in a query. -/
def keptInQuery (special : Bool) (c : Char) : Bool :=
  0x20 < c.toNat && c.toNat < 0x7F && !"\"#<>".toList.contains c && !(special && c == '\'')

/-- The characters that stand for themselves in a fragment. -/
def keptInFragment (c : Char) : Bool :=
  0x20 < c.toNat && c.toNat < 0x7F && !"\"<>`".toList.contains c

/-- The characters that stand for themselves in a parameter. -/
def keptInParameter (c : Char) : Bool :=
  c.isAlphanum || c == '*' || c == '-' || c == '.' || c == '_'

/-- A name or a value of a parameter, as it is written. -/
def encodeParameter (s : List Char) : List Char :=
  s.flatMap fun c => if c == ' ' then ['+'] else Text.percentEncode keptInParameter [c]

/-- The characters that are left out wherever they occur. -/
def isDropped (c : Char) : Bool :=
  c == '\t' || c == '\n' || c == '\r'

/-! ### Paths -/

/-- Whether a written segment means the segment itself. -/
def isSingleDot (segment : List Char) : Bool :=
  Text.lower segment == ['.'] || Text.lower segment == ['%', '2', 'e']

/-- Whether a written segment means the segment above. -/
def isDoubleDot (segment : List Char) : Bool :=
  [['.', '.'], ['.', '%', '2', 'e'], ['%', '2', 'e', '.'], ['%', '2', 'e', '%', '2', 'e']].contains
    (Text.lower segment)

/-- The segments of a path, of which so many more are written. -/
def resolve (passed : List (List Char)) : List (List Char) → List (List Char)
  | [] => passed
  | [segment] =>
    if isDoubleDot segment then passed.dropLast ++ [[]]
    else if isSingleDot segment then passed ++ [[]]
    else passed ++ [segment]
  | segment :: rest =>
    if isDoubleDot segment then resolve passed.dropLast rest
    else if isSingleDot segment then resolve passed rest
    else resolve (passed ++ [segment]) rest

/-- A path with one more segment, which is put where the path ends in a lone slash, and behind the
last segment otherwise. A segment that is a dot or two is passed over. -/
def pushSegment (special : Bool) (segments : List (List Char)) (segment : List Char) :
    List (List Char) :=
  if segment == ['.'] || segment == ['.', '.'] then segments
  else
    let written := Text.percentEncode (keptInSegment special) (segment.filter (!isDropped ·))
    let before := if segments == [[]] then [] else segments
    resolve before [written]

/-- An address whose path does not end in an empty segment. -/
def withoutTrailingSlash (u : Url) : Url :=
  match u.path with
  | .segments segments =>
    if segments.getLast? == some [] && 1 < segments.length then
      { u with path := .segments segments.dropLast }
    else u
  | .opaqueText _ => u

/-- An address with one more segment; one that cannot be built upon stays as it is. -/
def push (u : Url) (segment : String) : Url :=
  match u.path with
  | .segments segments =>
    { u with path := .segments (pushSegment (isSpecial u.scheme) segments segment.toList) }
  | .opaqueText _ => u

/-- An address with more segments. -/
def pushAll (u : Url) (segments : List String) : Url :=
  segments.foldl push u

/-- An address with one more parameter. -/
def withParameter (u : Url) (name value : String) : Url :=
  let pair := encodeParameter name.toList ++ ['='] ++ encodeParameter value.toList
  let query := match u.query with
    | none | some [] => pair
    | some q => q ++ ['&'] ++ pair
  { u with query := some query }

/-- Whether an address can be built upon. -/
def isBase (u : Url) : Bool :=
  match u.path with
  | .segments _ => true
  | .opaqueText _ => false

/-! ### Writing -/

/-- How a path is written. -/
def pathText (u : Url) : List Char :=
  match u.path with
  | .segments segments => segments.flatMap fun s => '/' :: s
  | .opaqueText s => s

/-- How the part of an address behind its host is written. -/
def target (u : Url) : List Char :=
  u.pathText ++ u.query.elim [] ('?' :: ·)

/-- How an address is written. -/
def text (u : Url) : String :=
  u.scheme ++ ":" ++ u.authority.elim "" ("//" ++ ·) ++ String.ofList u.target ++
    String.ofList (u.fragment.elim [] ('#' :: ·))

end Url

end RoomModeration
