import RoomModeration.Url.Basic

/-!
# Reading addresses

## Main definitions

* `Url.parse` : the address that a text is.
-/

namespace RoomModeration.Url

/-- A text without the blanks and controls at its ends and without what is left out everywhere. -/
def clean (s : List Char) : List Char :=
  let isOuter (c : Char) : Bool := c.toNat ≤ 0x20
  ((s.dropWhile isOuter).reverse.dropWhile isOuter).reverse.filter (!isDropped ·)

/-- A scheme, in lower case, and what follows its colon. -/
def splitScheme? (s : List Char) : Option (String × List Char) :=
  let isSchemeChar (c : Char) : Bool := c.isAlphanum || c == '+' || c == '-' || c == '.'
  match s.dropWhile isSchemeChar with
  | ':' :: rest =>
    if s.head?.any Char.isAlpha then
      some (String.ofList (Text.lower (s.takeWhile isSchemeChar)), rest)
    else none
  | _ => none

/-- Whether a character ends what stands before the path. -/
def endsAuthority (special : Bool) (c : Char) : Bool :=
  c == '/' || c == '?' || c == '#' || (special && c == '\\')

/-- What stands behind the last at sign, or all of a text that holds none. -/
def afterUser (s : List Char) : List Char :=
  (s.reverse.takeWhile (· != '@')).reverse

/-- A host and what follows it: nothing, or a colon and a port. In brackets colons belong to the
host. -/
def splitHost (bracketed : Bool) : List Char → List Char × List Char
  | [] => ([], [])
  | c :: rest =>
    if c == ':' && !bracketed then ([], c :: rest)
    else
      let (host, after) := splitHost (c == '[' || (bracketed && c != ']')) rest
      (c :: host, after)

/-- A port, if there is one that is not the usual one. -/
def readPort (usual : Option Nat) (digits : List Char) : Except UrlError (Option Nat) :=
  if !digits.all Char.isDigit then .error .invalidPort
  else
    let port := Text.digitsValue digits
    if 65535 < port then .error .invalidPort
    else if digits.isEmpty || usual == some port then .ok none
    else .ok (some port)

/-- How a host and a port are written. -/
def writeAuthority (host : String) (port : Option Nat) : String :=
  host ++ port.elim "" fun p => s!":{p}"

/-- The written form of a host and a port. -/
def readAuthority (scheme : String) (s : List Char) : Except UrlError String := do
  let (host, after) := splitHost false (afterUser s)
  let known := (usualPort? scheme).isSome
  if host.isEmpty && (known || !after.isEmpty) then throw .emptyHost
  let written ← if known then Host.parse host else Host.parseOpaque host
  return writeAuthority written (← readPort (usualPort? scheme) (after.drop 1))

/-- The written form of the host of a file. -/
def readFileHost (s : List Char) : Except UrlError String := do
  if s.isEmpty then return ""
  let host ← Host.parse s
  return if host = "localhost" then "" else host

/-- The text of a path, a query and a fragment. -/
def splitTail (s : List Char) : List Char × Option (List Char) × Option (List Char) :=
  let path := s.takeWhile fun c => c != '?' && c != '#'
  let rest := s.drop path.length
  let behindHash (t : List Char) : Option (List Char) :=
    if t.contains '#' then some ((t.dropWhile (· != '#')).drop 1) else none
  match rest with
  | '?' :: q => (path, some (q.takeWhile (· != '#')), behindHash q)
  | _ => (path, none, behindHash rest)

/-- The segments of a path that starts with a slash. -/
def readSegments (special : Bool) (s : List Char) : List (List Char) :=
  let slashed := if special then s.map fun c => if c == '\\' then '/' else c else s
  resolve [] ((slashed.drop 1).splitOn '/' |>.map (Text.percentEncode keptInPath))

/-- The address with this scheme and host, from what follows the host. -/
def withTail (scheme : String) (authority : Option String) (s : List Char) : Url :=
  let special := isSpecial scheme
  let (path, query, fragment) := splitTail s
  let startsPath := path.head?.any fun c => c == '/' || (special && c == '\\')
  { scheme := scheme
    authority := authority
    path :=
      if startsPath then .segments (readSegments special path)
      else if special then .segments (readSegments special ('/' :: path))
      else if authority.isSome then .segments []
      else .opaqueText (Text.percentEncode (fun c => 0x20 ≤ c.toNat && c.toNat < 0x7F) path)
    query := query.map (Text.percentEncode (keptInQuery special))
    fragment := fragment.map (Text.percentEncode keptInFragment) }

/-- The address that a text is. -/
def parse (s : String) : Except UrlError Url :=
  match splitScheme? (clean s.toList) with
  | none => .error .relative
  | some (scheme, rest) =>
    let special := isSpecial scheme
    let isSlash (c : Char) : Bool := c == '/' || (special && c == '\\')
    let slashes := (rest.takeWhile isSlash).length
    if scheme == "file" then
      if slashes < 2 then .ok (withTail scheme (some "") rest)
      else do
        let behind := rest.drop 2
        let host ← readFileHost (behind.takeWhile (!endsAuthority true ·))
        return withTail scheme (some host) (behind.dropWhile (!endsAuthority true ·))
    else if special || 2 ≤ slashes then do
      let behind := if special then rest.drop slashes else rest.drop 2
      let authority ← readAuthority scheme (behind.takeWhile (!endsAuthority special ·))
      return withTail scheme (some authority) (behind.dropWhile (!endsAuthority special ·))
    else .ok (withTail scheme none rest)

end RoomModeration.Url
