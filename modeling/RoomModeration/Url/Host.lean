import RoomModeration.Text.AsciiCase
import RoomModeration.Text.PercentEncoding

/-!
# Hosts of addresses

The host of an address is a domain name, an IPv4 address, which may be written in several ways, or
an IPv6 address in brackets. Every host has one form in which it is written. For a domain name it is
the name in lower case; the ASCII form of an international domain name (IDNA) is not modelled, and
characters beyond ASCII are kept as they are.

## Main definitions

* `UrlError` : why a text is no address.
* `Host.parse` : the written form of a host.
-/

namespace RoomModeration

/-- Why a text is no address. -/
inductive UrlError where
  /-- The host is missing. -/
  | emptyHost
  /-- The host is no domain name. -/
  | invalidDomain
  /-- The host holds a character that it may not hold. -/
  | invalidDomainCharacter
  /-- The port is no number, or too large. -/
  | invalidPort
  /-- The host looks like an IPv4 address and is none. -/
  | invalidIpv4
  /-- The host in brackets is no IPv6 address. -/
  | invalidIpv6
  /-- There is no scheme. -/
  | relative
  deriving DecidableEq, Repr

/-- The wording of an address error. -/
def UrlError.message : UrlError → String
  | emptyHost => "empty host"
  | invalidDomain => "invalid international domain name"
  | invalidDomainCharacter => "invalid domain character"
  | invalidPort => "invalid port number"
  | invalidIpv4 => "invalid IPv4 address"
  | invalidIpv6 => "invalid IPv6 address"
  | relative => "relative URL without a base"

namespace Host

/-! ### IPv4 -/

/-- A number in decimal, octal or hexadecimal digits. -/
def ipv4Number? (s : List Char) : Option Nat :=
  match s with
  | [] => none
  | '0' :: x :: digits =>
    if x == 'x' || x == 'X' then Text.hexValue? digits
    else (x :: digits).foldlM (fun n c => do
      let d ← Text.hexDigit? c
      if d < 8 then some (n * 8 + d) else none) 0
  | _ => if s.all Char.isDigit then some (Text.digitsValue s) else none

/-- The parts of a dotted host, without the empty one behind a last dot. -/
def dottedParts (s : List Char) : List (List Char) :=
  let parts := s.splitOn '.'
  if parts.getLast? == some [] && 1 < parts.length then parts.dropLast else parts

/-- Whether a host has to be an IPv4 address, because its last part is a number. -/
def endsInNumber (s : List Char) : Bool :=
  match (dottedParts s).getLast? with
  | none | some [] => false
  | some part => part.all Char.isDigit || (ipv4Number? part).isSome

/-- The number that an IPv4 address stands for. The last of its numbers fills the bytes that the
others leave. -/
def ipv4Value? (s : List Char) : Option Nat := do
  let numbers ← (dottedParts s).mapM ipv4Number?
  let last ← numbers.getLast?
  let others := numbers.dropLast
  if 4 < numbers.length || others.any (255 < ·) || Nat.pow 256 (5 - numbers.length) ≤ last then none
  else
    let leading := others.zipIdx.foldl (fun n (part, i) => n + part * Nat.pow 256 (3 - i)) 0
    return leading + last

/-- The written form of an IPv4 address. -/
def writeIpv4 (n : Nat) : String :=
  String.intercalate "." ([3, 2, 1, 0].map fun i => toString (n / Nat.pow 256 i % 256))

/-! ### IPv6 -/

/-- A group of an IPv6 address. -/
def ipv6Group? (s : List Char) : Option Nat :=
  if s.isEmpty || 4 < s.length then none else Text.hexValue? s

/-- The two groups that an IPv4 address at the end of an IPv6 address stands for. -/
def ipv4Groups? (s : List Char) : Option (List Nat) := do
  let parts := s.splitOn '.'
  let numbers ← parts.mapM fun part =>
    if part.isEmpty || 3 < part.length || !part.all Char.isDigit ||
        (1 < part.length && part.head? == some '0') then none
    else some (Text.digitsValue part)
  match numbers with
  | [a, b, c, d] =>
    if numbers.any (255 < ·) then none else return [a * 256 + b, c * 256 + d]
  | _ => none

/-- A row of groups with colons between them; at the very end of an address an IPv4 address may
stand for two groups. -/
def ipv6Groups? (final : Bool) (s : List Char) : Option (List Nat) :=
  if s.isEmpty then some []
  else do
    let parts := s.splitOn ':'
    let last ← parts.getLast?
    if final && last.contains '.' then
      return (← parts.dropLast.mapM ipv6Group?) ++ (← ipv4Groups? last)
    else parts.mapM ipv6Group?

/-- What stands before and behind the first pair of colons. -/
def splitPair : List Char → Option (List Char × List Char)
  | ':' :: ':' :: rest => some ([], rest)
  | c :: rest => (splitPair rest).map fun (a, b) => (c :: a, b)
  | [] => none

/-- The eight groups of an IPv6 address. A pair of colons stands for groups that are zero, at least
one of them. -/
def ipv6? (s : List Char) : Option (List Nat) := do
  match splitPair s with
  | none =>
    let groups ← ipv6Groups? true s
    if groups.length = 8 then some groups else none
  | some (before, behind) =>
    let first ← ipv6Groups? false before
    let second ← ipv6Groups? true behind
    if first.length + second.length ≤ 7 then
      some (first ++ List.replicate (8 - first.length - second.length) 0 ++ second)
    else none

/-- The number of zeros at the start of a row. -/
def zerosAt (groups : List Nat) : Nat :=
  (groups.takeWhile (· == 0)).length

/-- Where the longest run of at least two zeros starts, and how long it is; of equal ones the first
counts. -/
def longestZeros (groups : List Nat) : Nat × Nat :=
  (List.range groups.length).foldl (fun (start, size) i =>
    let here := zerosAt (groups.drop i)
    if size < here && 2 ≤ here then (i, here) else (start, size)) (0, 0)

/-- The written form of an IPv6 address. -/
def writeIpv6 (groups : List Nat) : String :=
  let hex (gs : List Nat) : String :=
    String.intercalate ":" (gs.map fun g => String.ofList (Nat.toDigits 16 g))
  let (start, size) := longestZeros groups
  if size = 0 then s!"[{hex groups}]"
  else s!"[{hex (groups.take start)}::{hex (groups.drop (start + size))}]"

/-! ### All hosts -/

/-- The ASCII characters that a domain name may not hold. -/
def isForbidden (c : Char) : Bool :=
  c.toNat ≤ 0x20 || c.toNat == 0x7F || "%#/:<>?@[\\]^|".toList.contains c

/-- The written form of the host of an address with a known scheme. -/
def parse (s : List Char) : Except UrlError String :=
  match s with
  | '[' :: rest =>
    if rest.getLast? == some ']' then
      match ipv6? rest.dropLast with
      | some groups => .ok (writeIpv6 groups)
      | none => .error .invalidIpv6
    else .error .invalidIpv6
  | _ =>
    match String.fromUTF8? ⟨(Text.percentDecode s).toArray⟩ with
    | none => .error .invalidDomain
    | some decoded =>
      let domain := Text.lower decoded.toList
      if domain.any isForbidden then .error .invalidDomain
      else if domain.isEmpty then .error .emptyHost
      else if endsInNumber domain then
        match ipv4Value? domain with
        | some n => .ok (writeIpv4 n)
        | none => .error .invalidIpv4
      else .ok (String.ofList domain)

/-- The written form of the host of an address with any other scheme. -/
def parseOpaque (s : List Char) : Except UrlError String :=
  match s with
  | '[' :: _ => parse s
  | _ =>
    if s.any fun c => c != '%' && c.toNat ≤ 0x7F && isForbidden c then
      .error .invalidDomainCharacter
    else .ok (String.ofList (Text.percentEncode (fun c => 0x20 ≤ c.toNat && c.toNat < 0x7F) s))

end Host

end RoomModeration
