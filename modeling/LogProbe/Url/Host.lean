/-
**Hosts of URLs.** A host is a domain, an address of four bytes, or an address of eight pieces.

* `Url.Host` and `Url.Host.text` — the hosts and how they are written: an address of eight pieces
  stands in brackets, its longest run of zeros left out.
* `Url.Host.inAscii` — a domain with all labels in ASCII. Other characters are folded and composed,
  and stand in Punycode.
* `Url.Host.ofText` — the host of a URL with a special scheme. It is percent-decoded and written in
  ASCII, its letters are made lower case, and a domain whose last label is a number has to be an
  address of four bytes.
* `Url.Host.opaqueHost` — the host of any other URL, which is kept as it is.
-/

import LogProbe.Url.Label
import LogProbe.Url.Percent

namespace LogProbe.Url

/-- Why a text is no URL. -/
inductive ParseError where
  | relative
  | emptyHost
  | invalidPort
  | invalidIpv4
  | invalidIpv6
  | invalidDomain
  | invalidDomainCharacter
deriving DecidableEq

/-- A parse error in words. -/
def ParseError.message : ParseError → String
  | relative => "relative URL without a base"
  | emptyHost => "empty host"
  | invalidPort => "invalid port number"
  | invalidIpv4 => "invalid IPv4 address"
  | invalidIpv6 => "invalid IPv6 address"
  | invalidDomain => "invalid international domain name"
  | invalidDomainCharacter => "invalid domain character"

/-- A host. -/
inductive Host where
  | domain (name : String)
  | ipv4 (address : Nat)
  | ipv6 (pieces : List Nat)
deriving DecidableEq

/-- A decimal digit. -/
def isDecimal (c : Char) : Bool := '0' ≤ c && c ≤ '9'

/-- The number of digits of a base, if all are. -/
def numberIn? (base : Nat) (digits : List Char) : Option Nat :=
  digits.foldlM
    (fun value c => do
      let digit ← Percent.digit? c
      if digit < base then some (value * base + digit) else none)
    0

/-- The number of a part of an address: hexadecimal after `0x`, octal after another zero in front,
else decimal. Nothing but the mark of the base stands for zero. -/
def partNumber? (part : List Char) : Option Nat :=
  match part with
  | [] => none
  | '0' :: 'x' :: digits | '0' :: 'X' :: digits => numberIn? 16 digits
  | '0' :: c :: digits => numberIn? 8 (c :: digits)
  | digits => numberIn? 10 digits

/-- The parts between dots; a dot at the end closes the last one. -/
def addressParts (name : List Char) : List (List Char) :=
  let parts := name.splitOn '.'
  if parts.getLast? = some [] then parts.dropLast else parts

/-- Whether the last label of a domain is a number, in any of the ways to write one. -/
def endsInNumber (name : List Char) : Bool :=
  match (addressParts name).getLast? with
  | none => false
  | some last => (last ≠ [] && last.all isDecimal) || (partNumber? last).isSome

/-- The address of at most four parts. All but the last are bytes; the last one fills the rest. -/
def ipv4? (name : List Char) : Option Nat := do
  let numbers ← (addressParts name).mapM partNumber?
  let last ← numbers.getLast?
  let front := numbers.dropLast
  if 4 < numbers.length ∨ Nat.pow 256 (4 - front.length) ≤ last ∨ front.any (255 < ·) then none
  else some (Bytes.toNat (front.map UInt8.ofNat) * Nat.pow 256 (4 - front.length) + last)

/-- A byte of an address in decimal, without zeros in front. -/
def octet? (part : List Char) : Option Nat :=
  match part with
  | [] => none
  | '0' :: _ :: _ => none
  | digits => do
    let value ← numberIn? 10 digits
    if value ≤ 255 then some value else none

/-- A piece of an address: one to four hexadecimal digits. -/
def piece? (group : List Char) : Option Nat :=
  if group = [] ∨ 4 < group.length then none else numberIn? 16 group

/-- The two pieces of an address of four bytes. -/
def embeddedIpv4? (group : List Char) : Option (List Nat) := do
  match ← (group.splitOn '.').mapM octet? with
  | [a, b, c, d] => some [a * 256 + b, c * 256 + d]
  | _ => none

/-- The pieces of the groups between colons; the last group may be an address of four bytes. -/
def pieces? : List (List Char) → Option (List Nat)
  | [] => some []
  | [group] =>
    match piece? group with
    | some piece => some [piece]
    | none => embeddedIpv4? group
  | group :: rest => do
    let piece ← piece? group
    let pieces ← pieces? rest
    some (piece :: pieces)

/-- The pieces of a text that may be empty. -/
def side? (text : List Char) : Option (List Nat) :=
  if text = [] then some [] else pieces? (text.splitOn ':')

/-- The texts around the first two colons that stand together. -/
def splitAtGap : List Char → Option (List Char × List Char)
  | ':' :: ':' :: rest => some ([], rest)
  | c :: rest => do
    let (before, after) ← splitAtGap rest
    some (c :: before, after)
  | [] => none

/-- The eight pieces of an address. A gap stands for at least one piece that is zero. -/
def ipv6? (text : List Char) : Option (List Nat) :=
  match splitAtGap text with
  | none => do
    let pieces ← side? text
    if pieces.length = 8 then some pieces else none
  | some (before, after) => do
    if before.contains '.' then none
    else
      let front ← side? before
      let back ← side? after
      let given := front.length + back.length
      if given ≤ 7 then some (front ++ List.replicate (8 - given) 0 ++ back) else none

namespace Host

/-- How many zeros a list begins with. -/
def zeroRun (pieces : List Nat) : Nat := (pieces.takeWhile (· = 0)).length

/-- Where the longest run of at least two zeros begins, and its length; of equal ones the first. -/
def longestZeroRun (pieces : List Nat) : Option (Nat × Nat) :=
  (List.range pieces.length).foldl
    (fun best start =>
      let run := zeroRun (pieces.drop start)
      let size := match best with
        | some (_, size) => size
        | none => 1
      if size < run then some (start, run) else best)
    none

/-- Pieces in hexadecimal with colons between them. -/
def groups (pieces : List Nat) : String :=
  ":".intercalate (pieces.map fun piece => String.ofList (Nat.toDigits 16 piece))

/-- A host as it is written. -/
def text : Host → String
  | domain name => name
  | ipv4 address =>
    ".".intercalate ((Bytes.ofNat 4 address).map fun byte => toString byte.toNat)
  | ipv6 pieces =>
    match longestZeroRun pieces with
    | none => "[" ++ groups pieces ++ "]"
    | some (start, size) =>
      "[" ++ groups (pieces.take start) ++ "::" ++ groups (pieces.drop (start + size)) ++ "]"

/-- The characters that no domain holds. -/
def isForbidden (c : Char) : Bool :=
  c.toNat ≤ 0x20 || 0x7F ≤ c.toNat ||
    ['%', '#', '/', ':', '<', '>', '?', '@', '[', '\\', ']', '^', '|'].contains c

/-- The characters that no host of any scheme holds. -/
def isOpaqueForbidden (c : Char) : Bool :=
  ['\x00', '\t', '\n', '\r', ' ', '#', '/', ':', '<', '>', '?', '@', '[', '\\', ']', '^',
    '|'].contains c

/-- The address between brackets. -/
def bracketed (inner : List Char) : Except ParseError Host :=
  match inner.getLast? with
  | some ']' =>
    match ipv6? inner.dropLast with
    | some pieces => .ok (.ipv6 pieces)
    | none => .error .invalidIpv6
  | _ => .error .invalidIpv6

/-- A domain in ASCII. -/
def inAscii (domain : List Char) : List Char :=
  if domain.all (·.toNat < 0x80) then domain
  else ['.'].intercalate (((Text.composed (Text.folded domain)).splitOn '.').map Label.inAscii)

/-- The host of a domain or an address of four bytes. -/
def ofDomain (decoded : List Char) : Except ParseError Host :=
  let name := (inAscii decoded).map Char.toLower
  if name.any isForbidden || !Label.areNames (name.splitOn '.') then .error .invalidDomain
  else if name = [] then .error .emptyHost
  else if endsInNumber name then
    match ipv4? name with
    | some address => .ok (.ipv4 address)
    | none => .error .invalidIpv4
  else .ok (.domain (String.ofList name))

/-- The host of a URL with a special scheme. -/
def ofText (text : List Char) : Except ParseError Host :=
  match text with
  | '[' :: inner => bracketed inner
  | text =>
    match Utf8.decode? (Percent.decode text) with
    | none => .error .invalidDomain
    | some decoded => ofDomain decoded

/-- The host of a URL with any other scheme; an empty text is no host. -/
def opaqueHost (text : List Char) : Except ParseError (Option Host) :=
  match text with
  | [] => .ok none
  | '[' :: inner => (bracketed inner).map some
  | text =>
    if text.any isOpaqueForbidden then .error .invalidDomainCharacter
    else .ok (some (.domain (String.ofList (Percent.encode Percent.controls text))))

end Host

end LogProbe.Url
