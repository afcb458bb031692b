/-
Hosts.

In a special scheme a host is a name or a numeric address, and what looks like
an address has to be one. In any other scheme a host that is not in brackets is
taken as it stands.

* **`Host.ofSpecial`** and **`Host.ofPlain`** read the two kinds;
* **`Host.text`** prints a host.
-/
import BookSync.Url.Domain
import BookSync.Url.Fault
import BookSync.Url.Percent

namespace BookSync.Url

/-- A host. -/
inductive Host
  /-- A name, encoded; an empty one stands for no host. -/
  | name (text : String)
  | ipv4 (address : Ipv4)
  | ipv6 (address : Ipv6)
  deriving DecidableEq

namespace Host

/-- Nothing where a host could be. -/
def absent : Host := name ""

/-- There is no host. -/
def isAbsent (h : Host) : Bool := h == absent

/-- The address behind an opening bracket. -/
def ofBracketed (cs : List Char) : Except Fault Host :=
  if cs.getLast? = some ']' then
    match Ipv6.parse? cs.dropLast with
    | some a => .ok (ipv6 a)
    | none => .error .badIpv6
  else .error .badIpv6

/-- A name or an address of four bytes. -/
def ofName (cs : List Char) : Except Fault Host :=
  match Domain.toAscii? (Text.utf8Decode (Percent.decode cs)) with
  | none => .error .badDomain
  | some [] => .error .emptyHost
  | some domain =>
    if Ipv4.endsInNumber domain then
      match Ipv4.parse? domain with
      | some a => .ok (ipv4 a)
      | none => .error .badIpv4
    else .ok (name (String.ofList domain))

/-- The host of a special scheme. -/
def ofSpecial : List Char → Except Fault Host
  | '[' :: cs => ofBracketed cs
  | cs => ofName cs

/-- Characters that no host has as they are. -/
def forbidden : List Char :=
  ['\x00', '\t', '\n', '\r', ' ', '#', '/', ':', '<', '>', '?', '@', '[', '\\', ']', '^', '|']

/-- The host of any other scheme. -/
def ofPlain : List Char → Except Fault Host
  | '[' :: cs => ofBracketed cs
  | cs =>
    if cs.any forbidden.contains then .error .badHostCharacter
    else .ok (name (String.ofList (Percent.encode Percent.bare cs)))

/-- The printed form of a host. -/
def text : Host → List Char
  | name s => s.toList
  | ipv4 a => a.text
  | ipv6 a => '[' :: a.text ++ [']']

end Host

end BookSync.Url
