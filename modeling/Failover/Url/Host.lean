import Failover.Net.Address
import Failover.Url.Idna
import Failover.Url.Percent
/-!
# Hosts of URLs

* `Host` : a registered name or an address;
* `Host.special?` : the host of a URL whose scheme has special rules: names are domain names, and
  names that end in a number are IPv4 addresses in any of their number forms;
* `Host.opaque?` : the host of any other URL, kept as written;
* `Host.text` : the form that stands in a URL.
-/

set_option autoImplicit false

namespace Failover

/-- Why a text is no URL, or a URL cannot be changed as asked. -/
inductive UrlFault where
  | emptyHost
  | badDomain
  | badPort
  | badIpv4
  | badIpv6
  | badHostCharacter
  | relative
  | opaquePath
deriving DecidableEq, Repr

namespace UrlFault

/-- What the fault is called in reports. -/
def message : UrlFault → String
  | emptyHost => "empty host"
  | badDomain => "invalid international domain name"
  | badPort => "invalid port number"
  | badIpv4 => "invalid IPv4 address"
  | badIpv6 => "invalid IPv6 address"
  | badHostCharacter => "invalid domain character"
  | relative => "relative URL without a base"
  | opaquePath => "a cannot-be-a-base URL doesn\u2019t have a host to set"

end UrlFault

/-- The host of a URL. -/
inductive Host where
  | name (text : String)
  | ipv4 (ip : Ipv4)
  | ipv6 (ip : Ipv6)
deriving DecidableEq, Repr

namespace Host

/-- The form that stands in a URL. -/
def text : Host → String
  | name t => t
  | ipv4 ip => String.ofList ip.text
  | ipv6 ip => String.ofList ('[' :: ip.compressed ++ [']'])

/-- The value of a number in an IPv4 address: decimal, octal after `0`, hexadecimal after `0x`. -/
def number? (s : List Char) : Option Nat :=
  match s with
  | [] => none
  | ['0'] => some 0
  | '0' :: 'x' :: r => if r.isEmpty then some 0 else Text.number? 16 r
  | '0' :: 'X' :: r => if r.isEmpty then some 0 else Text.number? 16 r
  | '0' :: r => Text.number? 8 r
  | r => Text.number? 10 r

/-- The pieces between dots, without the empty one behind a trailing dot. -/
def dotted (s : List Char) : List (List Char) :=
  let ps := Text.pieces '.' s
  match ps.getLast? with
  | some [] => ps.dropLast
  | _ => ps

/-- Whether the last piece of a domain name is a number. -/
def endsInNumber (s : List Char) : Bool :=
  match (dotted s).getLast? with
  | none => false
  | some [] => false
  | some last => last.all (fun c => (Text.digit? 10 c).isSome) || (number? last).isSome

/-- The numbers of the pieces, if every piece is one. -/
def numbers? : List (List Char) → Option (List Nat)
  | [] => some []
  | p :: ps => do
    let n ← number? p
    let ns ← numbers? ps
    pure (n :: ns)

/-- The 32-bit value of one to four numbers, of which the last fills all remaining octets. -/
def combine? : Nat → List Nat → Option Nat
  | _, [] => none
  | room, [n] => if n < 256 ^ room then some n else none
  | room, n :: ns => do
    let low ← combine? (room - 1) ns
    if n < 256 then pure (n * 256 ^ (room - 1) + low) else none

/-- Reads an IPv4 address in one of its number forms. -/
def ipv4? (s : List Char) : Option Ipv4 :=
  let ps := dotted s
  if 4 < ps.length then none
  else ((numbers? ps).bind (combine? 4)).map Ipv4.ofNat

/-- Reads an address between brackets. -/
def bracketed? (s : List Char) : Except UrlFault Host :=
  if s.getLast? = some ']' then
    match Ipv6.parse? ((s.drop 1).dropLast) with
    | some ip => .ok (.ipv6 ip)
    | none => .error .badIpv6
  else .error .badIpv6

/-- The text with percent-encoded bytes put back, if it is UTF-8. -/
def unescaped? (s : List Char) : Option (List Char) :=
  if s.contains '%' then Text.Utf8.decode? (Percent.decode (Text.Utf8.encode s)) else some s

/-- Reads the host of a URL with special rules. -/
def special? [DomainNames] (s : List Char) : Except UrlFault Host :=
  if s.head? = some '[' then bracketed? s
  else
    match (unescaped? s).bind Idna.toAscii? with
    | none => .error .badDomain
    | some d =>
      if d.isEmpty then .error .emptyHost
      else if endsInNumber d then
        match ipv4? d with
        | some ip => .ok (.ipv4 ip)
        | none => .error .badIpv4
      else .ok (.name (String.ofList d))

/-- Characters that no host holds. -/
def isForbidden (c : Char) : Bool :=
  c ∈ ['\x00', '\t', '\n', '\r', ' ', '#', '/', ':', '<', '>', '?', '@', '[', '\\', ']', '^', '|']

/-- Reads the host of a URL without special rules. -/
def opaque? (s : List Char) : Except UrlFault Host :=
  if s.head? = some '[' then bracketed? s
  else if s.any isForbidden then .error .badHostCharacter
  else .ok (.name (String.ofList (Percent.encode Percent.inControls s)))

end Host

end Failover
