import Failover.Text.Utf8
/-!
# Percent-encoding

A byte that must not stand in a part of a URL is written `%` and two hexadecimal digits.

* the sets of characters that are encoded in each part;
* `Percent.encode` : a text with the characters of a set encoded;
* `Percent.decode` : bytes with every encoded byte put back.
-/

set_option autoImplicit false

namespace Failover.Percent

/-- Controls and everything outside ASCII: encoded in every part. -/
def inControls (c : Char) : Bool :=
  c.toNat < 0x20 || 0x7E < c.toNat

/-- Encoded in fragments. -/
def inFragment (c : Char) : Bool :=
  inControls c || c ∈ [' ', '"', '<', '>', '\x60']

/-- Encoded in queries of schemes without special rules. -/
def inQuery (c : Char) : Bool :=
  inControls c || c ∈ [' ', '"', '#', '<', '>']

/-- Encoded in queries of special schemes. -/
def inSpecialQuery (c : Char) : Bool :=
  inQuery c || c == '\''

/-- Encoded in paths. -/
def inPath (c : Char) : Bool :=
  inQuery c || c ∈ ['?', '^', '\x60', '\x7b', '\x7d']

/-- Encoded in user names and passwords. -/
def inUserinfo (c : Char) : Bool :=
  inPath c || c ∈ ['/', ':', ';', '=', '@', '[', '\\', ']', '|']

/-- The upper-case hexadecimal digit of a value below sixteen. -/
def hexDigit (n : Nat) : Char :=
  if n < 10 then Char.ofNat (0x30 + n) else Char.ofNat (0x37 + n)

/-- One encoded byte. -/
def encodeByte (b : UInt8) : List Char :=
  ['%', hexDigit (b.toNat / 16), hexDigit (b.toNat % 16)]

/-- The text with each character of the set written as its encoded bytes. -/
def encode (set : Char → Bool) (s : List Char) : List Char :=
  s.flatMap fun c => if set c then (String.utf8EncodeChar c).flatMap encodeByte else [c]

/-- The value of a byte that is a hexadecimal digit. -/
def hexValue? (b : UInt8) : Option UInt8 :=
  if 0x30 ≤ b ∧ b ≤ 0x39 then some (b - 0x30)
  else if 0x41 ≤ b ∧ b ≤ 0x46 then some (b - 0x37)
  else if 0x61 ≤ b ∧ b ≤ 0x66 then some (b - 0x57)
  else none

/-- Puts encoded bytes back; a percent sign that encodes nothing stays. -/
def decode : Bytes → Bytes
  | [] => []
  | 0x25 :: h :: l :: r =>
    match hexValue? h, hexValue? l with
    | some x, some y => (x * 16 + y) :: decode r
    | _, _ => 0x25 :: decode (h :: l :: r)
  | b :: r => b :: decode r

end Failover.Percent
