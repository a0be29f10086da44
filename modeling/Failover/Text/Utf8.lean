/-!
# UTF-8

Bytes of texts and texts of bytes.

* `Utf8.encode` : the bytes of a text;
* `Utf8.decode` : the characters of a byte sequence, with a hole for each maximal malformed part;
* `Utf8.decode?` : the text, when no part is malformed;
* `Utf8.decodeLossy` : the text with U+FFFD in the holes.
-/

set_option autoImplicit false

namespace Failover

/-- A sequence of bytes. -/
abbrev Bytes := List UInt8

namespace Text.Utf8

/-- The bytes of a text. -/
def encode (s : List Char) : Bytes :=
  s.flatMap String.utf8EncodeChar

/-- A character whose first bytes have been read: how many are still to come, the bits so far, and the
smallest and the largest byte that may come next. -/
structure Partial where
  missing : Nat
  bits : Nat
  low : Nat
  high : Nat

/-- What a byte means where a character starts. -/
inductive Start where
  | whole (c : Char)
  | opening (p : Partial)
  | malformed

/-- Classifies a byte at the start of a character. -/
def start (b : UInt8) : Start :=
  let n := b.toNat
  if n < 0x80 then .whole (Char.ofNat n)
  else if n < 0xC2 then .malformed
  else if n < 0xE0 then .opening ⟨1, n - 0xC0, 0x80, 0xBF⟩
  else if n = 0xE0 then .opening ⟨2, 0, 0xA0, 0xBF⟩
  else if n = 0xED then .opening ⟨2, 13, 0x80, 0x9F⟩
  else if n < 0xF0 then .opening ⟨2, n - 0xE0, 0x80, 0xBF⟩
  else if n = 0xF0 then .opening ⟨3, 0, 0x90, 0xBF⟩
  else if n < 0xF4 then .opening ⟨3, n - 0xF0, 0x80, 0xBF⟩
  else if n = 0xF4 then .opening ⟨3, 4, 0x80, 0x8F⟩
  else .malformed

/-- The characters of the bytes, after the part of a character read before them. -/
def decodeFrom : Option Partial → Bytes → List (Option Char)
  | none, [] => []
  | some _, [] => [none]
  | none, b :: bs =>
    match start b with
    | .whole c => some c :: decodeFrom none bs
    | .opening p => decodeFrom (some p) bs
    | .malformed => none :: decodeFrom none bs
  | some p, b :: bs =>
    let n := b.toNat
    if p.low ≤ n ∧ n ≤ p.high then
      let bits := p.bits * 64 + (n - 0x80)
      if p.missing ≤ 1 then some (Char.ofNat bits) :: decodeFrom none bs
      else decodeFrom (some ⟨p.missing - 1, bits, 0x80, 0xBF⟩) bs
    else
      none :: match start b with
        | .whole c => some c :: decodeFrom none bs
        | .opening q => decodeFrom (some q) bs
        | .malformed => none :: decodeFrom none bs

/-- The characters of the bytes; `none` stands for one maximal malformed part. -/
def decode (bs : Bytes) : List (Option Char) :=
  decodeFrom none bs

/-- The text of the bytes, if no part is malformed. -/
def decode? (bs : Bytes) : Option (List Char) :=
  let cs := decode bs
  if cs.all Option.isSome then some (cs.filterMap id) else none

/-- The text of the bytes, each malformed part replaced by U+FFFD. -/
def decodeLossy (bs : Bytes) : List Char :=
  (decode bs).map fun c => c.getD '\uFFFD'

end Text.Utf8

end Failover
