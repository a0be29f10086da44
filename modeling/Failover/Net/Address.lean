import Failover.Text.Basic
/-!
# IP addresses

* `Ipv4.parse?` : four decimal octets without superfluous zeros, between dots; `Ipv4.text` : the same
  form, written;
* `Ipv6.parse?` : eight groups of one to four hexadecimal digits, the last two also as an IPv4 address,
  and at most one `::` for one or more zero groups;
* `Ipv6.compressed` : lower-case digits with the first longest run of zero groups as `::`; `Ipv6.text` :
  the same, with the IPv4 part of a mapped address in dotted form;
* `Address.parse?`, `Address.text` : addresses of either kind.
-/

set_option autoImplicit false

namespace Failover

/-! ## Four octets -/

/-- An address of four octets. -/
structure Ipv4 where
  a : UInt8
  b : UInt8
  c : UInt8
  d : UInt8
deriving DecidableEq, Repr

namespace Ipv4

/-- One octet: at most three decimal digits, no superfluous leading zero, at most 255. -/
def octet? (s : List Char) : Option UInt8 :=
  if s.length ≤ 3 ∧ ¬ (s.head? = some '0' ∧ 1 < s.length) then
    (Text.number? 10 s).bind fun n => if n < 256 then some (UInt8.ofNat n) else none
  else none

/-- Reads dotted decimal form. -/
def parse? (s : List Char) : Option Ipv4 :=
  match Text.pieces '.' s with
  | [p, q, r, t] => do
    let a ← octet? p
    let b ← octet? q
    let c ← octet? r
    let d ← octet? t
    pure ⟨a, b, c, d⟩
  | _ => none

/-- Dotted decimal form. -/
def text (x : Ipv4) : List Char :=
  Text.joined ['.'] ([x.a, x.b, x.c, x.d].map fun o => Text.decimal o.toNat)

/-- The address whose 32 bits are the number `n`. -/
def ofNat (n : Nat) : Ipv4 :=
  ⟨UInt8.ofNat (n / 16777216), UInt8.ofNat (n / 65536), UInt8.ofNat (n / 256), UInt8.ofNat n⟩

/-- The two 16-bit groups of the address. -/
def groups (x : Ipv4) : List UInt16 :=
  [UInt16.ofNat (x.a.toNat * 256 + x.b.toNat), UInt16.ofNat (x.c.toNat * 256 + x.d.toNat)]

/-- The address with these two 16-bit groups. -/
def ofGroups (hi lo : UInt16) : Ipv4 :=
  ⟨UInt8.ofNat (hi.toNat / 256), UInt8.ofNat hi.toNat,
   UInt8.ofNat (lo.toNat / 256), UInt8.ofNat lo.toNat⟩

end Ipv4

/-! ## Eight groups -/

/-- An address of eight 16-bit groups. -/
structure Ipv6 where
  groups : List UInt16
  length_groups : groups.length = 8
deriving DecidableEq, Repr

namespace Ipv6

/-- One group: one to four hexadecimal digits. -/
def group? (s : List Char) : Option UInt16 :=
  if s.length ≤ 4 then (Text.number? 16 s).map UInt16.ofNat else none

/-- Groups that are all hexadecimal. -/
def hexGroups? : List (List Char) → Option (List UInt16)
  | [] => some []
  | p :: ps => do
    let g ← group? p
    let gs ← hexGroups? ps
    pure (g :: gs)

/-- Groups of which the last two may be written as an IPv4 address. -/
def lastGroups? : List (List Char) → Option (List UInt16)
  | [] => some []
  | [p] =>
    match Ipv4.parse? p with
    | some v4 => some v4.groups
    | none => (group? p).map ([·])
  | p :: ps => do
    let g ← group? p
    let gs ← lastGroups? ps
    pure (g :: gs)

/-- The texts before and after the first `::`. -/
def cutGap : List Char → Option (List Char × List Char)
  | ':' :: ':' :: r => some ([], r)
  | c :: r => (cutGap r).map fun p => (c :: p.1, p.2)
  | [] => none

/-- The pieces between colons; an empty text has none. -/
def pieces (s : List Char) : List (List Char) :=
  if s.isEmpty then [] else Text.pieces ':' s

/-- The address with these groups, if there are eight. -/
def ofGroups? (gs : List UInt16) : Option Ipv6 :=
  if h : gs.length = 8 then some ⟨gs, h⟩ else none

/-- Reads an address. -/
def parse? (s : List Char) : Option Ipv6 :=
  match cutGap s with
  | none => (lastGroups? (pieces s)).bind ofGroups?
  | some (front, back) => do
    let hs ← hexGroups? (pieces front)
    let ts ← lastGroups? (pieces back)
    if hs.length + ts.length ≤ 7 then
      ofGroups? (hs ++ List.replicate (8 - hs.length - ts.length) 0 ++ ts)
    else none

/-- How many zero groups the list begins with. -/
def leadingZeros : List UInt16 → Nat
  | [] => 0
  | g :: gs => if g = 0 then leadingZeros gs + 1 else 0

/-- Position and length of the first longest run of zero groups. -/
def longestRun : List UInt16 → Nat × Nat
  | [] => (0, 0)
  | g :: gs =>
    let here := leadingZeros (g :: gs)
    let later := longestRun gs
    if later.2 ≤ here then (0, here) else (later.1 + 1, later.2)

/-- Hexadecimal digits of one group. -/
def groupText (g : UInt16) : List Char := Nat.toDigits 16 g.toNat

/-- Groups between colons. -/
def groupsText (gs : List UInt16) : List Char :=
  Text.joined [':'] (gs.map groupText)

/-- Lower-case form, the first longest run of at least two zero groups written `::`. -/
def compressed (x : Ipv6) : List Char :=
  let run := longestRun x.groups
  if 2 ≤ run.2 then
    groupsText (x.groups.take run.1) ++ [':', ':'] ++ groupsText (x.groups.drop (run.1 + run.2))
  else groupsText x.groups

/-- The IPv4 address inside an IPv4-mapped address. -/
def mapped? (x : Ipv6) : Option Ipv4 :=
  match x.groups with
  | [0, 0, 0, 0, 0, 0xFFFF, hi, lo] => some (Ipv4.ofGroups hi lo)
  | _ => none

/-- The compressed form, but the IPv4 part of a mapped address in dotted form. -/
def text (x : Ipv6) : List Char :=
  match x.mapped? with
  | some v4 => "::ffff:".toList ++ v4.text
  | none => x.compressed

end Ipv6

/-! ## Either kind -/

/-- An IP address. -/
inductive Address where
  | v4 (ip : Ipv4)
  | v6 (ip : Ipv6)
deriving DecidableEq, Repr

namespace Address

/-- Reads an address of either kind. -/
def parse? (s : String) : Option Address :=
  match Ipv4.parse? s.toList with
  | some ip => some (.v4 ip)
  | none => (Ipv6.parse? s.toList).map .v6

/-- The written form. -/
def text : Address → String
  | .v4 ip => String.ofList ip.text
  | .v6 ip => String.ofList ip.text

end Address

end Failover
