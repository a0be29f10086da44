import Failover.Text.Case
import Failover.Text.Basic
/-!
# Domain names as they are looked up

A domain name is looked up in lower-case ASCII.  A name whose labels are plain ASCII is lower-cased.  For
any other the characters are mapped, composed and checked, and its labels are encoded.  This takes tables
for all of Unicode, and URLs leave it to a library.

* `Idna.forbidden` : the ASCII characters that no domain name holds;
* `Idna.plain?` : names of plain labels;
* `DomainNames` : what is known of all other names;
* `Idna.toAscii?` : a name of either kind.
-/

set_option autoImplicit false

namespace Failover

namespace Host

/-- Codes of the characters at which URLs are cut, of controls and white space, and of a few more that
    never stand in a host. -/
def delimiters : List Nat :=
  List.range 0x21 ++ ['#', '/', ':', '?', '@', '[', '\\', ']', '^', '|'].map (·.toNat)

/-- The character is one of them. -/
def Delimits (c : Char) : Prop := c.toNat ∈ delimiters

instance : DecidablePred Delimits := fun c => inferInstanceAs (Decidable (c.toNat ∈ delimiters))

end Host

/-- A library for the names that go beyond plain ASCII: the name as it is looked up, unless it is refused.
A name that holds one of the characters at which URLs are cut is refused. Every URL is read with the same
library, so it is inferred, and no function takes it as an argument. -/
class DomainNames where
  encoded? : List Char → Option (List Char)
  encoded?_eq_none : ∀ {c : Char} {s : List Char}, Host.Delimits c → c ∈ s → encoded? s = none

namespace Idna

/-- The ASCII characters that no domain name holds. -/
def forbidden (c : Char) : Bool :=
  c.toNat ≤ 0x20 || c.toNat == 0x7F
    || c ∈ ['%', '/', ':', '<', '>', '?', '@', '[', '\\', ']', '^', '|', '#']

/-- Whether a label starts with the mark of an encoded one. -/
def isEncoded (label : List Char) : Bool :=
  (label.take 4).map Text.asciiLower == ['x', 'n', '-', '-']

/-- Names of ASCII labels without the mark. -/
def isPlain (s : List Char) : Bool :=
  s.all (fun c => c.toNat < 0x80) && (Text.pieces '.' s).all fun l => !isEncoded l

/-- A plain name, lower-cased, if no character is forbidden. -/
def plain? (s : List Char) : Option (List Char) :=
  if s.any forbidden then none else some (s.map Text.asciiLower)

/-- The name as it is looked up, if it is one. -/
def toAscii? [DomainNames] (s : List Char) : Option (List Char) :=
  if isPlain s then plain? s else DomainNames.encoded? s

end Idna

end Failover
