import Failover.Text.Basic
/-!
# Punycode

Texts beyond ASCII as ASCII texts: the ASCII characters first, then the others in increasing order,
each as the distance from the one before it, in digits of a base that adapts.

* `Punycode.encode` : the ASCII form;
* `Punycode.decode?` : the text of an ASCII form.
-/

set_option autoImplicit false

namespace Failover.Punycode

/-- The digit of a value below 36: letters first, then numerals. -/
def digit (v : Nat) : Char :=
  if v < 26 then Char.ofNat (0x61 + v) else Char.ofNat (0x16 + v)

/-- The value of a digit of either case. -/
def digitValue? (c : Char) : Option Nat :=
  let n := c.toNat
  if 0x61 ≤ n ∧ n ≤ 0x7A then some (n - 0x61)
  else if 0x41 ≤ n ∧ n ≤ 0x5A then some (n - 0x41)
  else if 0x30 ≤ n ∧ n ≤ 0x39 then some (n - 0x16)
  else none

/-- The smallest value that does not end a number, `k` being 36 times its place. -/
def threshold (k bias : Nat) : Nat :=
  if k ≤ bias then 1 else min 26 (k - bias)

/-- Divides by 35 until the value is at most 455, at most `fuel` times, counting 36 a time. -/
def shrink : Nat → Nat → Nat → Nat × Nat
  | 0, delta, k => (delta, k)
  | fuel + 1, delta, k => if 455 < delta then shrink fuel (delta / 35) (k + 36) else (delta, k)

/-- The bias after a distance has been written. -/
def adapt (delta count : Nat) (first : Bool) : Nat :=
  let d := if first then delta / 700 else delta / 2
  let r := shrink 64 (d + d / count) 0
  r.2 + 36 * r.1 / (r.1 + 38)

/-- The digits of a distance, at most `fuel` of them. -/
def distance (bias : Nat) : Nat → Nat → Nat → List Char
  | 0, _, _ => []
  | fuel + 1, k, q =>
    let t := threshold k bias
    if q < t then [digit q]
    else digit (t + (q - t) % (36 - t)) :: distance bias fuel (k + 36) ((q - t) / (36 - t))

/-- The state between two characters that are written. -/
structure Writing where
  out : List Char
  delta : Nat
  bias : Nat
  count : Nat

/-- Passes one character of the text while those with code point `m` are written. -/
def Writing.pass (basic m : Nat) (st : Writing) (c : Char) : Writing :=
  if c.toNat < m then { st with delta := st.delta + 1 }
  else if c.toNat = m then
    ⟨st.out ++ distance st.bias 64 36 st.delta, 0,
     adapt st.delta (st.count + 1) (st.count == basic), st.count + 1⟩
  else st

/-- Writes the characters with the given code points, which increase; `n` is the next candidate. -/
def Writing.all (s : List Char) (basic : Nat) : List Nat → Nat → Writing → Writing
  | [], _, st => st
  | m :: ms, n, st =>
    let st := { st with delta := st.delta + (m - n) * (st.count + 1) }
    let st := s.foldl (Writing.pass basic m) st
    Writing.all s basic ms (m + 1) { st with delta := st.delta + 1 }

/-- The numbers without repetition, in increasing order. -/
def ascending (ns : List Nat) : List Nat :=
  (ns.mergeSort fun a b => a ≤ b).eraseReps

/-- The ASCII form of a text. -/
def encode (s : List Char) : List Char :=
  let plain := s.filter fun c => c.toNat < 0x80
  let others := ascending ((s.filter fun c => 0x80 ≤ c.toNat).map Char.toNat)
  let st := Writing.all s plain.length others 0x80 ⟨[], 0, 72, plain.length⟩
  plain ++ (if plain.isEmpty then [] else ['-']) ++ st.out

/-- Reads one distance: its value added to `i`, and the rest. -/
def readDistance (bias : Nat) : List Char → Nat → Nat → Nat → Option (Nat × List Char)
  | [], _, _, _ => none
  | c :: r, k, w, i => do
    let d ← digitValue? c
    let i := i + d * w
    let t := threshold k bias
    if d < t then pure (i, r) else readDistance bias r (k + 36) (w * (36 - t)) i

/-- Reads the remaining characters, at most `fuel` of them, into the text so far. -/
def readAll : Nat → List Char → Nat → Nat → Nat → List Char → Option (List Char)
  | _, [], _, _, _, out => some out
  | 0, _ :: _, _, _, _, _ => none
  | fuel + 1, s, n, i, bias, out => do
    let (j, r) ← readDistance bias s 36 1 i
    let size := out.length + 1
    let n := n + j / size
    if 0x10FFFF < n ∨ (0xD800 ≤ n ∧ n ≤ 0xDFFF) then none
    else
      let place := j % size
      readAll fuel r n (place + 1) (adapt (j - i) size (i == 0))
        (out.take place ++ Char.ofNat n :: out.drop place)

/-- The part before the last hyphen and the part after it. -/
def cutLast (s : List Char) : List Char × List Char :=
  match s.reverse.dropWhile fun c => c != '-' with
  | [] => ([], s)
  | _ :: front => (front.reverse, (s.reverse.takeWhile fun c => c != '-').reverse)

/-- The text of an ASCII form. -/
def decode? (s : List Char) : Option (List Char) :=
  let (plain, digits) := cutLast s
  if plain.all fun c => c.toNat < 0x80 then readAll digits.length digits 0x80 0 72 plain else none

end Failover.Punycode
