import Failover.Text.Basic
import Failover.Text.Case
import Failover.Text.Classes
/-!
# Patterns

What a pattern is, and whether a text holds a match of it.

* `CharSet` : sets of characters; `CharSet.has` : membership;
* `Pattern` : sequences, choices, repetitions and conditions on a place in the text;
* `Pattern.ends` : where matches that start at a place end;
* `Pattern.isIn` : whether some part of the text is a match.
-/

set_option autoImplicit false

namespace Failover

/-- A set of characters: code points in a range or in several, a class, a category, a property, or what is
made of such sets. Folded, a set holds all characters that differ from a member in case only. -/
inductive CharSet where
  | range (first last : Nat)
  | digit
  | word
  | space
  | within (ranges : List (Nat × Nat))
  | category (k : Text.Category)
  | alphabetic
  | lowercase
  | uppercase
  | union (a b : CharSet)
  | inter (a b : CharSet)
  | compl (a : CharSet)
  | folded (a : CharSet)
deriving DecidableEq, Repr

namespace CharSet

/-- Membership. -/
def has : CharSet → Char → Bool
  | range first last, c => first ≤ c.toNat && c.toNat ≤ last
  | digit, c => Text.isDecimalDigit c
  | word, c => Text.isWordCharacter c
  | space, c => Text.isBlank c
  | within ranges, c => Text.inRanges ranges c
  | category k, c => k.has c
  | alphabetic, c => Text.isAlphabetic c
  | lowercase, c => Text.isLowercase c
  | uppercase, c => Text.isUppercase c
  | union a b, c => a.has c || b.has c
  | inter a b, c => a.has c && b.has c
  | compl a, c => !a.has c
  | folded a, c => a.has c || (Text.caseVariants c).any a.has

/-- The set of one character. -/
def single (c : Char) : CharSet := range c.toNat c.toNat

/-- The set without members. -/
def empty : CharSet := range 1 0

/-- Every character. -/
def all : CharSet := range 0 0x10FFFF

/-- Members of any of the categories. -/
def ofCategories : List Text.Category → CharSet
  | [] => empty
  | k :: ks => union (category k) (ofCategories ks)

/-- The members of the first set that are not in the second. -/
def diff (a b : CharSet) : CharSet := inter a (compl b)

/-- The members of exactly one of the sets. -/
def symmDiff (a b : CharSet) : CharSet := union (diff a b) (diff b a)

end CharSet

/-- A condition on a place in a text: an end of it or of a line, or where words begin and end. Of the halves
of an edge each looks to one side only. -/
inductive Place where
  | textStart
  | textEnd
  | lineStart
  | lineEnd
  | wordEdge
  | noWordEdge
  | wordStart
  | wordEnd
  | wordStartHalf
  | wordEndHalf
deriving DecidableEq, Repr

namespace Place

/-- Whether the condition holds between two neighbours, none at an end of the text. -/
def holds (before after : Option Char) : Place → Bool
  | textStart => before.isNone
  | textEnd => after.isNone
  | lineStart => before.isNone || before == some '\n'
  | lineEnd => after.isNone || after == some '\n'
  | wordEdge => before.any Text.isWordCharacter != after.any Text.isWordCharacter
  | noWordEdge => before.any Text.isWordCharacter == after.any Text.isWordCharacter
  | wordStart => !before.any Text.isWordCharacter && after.any Text.isWordCharacter
  | wordEnd => before.any Text.isWordCharacter && !after.any Text.isWordCharacter
  | wordStartHalf => !before.any Text.isWordCharacter
  | wordEndHalf => !after.any Text.isWordCharacter

end Place

/-- A pattern of texts. A repetition without an upper bound goes on without end. -/
inductive Pattern where
  | empty
  | char (set : CharSet)
  | position (place : Place)
  | seq (p q : Pattern)
  | alt (p q : Pattern)
  | repeated (p : Pattern) (least : Nat) (most : Option Nat)
deriving DecidableEq, Repr

namespace Pattern

/-- The positions of both lists, each once. -/
def merge (a b : List Nat) : List Nat := b.foldl (fun acc n => if n ∈ acc then acc else acc ++ [n]) a

/-- Where the step leads from any of the positions. -/
def spread (step : Nat → List Nat) (starts : List Nat) : List Nat :=
  starts.foldl (fun acc n => merge acc (step n)) []

/-- The positions after exactly `k` steps. -/
def after (step : Nat → List Nat) : Nat → List Nat → List Nat
  | 0, starts => starts
  | k + 1, starts => after step k (spread step starts)

/-- The positions after at most `k` steps. -/
def upTo (step : Nat → List Nat) : Nat → List Nat → List Nat
  | 0, starts => starts
  | k + 1, starts => merge starts (upTo step k (spread step starts))

/-- The neighbour in front of a position. -/
def before (text : List Char) : Nat → Option Char
  | 0 => none
  | n + 1 => text[n]?

/-- The ends of the matches that start at a position. -/
def ends (text : List Char) : Pattern → Nat → List Nat
  | empty, n => [n]
  | char set, n =>
    match text[n]? with
    | some c => if set.has c then [n + 1] else []
    | none => []
  | position place, n => if place.holds (before text n) text[n]? then [n] else []
  | seq p q, n => spread (ends text q) (ends text p n)
  | alt p q, n => merge (ends text p n) (ends text q n)
  | repeated p least most, n =>
    let more := match most with
      | some m => min (m - least) (text.length + 1)
      | none => text.length + 1
    upTo (ends text p) more (after (ends text p) least [n])

/-- Whether some part of the text is a match. -/
def isIn (p : Pattern) (s : String) : Bool :=
  let text := s.toList
  (List.range (text.length + 1)).any fun n => !(ends text p n).isEmpty

end Pattern

end Failover
