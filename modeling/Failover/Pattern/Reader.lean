import Failover.HeaderFilter
import Failover.Pattern.Property
import Failover.Text.Basic
/-!
# A library of patterns to run with

Clients leave regular expressions to a library, and what is proved of clients holds with any. This one is
there to run them. It reads the greater part of the usual written form: `.`, `*`, `+`, `?`, `{m,n}`, `|`,
groups, sets between brackets, escapes for classes, properties and places, and flags such as `(?i)`. It
refuses properties that it does not know and matching by bytes, and sets no limit on size or nesting.

* `Pattern.parse?` : the pattern of a text, if the text is read as one;
* `Pattern.library` : sets of patterns.
-/

set_option autoImplicit false

namespace Failover.Pattern

/-- How the following part of a pattern is read: whether letters match in either case, line ends count as
ends of the text, a dot matches a line end, and blanks and comments do not count. -/
structure Flags where
  folds : Bool
  lines : Bool
  dotAll : Bool
  spaced : Bool
deriving DecidableEq, Repr

/-- No flag set. -/
def Flags.none : Flags := ⟨false, false, false, false⟩

/-- A set under the flags. -/
def Flags.set (f : Flags) (s : CharSet) : CharSet := if f.folds then .folded s else s

/-- Drops blanks, and comments up to the end of the line; `inComment` inside one. -/
def skipBlanks : Bool → List Char → List Char
  | _, [] => []
  | true, c :: r => if c = '\n' then skipBlanks false r else skipBlanks true r
  | false, c :: r =>
    if c = '#' then skipBlanks true r
    else if Text.isBlank c then skipBlanks false r
    else c :: r

/-- Drops what does not count under the flags. -/
def Flags.skip (f : Flags) (s : List Char) : List Char := if f.spaced then skipBlanks false s else s

/-- Characters that have a meaning and stand for themselves behind a backslash. -/
def isEscapable (c : Char) : Bool :=
  c.toNat < 0x80 && !c.isAlphanum && c != '<' && c != '>'

/-- A character by the hexadecimal digits of its code point. -/
def charOfHex? (digits : List Char) : Option Char :=
  (Text.number? 16 digits).bind fun n =>
    if n.isValidChar then some (Char.ofNat n) else Option.none

/-- Reads code point digits behind `x`, `u` or `U`: so many, or any number between braces. -/
def readHex (count : Nat) (s : List Char) : Option (Char × List Char) :=
  match s with
  | '\x7b' :: r =>
    match r.span (· != '\x7d') with
    | (digits, _ :: rest) => (charOfHex? digits).map fun c => (c, rest)
    | (_, []) => Option.none
  | s =>
    if s.length < count then Option.none
    else (charOfHex? (s.take count)).map fun c => (c, s.drop count)

/-- What stands behind a backslash. -/
inductive Escape where
  | char (c : Char)
  | set (s : CharSet)
  | place (p : Place)

/-- Reads a property behind `p`: one letter, or a name between braces. -/
def readProperty (f : Flags) (negated : Bool) (s : List Char) : Option (Escape × List Char) :=
  let found := match f.skip s with
    | [] => Option.none
    | '\\' :: _ => Option.none
    | '\x7b' :: r =>
      match r.span (· != '\x7d') with
      | (name, _ :: rest) => (Property.ofText? name).map fun c => (c, rest)
      | (_, []) => Option.none
    | c :: r => (Property.named? [c]).map fun p => (p, r)
  found.map fun p =>
    let c := f.set p.1
    (.set (if negated then .compl c else c), p.2)

/-- Whether a character may stand in the name of a place. -/
def isPlaceLetter (c : Char) : Bool := c.isAlpha || c == '-'

/-- Reads what follows `b`: the edge of a word, or a place named between braces. Braces that hold no
name are left for a repetition. -/
def readWordPlace (s : List Char) : Option (Place × List Char) :=
  match s with
  | '\x7b' :: c :: r =>
    if isPlaceLetter c then
      match (c :: r).span isPlaceLetter with
      | (name, '\x7d' :: rest) =>
        match String.ofList name with
        | "start" => some (.wordStart, rest)
        | "end" => some (.wordEnd, rest)
        | "start-half" => some (.wordStartHalf, rest)
        | "end-half" => some (.wordEndHalf, rest)
        | _ => Option.none
      | _ => Option.none
    else some (.wordEdge, s)
  | s => some (.wordEdge, s)

/-- Reads what stands behind a backslash. -/
def readEscape (f : Flags) (s : List Char) : Option (Escape × List Char) :=
  match s with
  | [] => Option.none
  | 'd' :: r => some (.set .digit, r)
  | 'D' :: r => some (.set (.compl .digit), r)
  | 'w' :: r => some (.set .word, r)
  | 'W' :: r => some (.set (.compl .word), r)
  | 's' :: r => some (.set .space, r)
  | 'S' :: r => some (.set (.compl .space), r)
  | 'A' :: r => some (.place .textStart, r)
  | 'z' :: r => some (.place .textEnd, r)
  | 'b' :: r => (readWordPlace r).map fun p => (.place p.1, p.2)
  | 'B' :: r => some (.place .noWordEdge, r)
  | '<' :: r => some (.place .wordStart, r)
  | '>' :: r => some (.place .wordEnd, r)
  | 'p' :: r => readProperty f false r
  | 'P' :: r => readProperty f true r
  | 'a' :: r => some (.char '\x07', r)
  | 'f' :: r => some (.char '\x0c', r)
  | 't' :: r => some (.char '\t', r)
  | 'n' :: r => some (.char '\n', r)
  | 'r' :: r => some (.char '\r', r)
  | 'v' :: r => some (.char '\x0b', r)
  | 'x' :: r => (readHex 2 r).map fun p => (.char p.1, p.2)
  | 'u' :: r => (readHex 4 r).map fun p => (.char p.1, p.2)
  | 'U' :: r => (readHex 8 r).map fun p => (.char p.1, p.2)
  | c :: r => if isEscapable c then some (.char c, r) else Option.none

/-- A class by its name between `[:` and `:]`. -/
def namedSet? : String → Option CharSet
  | "alnum" => some (.union (.range 0x30 0x39) (.union (.range 0x41 0x5A) (.range 0x61 0x7A)))
  | "alpha" => some (.union (.range 0x41 0x5A) (.range 0x61 0x7A))
  | "ascii" => some (.range 0 0x7F)
  | "blank" => some (.union (.single ' ') (.single '\t'))
  | "cntrl" => some (.union (.range 0 0x1F) (.range 0x7F 0x7F))
  | "digit" => some (.range 0x30 0x39)
  | "graph" => some (.range 0x21 0x7E)
  | "lower" => some (.range 0x61 0x7A)
  | "print" => some (.range 0x20 0x7E)
  | "punct" => some (.union (.union (.range 0x21 0x2F) (.range 0x3A 0x40))
      (.union (.range 0x5B 0x60) (.range 0x7B 0x7E)))
  | "space" => some (.union (.range 9 13) (.single ' '))
  | "upper" => some (.range 0x41 0x5A)
  | "word" => some (.union (.union (.range 0x30 0x39) (.single '_'))
      (.union (.range 0x41 0x5A) (.range 0x61 0x7A)))
  | "xdigit" => some (.union (.range 0x30 0x39) (.union (.range 0x41 0x46) (.range 0x61 0x66)))
  | _ => Option.none

/-- Reads a named class behind `[:`, possibly negated. -/
def readNamed (f : Flags) (s : List Char) : Option (CharSet × List Char) :=
  let (negated, s) := match s with
    | '^' :: r => (true, r)
    | r => (false, r)
  match s.span Char.isAlpha with
  | (name, ':' :: ']' :: rest) =>
    (namedSet? (String.ofList name)).map fun c =>
      (if negated then .compl (f.set c) else f.set c, rest)
  | _ => Option.none

/-- One item of a set: a character, or a class. -/
inductive Item where
  | char (c : Char)
  | set (s : CharSet)

/-- Reads one item of a set that is no set between brackets itself. -/
def readItem (f : Flags) (s : List Char) : Option (Item × List Char) :=
  match s with
  | [] => Option.none
  | '\\' :: 'b' :: _ => Option.none
  | '\\' :: r =>
    match readEscape f r with
    | some (.char c, r) => some (.char c, r)
    | some (.set c, r) => some (.set c, r)
    | some (.place _, _) => Option.none
    | Option.none => Option.none
  | c :: r => some (.char c, r)

/-- The operators between sets: members of both, of the first only, and of exactly one. -/
inductive SetOp where
  | inter
  | diff
  | symmDiff

/-- Applies an operator. -/
def SetOp.apply : SetOp → CharSet → CharSet → CharSet
  | inter, a, b => .inter a b
  | diff, a, b => .diff a b
  | symmDiff, a, b => .symmDiff a b

/-- Puts what has been read together with the operand that waits for it. -/
def combined (f : Flags) (waiting : Option (CharSet × SetOp)) (now : CharSet) : CharSet :=
  match waiting with
  | some (a, op) => op.apply (f.set a) (f.set now)
  | Option.none => now

/-- Hyphens at the front of a set stand for themselves. -/
def openingHyphens : List Char → CharSet × List Char
  | '-' :: r =>
    let (c, r) := openingHyphens r
    (.union (.single '-') c, r)
  | s => (.empty, s)

/-- Hyphens, or else a closing bracket, that stand for themselves at the front of a set. -/
def openingItems : List Char → CharSet × List Char
  | ']' :: r => (.single ']', r)
  | s => openingHyphens s

/-- The set of an item. -/
def itemSet : Item → CharSet
  | .char c => .single c
  | .set s => s

mutual

/-- Reads a set behind its opening bracket, with `fuel` steps at most. -/
def readSet : Nat → Flags → List Char → Option (CharSet × List Char)
  | 0, _, _ => Option.none
  | fuel + 1, f, s =>
    let s := f.skip s
    let (negated, s) := match s with
      | '^' :: r => (true, f.skip r)
      | r => (false, r)
    let (front, s) := openingItems s
    (readMembers fuel f Option.none front s).map fun p =>
      let c := f.set p.1
      (if negated then .compl c else c, p.2)

/-- Reads further members of a set and its end. -/
def readMembers : Nat → Flags → Option (CharSet × SetOp) → CharSet → List Char →
    Option (CharSet × List Char)
  | 0, _, _, _, _ => Option.none
  | fuel + 1, f, waiting, now, s =>
    match f.skip s with
    | [] => Option.none
    | ']' :: r => some (combined f waiting now, r)
    | '[' :: ':' :: r =>
      match readNamed f r with
      | some (c, r) => readMembers fuel f waiting (.union now c) r
      | Option.none =>
        (readSet fuel f (':' :: r)).bind fun p => readMembers fuel f waiting (.union now p.1) p.2
    | '[' :: r => (readSet fuel f r).bind fun p => readMembers fuel f waiting (.union now p.1) p.2
    | '&' :: '&' :: r => readMembers fuel f (some (combined f waiting now, .inter)) .empty r
    | '-' :: '-' :: r => readMembers fuel f (some (combined f waiting now, .diff)) .empty r
    | '~' :: '~' :: r => readMembers fuel f (some (combined f waiting now, .symmDiff)) .empty r
    | s =>
      (readItem f s).bind fun (item, r) =>
        match f.skip r with
        | '-' :: r' =>
          match f.skip r' with
          | ']' :: _ => readMembers fuel f waiting (.union now (itemSet item)) r
          | '-' :: _ => readMembers fuel f waiting (.union now (itemSet item)) r
          | next =>
            (readItem f next).bind fun (last, r'') =>
              match item, last with
              | .char a, .char b =>
                if a.toNat ≤ b.toNat then
                  readMembers fuel f waiting (.union now (.range a.toNat b.toNat)) r''
                else Option.none
              | _, _ => Option.none
        | _ => readMembers fuel f waiting (.union now (itemSet item)) r

end

/-- Reads flags up to a colon or a closing parenthesis: the flags, and whether a colon follows. -/
def readFlags : Bool → Bool → Flags → List Char → List Char →
    Option (Flags × Bool × List Char)
  | _, fresh, f, seen, ')' :: r => if fresh && !seen.isEmpty then Option.none
      else if seen.isEmpty then Option.none else some (f, false, r)
  | _, fresh, f, seen, ':' :: r => if fresh && !seen.isEmpty then Option.none
      else some (f, true, r)
  | on, _, f, seen, '-' :: r => if on then readFlags false true f ('-' :: seen) r else Option.none
  | on, _, f, seen, c :: r =>
    if seen.contains c then Option.none
    else match c with
      | 'i' => readFlags on false { f with folds := on } (c :: seen) r
      | 'm' => readFlags on false { f with lines := on } (c :: seen) r
      | 's' => readFlags on false { f with dotAll := on } (c :: seen) r
      | 'x' => readFlags on false { f with spaced := on } (c :: seen) r
      | 'U' => readFlags on false f (c :: seen) r
      | 'u' => if on then readFlags on false f (c :: seen) r else Option.none
      | 'R' => readFlags on false f (c :: seen) r
      | _ => Option.none
  | _, _, _, _, [] => Option.none

/-- Whether a text may name a group. -/
def isGroupName (s : List Char) : Bool :=
  match s with
  | [] => false
  | c :: r => (c == '_' || (Text.isWordCharacter c && !Text.isDecimalDigit c)) &&
      r.all fun d => Text.isWordCharacter d || d == '.' || d == '[' || d == ']'

/-- Reads the name of a group up to `>`. -/
def readGroupName (s : List Char) : Option (List Char × List Char) :=
  match s.span (· != '>') with
  | (name, _ :: rest) => if isGroupName name then some (name, rest) else Option.none
  | (_, []) => Option.none

/-- Reads a number in decimal, blanks around it. -/
def readCount (s : List Char) : Option (Nat × List Char) :=
  let s := s.dropWhile Text.isBlank
  match s.span Char.isDigit with
  | (digits, rest) =>
    (Text.number? 10 digits).bind fun n =>
      if n < 4294967296 then some (n, rest.dropWhile Text.isBlank) else Option.none

/-- Reads the bounds of a repetition behind its opening brace. -/
def readBounds (s : List Char) : Option ((Nat × Option Nat) × List Char) :=
  (readCount s).bind fun (least, r) =>
    match r with
    | '\x7d' :: r => some ((least, some least), r)
    | ',' :: r =>
      match r.dropWhile Text.isBlank with
      | '\x7d' :: r => some ((least, Option.none), r)
      | r =>
        (readCount r).bind fun (most, r) =>
          match r with
          | '\x7d' :: r => if least ≤ most then some ((least, some most), r) else Option.none
          | _ => Option.none
    | _ => Option.none

/-- The mark that makes a repetition prefer fewer rounds says nothing about what matches. -/
def skipLazy : List Char → List Char
  | '?' :: r => r
  | s => s

/-- Applies the repetitions that follow an item. -/
def readRepeats : Nat → Flags → Option Pattern → List Char → Option (Option Pattern × List Char)
  | 0, _, _, _ => Option.none
  | fuel + 1, f, item, s =>
    let more (least : Nat) (most : Option Nat) (r : List Char) :=
      item.bind fun p => readRepeats fuel f (some (.repeated p least most)) (skipLazy r)
    match f.skip s with
    | '*' :: r => more 0 Option.none r
    | '+' :: r => more 1 Option.none r
    | '?' :: r => more 0 (some 1) r
    | '\x7b' :: r => (readBounds r).bind fun p => more p.1.1 p.1.2 (f.skip p.2)
    | _ => some (item, s)

/-- The pattern of a character that stands for itself. -/
def literal (f : Flags) (c : Char) : Pattern := .char (f.set (.single c))

/-- What is read of a pattern: the pattern, the flags at its end, the rest, and the names given to
groups. -/
structure Read where
  pattern : Pattern
  flags : Flags
  rest : List Char
  names : List (List Char)

/-- A pattern, or none for flags, which nothing repeats. -/
structure ReadItem where
  pattern : Option Pattern
  flags : Flags
  rest : List Char
  names : List (List Char)

mutual

/-- Reads branches up to the end of the group, with `fuel` steps at most. -/
def readBranches : Nat → Flags → List (List Char) → List Char → Option Read
  | 0, _, _, _ => Option.none
  | fuel + 1, f, names, s =>
    (readBranch fuel f names .empty s).bind fun b =>
      match b.rest with
      | '|' :: r =>
        (readBranches fuel b.flags b.names r).map fun rest =>
          { rest with pattern := .alt b.pattern rest.pattern }
      | _ => some b

/-- Reads the items of one branch behind those read so far. -/
def readBranch : Nat → Flags → List (List Char) → Pattern → List Char → Option Read
  | 0, _, _, _, _ => Option.none
  | fuel + 1, f, names, sofar, s =>
    match f.skip s with
    | [] => some ⟨sofar, f, [], names⟩
    | '|' :: r => some ⟨sofar, f, '|' :: r, names⟩
    | ')' :: r => some ⟨sofar, f, ')' :: r, names⟩
    | s =>
      (readOne fuel f names s).bind fun item =>
        (readRepeats (item.rest.length + 1) item.flags item.pattern item.rest).bind fun p =>
          let sofar := match p.1 with
            | some q => .seq sofar q
            | Option.none => sofar
          readBranch fuel item.flags item.names sofar p.2

/-- Reads one item without the repetitions that follow it. -/
def readOne : Nat → Flags → List (List Char) → List Char → Option ReadItem
  | 0, _, _, _ => Option.none
  | fuel + 1, f, names, s =>
    match s with
    | [] => Option.none
    | '(' :: '?' :: 'P' :: '<' :: r =>
      (readGroupName r).bind fun (name, r) =>
        if names.contains name then Option.none
        else readGroup fuel f f (name :: names) r
    | '(' :: '?' :: '<' :: r =>
      (readGroupName r).bind fun (name, r) =>
        if names.contains name then Option.none
        else readGroup fuel f f (name :: names) r
    | '(' :: '?' :: r =>
      (readFlags true false f [] r).bind fun (inner, colon, r) =>
        if colon then readGroup fuel f inner names r
        else some ⟨Option.none, inner, r, names⟩
    | '(' :: r => readGroup fuel f f names r
    | '[' :: r => (readSet (r.length + 1) f r).map fun p => ⟨some (.char p.1), f, p.2, names⟩
    | '.' :: r =>
      let set := if f.dotAll then CharSet.all else .compl (.single '\n')
      some ⟨some (.char set), f, r, names⟩
    | '^' :: r => some ⟨some (.position (if f.lines then .lineStart else .textStart)), f, r, names⟩
    | '$' :: r => some ⟨some (.position (if f.lines then .lineEnd else .textEnd)), f, r, names⟩
    | '\\' :: r =>
      (readEscape f r).map fun p =>
        match p.1 with
        | .char c => ⟨some (literal f c), f, p.2, names⟩
        | .set c => ⟨some (.char c), f, p.2, names⟩
        | .place q => ⟨some (.position q), f, p.2, names⟩
    | '*' :: _ => Option.none
    | '+' :: _ => Option.none
    | '?' :: _ => Option.none
    | '\x7b' :: _ => Option.none
    | c :: r => some ⟨some (literal f c), f, r, names⟩

/-- Reads a group, whose opening has been read, with flags that end with it. -/
def readGroup : Nat → Flags → Flags → List (List Char) → List Char → Option ReadItem
  | 0, _, _, _, _ => Option.none
  | fuel + 1, outer, inner, names, s =>
    (readBranches fuel inner names s).bind fun b =>
      match b.rest with
      | ')' :: r => some ⟨some b.pattern, outer, r, b.names⟩
      | _ => Option.none

end

/-- The pattern of a text, if the text is one. -/
def parse? (s : String) : Option Pattern :=
  (readBranches (4 * s.length + 8) .none [] s.toList).bind fun b =>
    if b.rest.isEmpty then some b.pattern else Option.none

/-- Reads several patterns. -/
def parseAll? : List String → Option (List Pattern)
  | [] => some []
  | s :: r => do
    let p ← parse? s
    let ps ← parseAll? r
    pure (p :: ps)

/-- Sets of patterns, found where one of them is. -/
def library : PatternLibrary :=
  ⟨fun texts => (parseAll? texts).map fun ps text => ps.any fun p => p.isIn text⟩

end Failover.Pattern
