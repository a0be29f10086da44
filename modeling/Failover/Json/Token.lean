import Failover.Json.Value
/-!
# Tokens of JSON texts

* `Json.Token` : what a text consists of;
* `Json.scan` : the tokens of a text, ending with `broken` where the text stops making sense;
* `Json.tokens` : the tokens of a value.

A reader of tokens meets a mistake of form where it stands in the text, so whichever of two mistakes
comes first is the one it tells of.
-/

set_option autoImplicit false

namespace Failover.Json

/-- A part of a JSON text. A number beyond the range of floating-point numbers has no value, and neither
has a text with half a surrogate pair in it; nothing follows what is no token. -/
inductive Token where
  | openObject
  | closeObject
  | openArray
  | closeArray
  | colon
  | comma
  | null
  | bool (b : Bool)
  | number (n : Option Number)
  | string (s : Option String)
  | broken
deriving DecidableEq, Repr

/-- A character of a string, or one UTF-16 unit of an escape. -/
inductive Unit16 where
  | char (c : Char)
  | half (n : Nat)

/-- The value of four hexadecimal digits. -/
def hex4? (a b c d : Char) : Option Nat := Text.number? 16 [a, b, c, d]

/-- A unit as a character, unless it is half a pair. -/
def unit (n : Nat) : Unit16 :=
  if 0xD800 ≤ n ∧ n ≤ 0xDFFF then .half n else .char (Char.ofNat n)

/-- The character behind a backslash. -/
def escape? : Char → Option Char
  | '"' => some '"'
  | '\\' => some '\\'
  | '/' => some '/'
  | 'b' => some '\x08'
  | 'f' => some '\x0c'
  | 'n' => some '\n'
  | 'r' => some '\r'
  | 't' => some '\t'
  | _ => none

/-- Reads the rest of a string behind its opening quote. -/
def scanString : List Char → Option (List Unit16 × List Char)
  | [] => none
  | '"' :: r => some ([], r)
  | '\\' :: 'u' :: a :: b :: c :: d :: r => do
    let n ← hex4? a b c d
    let (us, rest) ← scanString r
    pure (unit n :: us, rest)
  | '\\' :: e :: r => do
    let c ← escape? e
    let (us, rest) ← scanString r
    pure (.char c :: us, rest)
  | c :: r =>
    if c.toNat < 0x20 ∨ c = '\\' then none
    else do
      let (us, rest) ← scanString r
      pure (.char c :: us, rest)

/-- Puts pairs of units together; a unit that is left alone spoils the string. -/
def paired : List Unit16 → Option (List Char)
  | [] => some []
  | .char c :: r => (paired r).map (c :: ·)
  | .half hi :: .half lo :: r =>
    if hi < 0xDC00 ∧ 0xDC00 ≤ lo then
      (paired r).map (Char.ofNat (0x10000 + (hi - 0xD800) * 1024 + (lo - 0xDC00)) :: ·)
    else none
  | .half _ :: _ => none

/-- The parts of a number: sign, whole digits, digits behind the point, exponent. -/
structure Numeral where
  minus : Bool
  whole : List Char
  behind : Option (List Char)
  exponent : Option Int

/-- Digits at the front, at least one. -/
def digits? (s : List Char) : Option (List Char × List Char) :=
  match s.span Char.isDigit with
  | ([], _) => none
  | p => some p

/-- The digits behind a point, if a point comes next. -/
def scanBehind (s : List Char) : Option (Option (List Char) × List Char) :=
  match s with
  | '.' :: r => (digits? r).map fun p => (some p.1, p.2)
  | _ => some (none, s)

/-- The exponent, if one comes next. -/
def scanExponent (s : List Char) : Option (Option Int × List Char) :=
  let value (sign : Int) (r : List Char) : Option (Option Int × List Char) :=
    (digits? r).bind fun p => (Text.number? 10 p.1).map fun n => (some (sign * (n : Int)), p.2)
  match s with
  | c :: r =>
    if c = 'e' ∨ c = 'E' then
      match r with
      | '+' :: r => value 1 r
      | '-' :: r => value (-1) r
      | r => value 1 r
    else some (none, s)
  | [] => some (none, [])

/-- Reads a number. -/
def scanNumeral (s : List Char) : Option (Numeral × List Char) := do
  let (minus, s) := match s with
    | '-' :: r => (true, r)
    | r => (false, r)
  let (whole, s) ← digits? s
  if whole.head? = some '0' ∧ 1 < whole.length then none
  else
    let (behind, s) ← scanBehind s
    let (exponent, s) ← scanExponent s
    pure (⟨minus, whole, behind, exponent⟩, s)

/-- The text of a number, as written. -/
def Numeral.text (x : Numeral) : List Char :=
  (if x.minus then ['-'] else []) ++ x.whole
    ++ (match x.behind with | some b => '.' :: b | none => [])
    ++ (match x.exponent with
        | some e => 'e' :: (if e < 0 then ['-'] else []) ++ Text.decimal e.natAbs
        | none => [])

/-- Whether the number is beyond the largest finite floating-point number. -/
def Numeral.isTooLarge (x : Numeral) : Bool :=
  let behind := x.behind.getD []
  match Text.number? 10 (x.whole ++ behind) with
  | none => false
  | some m =>
    let e := x.exponent.getD 0 - (behind.length : Int)
    let size := ((x.whole ++ behind).dropWhile (· == '0')).length
    if m = 0 then false
    else if 400 < (size : Int) + e then true
    else if (size : Int) + e < 300 then false
    else
      let limit := Nat.pow 2 1024 - Nat.pow 2 970
      if 0 ≤ e then limit ≤ m * Nat.pow 10 e.toNat else limit * Nat.pow 10 (-e).toNat ≤ m

/-- The number, unless it is too large. -/
def Numeral.number? (x : Numeral) : Option Number :=
  if x.isTooLarge then none
  else match x.behind, x.exponent, Text.number? 10 x.whole with
    | none, none, some n =>
      if x.minus then
        if 0 < n ∧ n ≤ 9223372036854775808 then some (.negative n)
        else some (.fraction (String.ofList x.text))
      else if n < 18446744073709551616 then some (.natural n)
      else some (.fraction (String.ofList x.text))
    | _, _, _ => some (.fraction (String.ofList x.text))

/-- White space between tokens. -/
def isSpace (c : Char) : Bool := c == ' ' || c == '\n' || c == '\t' || c == '\r'

/-- The token that a text begins with, and the text behind it. -/
def scanToken : List Char → Option (Token × List Char)
  | '\x7b' :: r => some (.openObject, r)
  | '\x7d' :: r => some (.closeObject, r)
  | '[' :: r => some (.openArray, r)
  | ']' :: r => some (.closeArray, r)
  | ':' :: r => some (.colon, r)
  | ',' :: r => some (.comma, r)
  | 'n' :: 'u' :: 'l' :: 'l' :: r => some (.null, r)
  | 't' :: 'r' :: 'u' :: 'e' :: r => some (.bool true, r)
  | 'f' :: 'a' :: 'l' :: 's' :: 'e' :: r => some (.bool false, r)
  | '"' :: r => (scanString r).map fun p => (.string ((paired p.1).map String.ofList), p.2)
  | s => (scanNumeral s).map fun p => (.number p.1.number?, p.2)

/-- At most `fuel` tokens of a text. -/
def scanAll : Nat → List Char → List Token
  | 0, _ => []
  | fuel + 1, s =>
    match s.dropWhile isSpace with
    | [] => []
    | t =>
      match scanToken t with
      | some (tok, r) => tok :: scanAll fuel r
      | none => [.broken]

/-- The tokens of a text: no more than it has characters. -/
def scan (s : List Char) : List Token := scanAll s.length s

mutual

/-- The tokens of a value. -/
def tokens : Json → List Token
  | null => [.null]
  | bool b => [.bool b]
  | number n => [.number (some n)]
  | string s => [.string (some s)]
  | array [] => [.openArray, .closeArray]
  | array (v :: r) => .openArray :: tokens v ++ tokensOfItems r
  | object [] => [.openObject, .closeObject]
  | object ((k, v) :: r) =>
    .openObject :: .string (some k) :: .colon :: tokens v ++ tokensOfFields r

/-- The tokens of further items and the end of the array. -/
def tokensOfItems : List Json → List Token
  | [] => [.closeArray]
  | v :: r => .comma :: tokens v ++ tokensOfItems r

/-- The tokens of further fields and the end of the object. -/
def tokensOfFields : List (String × Json) → List Token
  | [] => [.closeObject]
  | (k, v) :: r => .comma :: .string (some k) :: .colon :: tokens v ++ tokensOfFields r

end

end Failover.Json
