import Failover.Json.Token
/-!
# Reading values of known shape

Readers take tokens from the front and tell of the first mistake in the order of the text: a mistake
of form (`malformed`), or a well-formed part that is not what is asked for.

* `Json.Mistake` : the mistakes and their wording;
* readers of texts, numbers, truth values, options and lists;
* `Json.readFields` : the fields of an object, each handed to a step that knows the names;
* `Json.readValue`, `Json.skipValue` : any value, kept or passed over;
* `Json.readAll` : a whole text and nothing behind it.
-/

set_option autoImplicit false

namespace Failover.Json

/-- Why a text is not read: it is no JSON, or a field is missing or there twice, or a value is not one of
those that may stand there, or it was read and refused for what it says. -/
inductive Mistake where
  | malformed
  | missingField (name : String)
  | duplicateField (name : String)
  | unknownVariant (name : String)
  | wrongType
  | wrongValue
  | wrongLength
  | refused (reason : String)
deriving DecidableEq, Repr

/-- The wording; a malformed text has none. -/
def Mistake.message : Mistake → String
  | malformed => ""
  | missingField name => "missing field `" ++ name ++ "`"
  | duplicateField name => "duplicate field `" ++ name ++ "`"
  | unknownVariant name => "unknown variant `" ++ name ++ "`"
  | wrongType => "invalid type"
  | wrongValue => "invalid value"
  | wrongLength => "invalid length"
  | refused reason => reason

/-- A value read from the front of the tokens, and the tokens behind it. -/
abbrev Reader (α : Type) := List Token → Except Mistake (α × List Token)

/-- The mistake of a value that is of another kind than asked for. -/
def unexpected : List Token → Mistake
  | .openObject :: _ => .wrongType
  | .openArray :: _ => .wrongType
  | .null :: _ => .wrongType
  | .bool _ :: _ => .wrongType
  | .number (some _) :: _ => .wrongType
  | .string (some _) :: _ => .wrongType
  | _ => .malformed

/-- Reads a text. -/
def readString : Reader String
  | .string (some s) :: r => .ok (s, r)
  | ts => .error (unexpected ts)

/-- Reads a truth value. -/
def readBool : Reader Bool
  | .bool b :: r => .ok (b, r)
  | ts => .error (unexpected ts)

/-- Reads a whole number below `bound`. -/
def readNat (bound : Nat) : Reader Nat
  | .number (some (.natural n)) :: r => if n < bound then .ok (n, r) else .error .wrongValue
  | .number (some (.negative _)) :: _ => .error .wrongValue
  | ts => .error (unexpected ts)

/-- Reads `null` as none, and anything else by the reader. -/
def readOption {α : Type} (read : Reader α) : Reader (Option α)
  | .null :: r => .ok (none, r)
  | ts => (read ts).map fun p => (some p.1, p.2)

/-- Reads the mark between a name and its value. -/
def readColon : List Token → Except Mistake (List Token)
  | .colon :: r => .ok r
  | _ => .error .malformed

/-- Reads the value of a field, from the mark on. -/
def readField {α : Type} (read : Reader α) (ts : List Token) : Except Mistake (α × List Token) :=
  (readColon ts).bind read

/-- Reads at most `fuel` further items of an array and its end. -/
def readItems {α : Type} (read : Reader α) : Nat → Reader (List α)
  | 0, _ => .error .malformed
  | fuel + 1, ts =>
    match ts with
    | .closeArray :: r => .ok ([], r)
    | .comma :: r => do
      let (v, r) ← read r
      let (vs, r) ← readItems read fuel r
      pure (v :: vs, r)
    | _ => .error .malformed

/-- Reads an array. -/
def readList {α : Type} (read : Reader α) : Reader (List α)
  | .openArray :: .closeArray :: r => .ok ([], r)
  | .openArray :: r => do
    let (v, r) ← read r
    let (vs, r) ← readItems read r.length r
    pure (v :: vs, r)
  | ts => .error (unexpected ts)

/-- Hands at most `fuel` further fields to the step, from the mark behind each name on. -/
def readMoreFields {σ : Type} (step : σ → String → List Token → Except Mistake (σ × List Token)) :
    Nat → σ → List Token → Except Mistake (σ × List Token)
  | 0, _, _ => .error .malformed
  | fuel + 1, s, ts =>
    match ts with
    | .closeObject :: r => .ok (s, r)
    | .comma :: .string (some k) :: r => do
      let (s, r) ← step s k r
      readMoreFields step fuel s r
    | _ => .error .malformed

/-- Hands the fields of an object, whose brace has been read, to the step. -/
def readFields {σ : Type} (step : σ → String → List Token → Except Mistake (σ × List Token))
    (s : σ) (ts : List Token) : Except Mistake (σ × List Token) :=
  match ts with
  | .closeObject :: r => .ok (s, r)
  | .string (some k) :: r => do
    let (s, r) ← step s k r
    readMoreFields step r.length s r
  | _ => .error .malformed

/-- Hands the items of an array, each with a comma in front, to the step under the names of their
places, until the array or the names end. -/
def readPlaced {σ : Type} (step : σ → String → List Token → Except Mistake (σ × List Token)) :
    List String → σ → List Token → Except Mistake (σ × List Token)
  | [], s, .closeArray :: r => .ok (s, r)
  | [], _, _ => .error .malformed
  | name :: names, s, ts =>
    match ts with
    | .closeArray :: r => .ok (s, r)
    | .comma :: r => (step s name (.colon :: r)).bind fun p => readPlaced step names p.1 p.2
    | _ => .error .malformed

/-- Reads an array, whose bracket has been read, as the named values of a record in order. -/
def readPlaces {σ : Type} (step : σ → String → List Token → Except Mistake (σ × List Token))
    (names : List String) (s : σ) (ts : List Token) : Except Mistake (σ × List Token) :=
  match ts with
  | .closeArray :: r => .ok (s, r)
  | r => readPlaced step names s (.comma :: r)

/-- Reads one of the named cases: a text, or an object with the name and `null`. -/
def readCase {α : Type} (case? : String → Option α) : Reader α
  | .string (some s) :: r =>
    match case? s with
    | some v => .ok (v, r)
    | none => .error (.unknownVariant s)
  | .openObject :: .string (some s) :: r =>
    match case? s with
    | none => .error (.unknownVariant s)
    | some v =>
      match r with
      | .colon :: .null :: .closeObject :: r => .ok (v, r)
      | .colon :: .null :: _ => .error .malformed
      | .colon :: ts => .error (unexpected ts)
      | _ => .error .malformed
  | .openObject :: ts => .error (unexpected ts)
  | _ => .error .malformed

/-- The named case that a value is: a text, or an object with the name and `null`. -/
def caseOf {α : Type} (case? : String → Option α) : Json → Except Mistake α
  | .string s =>
    match case? s with
    | some v => .ok v
    | none => .error (.unknownVariant s)
  | .object [(s, v)] =>
    match case? s, v with
    | none, _ => .error (.unknownVariant s)
    | some c, .null => .ok c
    | some _, _ => .error .wrongType
  | .object _ => .error .wrongValue
  | _ => .error .wrongType

/-- How deep arrays and objects may be nested. -/
def depthLimit : Nat := 128

mutual

/-- Reads any value, with `fuel` tokens and `depth` further levels at most. -/
def readValueWithin : Nat → Nat → Reader Json
  | 0, _, _ => .error .malformed
  | fuel + 1, depth, ts =>
    match ts with
    | .null :: r => .ok (.null, r)
    | .bool b :: r => .ok (.bool b, r)
    | .number (some n) :: r => .ok (.number n, r)
    | .string (some s) :: r => .ok (.string s, r)
    | .openArray :: r =>
      if depth ≤ 1 then .error .malformed
      else match r with
        | .closeArray :: r => .ok (.array [], r)
        | r => do
          let (v, r) ← readValueWithin fuel (depth - 1) r
          let (vs, r) ← readItemsWithin fuel (depth - 1) r
          pure (.array (v :: vs), r)
    | .openObject :: r =>
      if depth ≤ 1 then .error .malformed
      else match r with
        | .closeObject :: r => .ok (.object [], r)
        | .string (some k) :: .colon :: r => do
          let (v, r) ← readValueWithin fuel (depth - 1) r
          let (fs, r) ← readFieldsWithin fuel (depth - 1) r
          pure (.object ((k, v) :: fs), r)
        | _ => .error .malformed
    | _ => .error .malformed

/-- Reads further items of an array and its end. -/
def readItemsWithin : Nat → Nat → Reader (List Json)
  | 0, _, _ => .error .malformed
  | fuel + 1, depth, ts =>
    match ts with
    | .closeArray :: r => .ok ([], r)
    | .comma :: r => do
      let (v, r) ← readValueWithin fuel depth r
      let (vs, r) ← readItemsWithin fuel depth r
      pure (v :: vs, r)
    | _ => .error .malformed

/-- Reads further fields of an object and its end. -/
def readFieldsWithin : Nat → Nat → Reader (List (String × Json))
  | 0, _, _ => .error .malformed
  | fuel + 1, depth, ts =>
    match ts with
    | .closeObject :: r => .ok ([], r)
    | .comma :: .string (some k) :: .colon :: r => do
      let (v, r) ← readValueWithin fuel depth r
      let (fs, r) ← readFieldsWithin fuel depth r
      pure ((k, v) :: fs, r)
    | _ => .error .malformed

end

/-- Reads any value inside `used` levels of nesting. -/
def readValue (used : Nat) : Reader Json :=
  fun ts => readValueWithin ts.length (depthLimit - used) ts

mutual

/-- Passes over any value, with `fuel` tokens at most. -/
def skipWithin : Nat → List Token → Except Mistake (List Token)
  | 0, _ => .error .malformed
  | fuel + 1, ts =>
    match ts with
    | .null :: r => .ok r
    | .bool _ :: r => .ok r
    | .number _ :: r => .ok r
    | .string _ :: r => .ok r
    | .openArray :: .closeArray :: r => .ok r
    | .openArray :: r => (skipWithin fuel r).bind (skipItems fuel)
    | .openObject :: .closeObject :: r => .ok r
    | .openObject :: .string _ :: .colon :: r => (skipWithin fuel r).bind (skipFields fuel)
    | _ => .error .malformed

/-- Passes over further items of an array and its end. -/
def skipItems : Nat → List Token → Except Mistake (List Token)
  | 0, _ => .error .malformed
  | fuel + 1, ts =>
    match ts with
    | .closeArray :: r => .ok r
    | .comma :: r => (skipWithin fuel r).bind (skipItems fuel)
    | _ => .error .malformed

/-- Passes over further fields of an object and its end. -/
def skipFields : Nat → List Token → Except Mistake (List Token)
  | 0, _ => .error .malformed
  | fuel + 1, ts =>
    match ts with
    | .closeObject :: r => .ok r
    | .comma :: .string _ :: .colon :: r => (skipWithin fuel r).bind (skipFields fuel)
    | _ => .error .malformed

end

/-- Passes over any value. -/
def skipValue (ts : List Token) : Except Mistake (List Token) := skipWithin ts.length ts

/-- Reads a whole text: a value, and nothing behind it. -/
def readAll {α : Type} (read : Reader α) (ts : List Token) : Except Mistake α :=
  match read ts with
  | .error m => .error m
  | .ok (v, []) => .ok v
  | .ok (_, _ :: _) => .error .malformed

/-- The value of a text. -/
def ofText (s : List Char) : Except Mistake Json :=
  (readAll (readValue 0) (scan s)).map sorted

end Failover.Json
