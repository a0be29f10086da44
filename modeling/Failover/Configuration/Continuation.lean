import Failover.Duration
import Failover.Json.Reader
/-!
# Continuation: how often and how fast candidates are tried

* `Continuation` : what a configuration says about it;
* `Policy` : the same with times as durations;
* `Backoff.delayAfter` : the pause before the next attempt, which doubles with every attempt.
-/

set_option autoImplicit false

namespace Failover

/-- A budget of attempts with growing pauses between them; the multiplier is the first pause. -/
structure Backoff where
  budget : Nat
  multiplier : Duration
deriving DecidableEq, Repr

namespace Backoff

/-- Three attempts, the first pause a tenth of a second. -/
def standard : Backoff := ⟨3, .ofMillis 100⟩

/-- How many times the first pause follows `attempts` attempts: a power of two below 2^32. -/
def factor (attempts : Nat) : Nat :=
  if attempts - 1 < 32 then Nat.pow 2 (attempts - 1) else 4294967295

/-- The pause after so many attempts: none before the first. -/
def delayAfter (b : Backoff) (attempts : Nat) : Duration :=
  if attempts = 0 then .zero else b.multiplier.scale (factor attempts)

end Backoff

/-- How a session goes through candidates. -/
inductive Policy where
  | eachOnce
  | backoff (b : Backoff)
deriving DecidableEq, Repr

/-- What a configuration says about the policy, with the first pause in milliseconds. -/
inductive Continuation where
  | eachOnce
  | backoff (maxAttempts : UInt32) (multiplierMs : UInt64)
deriving DecidableEq, Repr, Inhabited

namespace Continuation

/-- The policy that is described. -/
def policy : Continuation → Policy
  | eachOnce => .eachOnce
  | backoff n ms => .backoff ⟨n.toNat, .ofMillis ms.toNat⟩

/-- The object that describes it. -/
def toJson : Continuation → Json
  | eachOnce => .object [("type", .string "default")]
  | backoff n ms => .object [("type", .string "exponential_backoff"),
      ("maxAttempts", .ofNat n.toNat), ("backoffMultiplierMs", .ofNat ms.toNat)]

/-- The two forms that an object can name. -/
inductive Form where
  | eachOnce
  | backoff

/-- The form of a name. -/
def Form.ofText? : String → Option Form
  | "default" => some eachOnce
  | "exponential_backoff" => some backoff
  | _ => none

/-- What has been read of an object: its form, once it has been met, and its other fields unread, the
last one first. -/
structure Fields where
  form : Option Form
  others : List (String × Json)

/-- Reads the name of a form. -/
def readForm (ts : List Json.Token) : Except Json.Mistake (Form × List Json.Token) :=
  match ts with
  | .string (some s) :: r =>
    match Form.ofText? s with
    | some f => .ok (f, r)
    | none => .error (.unknownVariant s)
  | ts => .error (Json.unexpected ts)

/-- Levels of nesting around a field of the object. -/
def nesting : Nat := 2

/-- Takes in one field. -/
def Fields.step (s : Fields) (name : String) (ts : List Json.Token) :
    Except Json.Mistake (Fields × List Json.Token) :=
  match name with
  | "type" =>
    if s.form.isSome then .error (.duplicateField "type")
    else (Json.readField readForm ts).map fun p => ({ s with form := some p.1 }, p.2)
  | name =>
    (Json.readField (Json.readValue nesting) ts).map fun p =>
      ({ s with others := (name, p.1) :: s.others }, p.2)

/-- A value as a whole number below `bound`. -/
def natOf (bound : Nat) : Json → Except Json.Mistake Nat
  | .number (.natural n) => if n < bound then .ok n else .error .wrongValue
  | .number (.negative _) => .error .wrongValue
  | _ => .error .wrongType

/-- Budget and pause among the fields, in their order. -/
def budgetOf : Option UInt32 → Option UInt64 → List (String × Json) →
    Except Json.Mistake Continuation
  | some n, some ms, [] => .ok (.backoff n ms)
  | none, _, [] => .error (.missingField "maxAttempts")
  | some _, none, [] => .error (.missingField "backoffMultiplierMs")
  | n, ms, (name, v) :: r =>
    match name with
    | "maxAttempts" =>
      if n.isSome then .error (.duplicateField "maxAttempts")
      else (natOf 4294967296 v).bind fun k => budgetOf (some (UInt32.ofNat k)) ms r
    | "backoffMultiplierMs" =>
      if ms.isSome then .error (.duplicateField "backoffMultiplierMs")
      else (natOf 18446744073709551616 v).bind fun k => budgetOf n (some (UInt64.ofNat k)) r
    | _ => budgetOf n ms r

/-- Budget and pause from a list of exactly these two. -/
def budgetOfList : List Json → Except Json.Mistake Continuation
  | n :: ms :: r => do
    let n ← natOf 4294967296 n
    let ms ← natOf 18446744073709551616 ms
    if r.isEmpty then pure (.backoff (UInt32.ofNat n) (UInt64.ofNat ms)) else throw .wrongLength
  | [n] => do
    let _ ← natOf 4294967296 n
    throw .wrongLength
  | [] => .error .wrongLength

/-- What the fields describe. -/
def Fields.continuation (s : Fields) : Except Json.Mistake Continuation :=
  match s.form with
  | none => .error (.missingField "type")
  | some .eachOnce => .ok .eachOnce
  | some .backoff => budgetOf none none s.others.reverse

/-- Reads an object, or a list that starts with the name of the form. -/
def ofTokens : Json.Reader Continuation
  | .openObject :: r => do
    let (s, r) ← Json.readFields Fields.step ⟨none, []⟩ r
    let c ← s.continuation
    pure (c, r)
  | .openArray :: .closeArray :: _ => .error (.missingField "type")
  | .openArray :: r => do
    let (form, r) ← readForm r
    let (items, r) ← Json.readItems (Json.readValue nesting) r.length r
    let c ← match form with
      | .eachOnce => pure .eachOnce
      | .backoff => budgetOfList items
    pure (c, r)
  | ts => .error (Json.unexpected ts)

end Continuation

end Failover
