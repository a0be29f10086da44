import Failover.Configuration.Basic
/-!
# Configurations as JSON

* `Configuration.toJson` : writing; nodes are written with both ports;
* `Configuration.ofTokens`, `Configuration.ofJsonText` : reading; every field may be left out, other
  fields are passed over, and node texts are read last.
-/

set_option autoImplicit false

namespace Failover.Configuration

/-- A duration in whole milliseconds, as far as 64 bits hold them. -/
def millisField (d : Duration) : Json := .ofNat (min d.millis 18446744073709551615)

/-- A field that is left out where there is no value. -/
def textField (name : String) : Option String → List (String × Json)
  | some s => [(name, .string s)]
  | none => []

/-- The object of a configuration. -/
def toJson (c : Configuration) : Json :=
  .object (textField "shortName" c.shortName
    ++ [("path", .string c.path),
        ("primaryNodes", .array (c.primaryNodes.map fun e => .string (Node.text c.protocol e))),
        ("secondaryNodes", .array (c.secondaryNodes.map fun e => .string (Node.text c.protocol e))),
        ("retryNonIdempotentMethods", .bool c.retryNonIdempotent),
        ("resilienceStrategy", .string c.strategy.text)]
    ++ textField "transactionHeader" c.transactionHeader
    ++ [("timeoutMs", millisField c.timeout),
        ("connectTimeoutMs", millisField c.connectTimeout),
        ("continuation", c.continuation.toJson)])

/-- The fields read so far; one that was given as `null` has been read. -/
structure Fields where
  shortName : Option (Option String)
  path : Option (Option String)
  primaryNodes : Option (List String)
  secondaryNodes : Option (List String)
  retry : Option Bool
  strategy : Option Strategy
  transactionHeader : Option (Option String)
  timeoutMs : Option Nat
  connectTimeoutMs : Option Nat
  continuation : Option Continuation

/-- Nothing read yet. -/
def Fields.none : Fields :=
  ⟨.none, .none, .none, .none, .none, .none, .none, .none, .none, .none⟩

/-- Reads the value of a field that has not been read before. -/
def once {α : Type} (name : String) (seen : Option α) (read : Json.Reader α) (put : α → Fields)
    (ts : List Json.Token) : Except Json.Mistake (Fields × List Json.Token) :=
  if seen.isSome then .error (.duplicateField name)
  else (Json.readField read ts).map fun p => (put p.1, p.2)

/-- Takes in one field. -/
def Fields.step (s : Fields) (name : String) (ts : List Json.Token) :
    Except Json.Mistake (Fields × List Json.Token) :=
  match name with
  | "shortName" =>
    once name s.shortName (Json.readOption Json.readString)
      (fun v => { s with shortName := some v }) ts
  | "path" =>
    once name s.path (Json.readOption Json.readString) (fun v => { s with path := some v }) ts
  | "primaryNodes" =>
    once name s.primaryNodes (Json.readList Json.readString)
      (fun v => { s with primaryNodes := some v }) ts
  | "secondaryNodes" =>
    once name s.secondaryNodes (Json.readList Json.readString)
      (fun v => { s with secondaryNodes := some v }) ts
  | "retryNonIdempotentMethods" =>
    once name s.retry Json.readBool (fun v => { s with retry := some v }) ts
  | "resilienceStrategy" =>
    once name s.strategy (Json.readCase Strategy.ofText?) (fun v => { s with strategy := some v }) ts
  | "transactionHeader" =>
    once name s.transactionHeader (Json.readOption Json.readString)
      (fun v => { s with transactionHeader := some v }) ts
  | "timeoutMs" =>
    once name s.timeoutMs (Json.readNat 18446744073709551616)
      (fun v => { s with timeoutMs := some v }) ts
  | "connectTimeoutMs" =>
    once name s.connectTimeoutMs (Json.readNat 18446744073709551616)
      (fun v => { s with connectTimeoutMs := some v }) ts
  | "continuation" =>
    once name s.continuation Continuation.ofTokens (fun v => { s with continuation := some v }) ts
  | _ => ((Json.readColon ts).bind Json.skipValue).map fun r => (s, r)

/-- The fields in the order in which a list gives them. -/
def Fields.places : List String :=
  ["shortName", "path", "primaryNodes", "secondaryNodes", "retryNonIdempotentMethods",
    "resilienceStrategy", "transactionHeader", "timeoutMs", "connectTimeoutMs", "continuation"]

/-- The configuration of the fields; node texts are read now. -/
def Fields.configuration (s : Fields) : Except Json.Mistake Configuration :=
  match new (s.shortName.getD .none) (s.primaryNodes.getD []) (s.secondaryNodes.getD []) with
  | .error f => .error (.refused f.message)
  | .ok c => .ok { c with
      path := (s.path.getD .none).getD "/"
      retryNonIdempotent := s.retry.getD false
      strategy := s.strategy.getD .loadBalanced
      transactionHeader := s.transactionHeader.getD .none
      timeout := .ofMillis (s.timeoutMs.getD usualTimeoutMs)
      connectTimeout := .ofMillis (s.connectTimeoutMs.getD usualConnectTimeoutMs)
      continuation := s.continuation.getD .eachOnce }

/-- Reads a configuration as an object, or as a list of its values. -/
def ofTokens : Json.Reader Configuration
  | .openObject :: r => do
    let (s, r) ← Json.readFields Fields.step Fields.none r
    let c ← s.configuration
    pure (c, r)
  | .openArray :: r => do
    let (s, r) ← Json.readPlaces Fields.step Fields.places Fields.none r
    let c ← s.configuration
    pure (c, r)
  | ts => .error (Json.unexpected ts)

/-- Reads the JSON text of a configuration. -/
def ofJsonText (text : String) : Except Json.Mistake Configuration :=
  Json.readAll ofTokens (Json.scan text.toList)

/-- Reads a configuration that is there as a JSON value. A value has no mistake of form, so a part
that fits nothing is of another kind. -/
def ofJson (v : Json) : Except Json.Mistake Configuration :=
  (Json.readAll ofTokens v.tokens).mapError fun m =>
    match m with
    | .malformed => .wrongType
    | m => m

end Failover.Configuration
