import Failover.Configuration.Json
import Failover.Proofs.Json.Scan
import Failover.Proofs.Json.Written
/-!
# Reading written configurations

* `Continuation.readsAs_toJson` : what is written about the continuation is read back;
* `Configuration.fieldsOf` : what is read of a written configuration before its node texts are;
* `Configuration.ofJsonText_text`, `Configuration.ofJson_toJson` : reading a written configuration is
  reading its node texts.
-/

set_option autoImplicit false

namespace Failover

open Json (ReadsAs TakesIn)

namespace Continuation

theorem step_number {name : String} (hname : name ≠ "type") (s : Fields) (n : Nat)
    (rest : List Json.Token) :
    Fields.step s name (.colon :: ((Json.ofNat n).tokens ++ rest)) =
      .ok ({ s with others := (name, .ofNat n) :: s.others }, rest) := by
  rw [Fields.step]
  · show (Json.readValue nesting ((Json.number (.natural n)).tokens ++ rest)).map _ = _
    rw [Json.readsAs_number]
    rfl
  · exact hname

/-- Budget and pause fit the bits that they are kept in. -/
theorem budgetOf_written (n : UInt32) (ms : UInt64) :
    budgetOf none none [("maxAttempts", .ofNat n.toNat), ("backoffMultiplierMs", .ofNat ms.toNat)] =
      .ok (.backoff n ms) := by
  have hn : natOf 4294967296 (.ofNat n.toNat) = .ok n.toNat := if_pos n.toNat_lt
  have hms : natOf 18446744073709551616 (.ofNat ms.toNat) = .ok ms.toNat := if_pos ms.toNat_lt
  rw [budgetOf, hn]
  show budgetOf _ none _ = _
  rw [budgetOf, hms]
  show budgetOf (some (UInt32.ofNat n.toNat)) (some (UInt64.ofNat ms.toNat)) [] = _
  rw [UInt32.ofNat_toNat, UInt64.ofNat_toNat]
  rfl

/-- **What is written about the continuation is read back.** -/
theorem readsAs_toJson (k : Continuation) : ReadsAs ofTokens k.toJson k := by
  intro rest
  cases k with
  | eachOnce => rfl
  | backoff n ms =>
    have hfields : TakesIn Fields.step ⟨none, []⟩
        [("type", .string "exponential_backoff"), ("maxAttempts", .ofNat n.toNat),
          ("backoffMultiplierMs", .ofNat ms.toNat)]
        ⟨some .backoff,
          [("backoffMultiplierMs", .ofNat ms.toNat), ("maxAttempts", .ofNat n.toNat)]⟩ := by
      refine .cons (t := ⟨some .backoff, []⟩) (fun _ => rfl) ?_
      exact .cons (step_number (by decide) _ _) (.cons (step_number (by decide) _ _) (.nil _))
    obtain ⟨ts, htokens, hread⟩ := Json.readFields_of_takesIn hfields rest
    rw [toJson, htokens, ofTokens, hread]
    show (Fields.continuation _ >>= _) = _
    rw [Fields.continuation]
    show (budgetOf none none [_, _] >>= _) = _
    rw [budgetOf_written]
    rfl

end Continuation

namespace Configuration

/-- What is read of a written configuration, node texts as they stand. -/
def fieldsOf (c : Configuration) : Fields where
  shortName := c.shortName.map some
  path := some (some c.path)
  primaryNodes := some (c.primaryNodes.map (Node.text c.protocol))
  secondaryNodes := some (c.secondaryNodes.map (Node.text c.protocol))
  retry := some c.retryNonIdempotent
  strategy := some c.strategy
  transactionHeader := c.transactionHeader.map some
  timeoutMs := some (min c.timeout.millis 18446744073709551615)
  connectTimeoutMs := some (min c.connectTimeout.millis 18446744073709551615)
  continuation := some c.continuation

/-- A field that has not been read is taken in. -/
theorem once_of_readsAs {α : Type} {read : Json.Reader α} {v : Json} {a : α} (h : ReadsAs read v a)
    (name : String) (put : α → Fields) (rest : List Json.Token) :
    once name none read put (.colon :: (v.tokens ++ rest)) = .ok (put a, rest) := by
  show (read (v.tokens ++ rest)).map _ = _
  rw [h]
  rfl

theorem takesIn_cons {α : Type} {read : Json.Reader α} {v : Json} {a : α} {s u : Fields}
    {name : String} {put : α → Fields} {fs : List (String × Json)} (h : ReadsAs read v a)
    (hstep : ∀ ts, Fields.step s name ts = once name none read put ts)
    (hrest : TakesIn Fields.step (put a) fs u) : TakesIn Fields.step s ((name, v) :: fs) u := by
  refine .cons (fun rest => ?_) hrest
  rw [hstep]
  exact once_of_readsAs h name put rest

/-- A text that may be left out is taken in if it is there. -/
theorem takesIn_textField {name : String} {text : Option String} {s t : Fields}
    (habsent : text = none → t = s)
    (hpresent : ∀ v, text = some v → ∀ rest,
      Fields.step s name (.colon :: ((Json.string v).tokens ++ rest)) = .ok (t, rest)) :
    TakesIn Fields.step s (textField name text) t := by
  cases text with
  | none =>
    rw [habsent rfl]
    exact .nil _
  | some v => exact .cons (hpresent v rfl) (.nil _)

/-- A duration is written in 64 bits. -/
theorem readsAs_millisField (d : Duration) :
    ReadsAs (Json.readNat 18446744073709551616) (millisField d)
      (min d.millis 18446744073709551615) :=
  Json.readsAs_nat (by omega)

theorem readsAs_nodes (p : Protocol) (es : List Endpoint) :
    ReadsAs (Json.readList Json.readString) (.array (es.map fun e => .string (Node.text p e)))
      (es.map (Node.text p)) :=
  Json.readsAs_list (fun e => Json.readsAs_string (Node.text p e)) es

/-- **The fields of a written configuration are taken in one after the other.** -/
theorem takesIn_fieldsOf (c : Configuration) :
    ∃ fs, c.toJson = .object fs ∧ TakesIn Fields.step Fields.none fs c.fieldsOf := by
  -- In the order in which they are written: the fields that may be left out stand between the others.
  have hname : TakesIn Fields.step Fields.none (textField "shortName" c.shortName)
      { Fields.none with shortName := c.shortName.map some } := by
    apply takesIn_textField
    · intro habsent
      rw [habsent]
      rfl
    · intro v hpresent rest
      rw [Fields.step, hpresent]
      exact once_of_readsAs (Json.readsAs_some v) _ _ rest
  have hmiddle : TakesIn Fields.step { Fields.none with shortName := c.shortName.map some }
      [("path", .string c.path),
        ("primaryNodes", .array (c.primaryNodes.map fun e => .string (Node.text c.protocol e))),
        ("secondaryNodes", .array (c.secondaryNodes.map fun e => .string (Node.text c.protocol e))),
        ("retryNonIdempotentMethods", .bool c.retryNonIdempotent),
        ("resilienceStrategy", .string c.strategy.text)]
      { c.fieldsOf with
        transactionHeader := none, timeoutMs := none, connectTimeoutMs := none,
        continuation := none } := by
    refine takesIn_cons (Json.readsAs_some c.path) (fun _ => by rw [Fields.step]; rfl) ?_
    refine takesIn_cons (readsAs_nodes c.protocol c.primaryNodes)
      (fun _ => by rw [Fields.step]; rfl) ?_
    refine takesIn_cons (readsAs_nodes c.protocol c.secondaryNodes)
      (fun _ => by rw [Fields.step]; rfl) ?_
    refine takesIn_cons (Json.readsAs_bool c.retryNonIdempotent)
      (fun _ => by rw [Fields.step]; rfl) ?_
    refine takesIn_cons (Json.readsAs_case (Strategy.ofText?_text c.strategy))
      (fun _ => by rw [Fields.step]; rfl) ?_
    exact .nil _
  have hheader : TakesIn Fields.step
      { c.fieldsOf with
        transactionHeader := none, timeoutMs := none, connectTimeoutMs := none,
        continuation := none }
      (textField "transactionHeader" c.transactionHeader)
      { c.fieldsOf with timeoutMs := none, connectTimeoutMs := none, continuation := none } := by
    apply takesIn_textField
    · intro habsent
      rw [fieldsOf, habsent]
      rfl
    · intro v hpresent rest
      rw [Fields.step, fieldsOf, hpresent]
      exact once_of_readsAs (Json.readsAs_some v) _ _ rest
  have hlast : TakesIn Fields.step
      { c.fieldsOf with timeoutMs := none, connectTimeoutMs := none, continuation := none }
      [("timeoutMs", millisField c.timeout), ("connectTimeoutMs", millisField c.connectTimeout),
        ("continuation", c.continuation.toJson)]
      c.fieldsOf := by
    refine takesIn_cons (readsAs_millisField c.timeout) (fun _ => by rw [Fields.step]) ?_
    refine takesIn_cons (readsAs_millisField c.connectTimeout) (fun _ => by rw [Fields.step]) ?_
    refine takesIn_cons (Continuation.readsAs_toJson c.continuation)
      (fun _ => by rw [Fields.step]) ?_
    exact .nil _
  exact ⟨_, rfl, ((hname.append hmiddle).append hheader).append hlast⟩

theorem plainFields_textField (name : String) (text : Option String) :
    Json.PlainFields (textField name text) := by
  cases text with
  | none => trivial
  | some v => exact ⟨trivial, trivial⟩

theorem plainItems_nodes (p : Protocol) : ∀ es : List Endpoint,
    Json.PlainItems (es.map fun e => .string (Node.text p e))
  | [] => trivial
  | _ :: es => ⟨trivial, plainItems_nodes p es⟩

theorem plain_continuation (k : Continuation) : Json.Plain k.toJson := by
  cases k with
  | eachOnce => exact ⟨trivial, trivial⟩
  | backoff n ms =>
    have hn := n.toNat_lt
    have hms := ms.toNat_lt
    exact ⟨trivial, by show n.toNat < _; omega, by show ms.toNat < _; omega, trivial⟩

/-- All numbers that are written fit 64 bits. -/
theorem plain_toJson (c : Configuration) : Json.Plain c.toJson := by
  have hmillis : ∀ d : Duration, Json.Plain (millisField d) := by
    intro d
    show min d.millis 18446744073709551615 < 18446744073709551616
    omega
  refine ((plainFields_textField _ _).append ?_).append (plainFields_textField _ _) |>.append ?_
  · exact ⟨trivial, plainItems_nodes _ _, plainItems_nodes _ _, trivial, trivial, trivial⟩
  · exact ⟨hmillis _, hmillis _, plain_continuation _, trivial⟩

theorem ofTokens_toJson (c : Configuration) (rest : List Json.Token) :
    ofTokens (c.toJson.tokens ++ rest) = c.fieldsOf.configuration.map fun d => (d, rest) := by
  obtain ⟨fs, hfs, htakes⟩ := takesIn_fieldsOf c
  obtain ⟨ts, htokens, hread⟩ := Json.readFields_of_takesIn htakes rest
  rw [hfs, htokens, ofTokens, hread]
  show (c.fieldsOf.configuration >>= _) = _
  cases c.fieldsOf.configuration <;> rfl

/-- **Reading a written configuration is reading its node texts.** -/
theorem ofJsonText_text (c : Configuration) :
    ofJsonText c.toJson.text = c.fieldsOf.configuration := by
  have htokens : Json.scan c.toJson.text.toList = c.toJson.tokens := by
    rw [Json.text, String.toList_ofList, Json.scan_chars (plain_toJson c)]
  have hread := ofTokens_toJson c []
  rw [List.append_nil] at hread
  rw [ofJsonText, htokens, Json.readAll, hread]
  cases c.fieldsOf.configuration <;> rfl

end Configuration

end Failover
