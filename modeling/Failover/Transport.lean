import Failover.Duration
import Failover.Http.Request
import Failover.Http.Response
/-!
# Transports

* `Transport` : anything that takes a request and answers it after some time;
* `Transport.offline` : the one that answers nothing;
* `Script.transport` : one for rehearsals, with a queue of answers for each authority.  Every request
  takes one, and the last one stays.  It keeps every request that it was sent;
* `Script.on` : queues an answer for an authority; `Script.send` : what a request is answered.
-/

set_option autoImplicit false

namespace Failover

/-- What became of one request that was sent. -/
structure Delivery (τ : Type) where
  outcome : Except Fault Response
  elapsed : Duration
  state : τ

/-- A way to send requests, whose states are `τ`. -/
structure Transport (τ : Type) where
  send : Request → τ → Delivery τ

namespace Transport

/-- Whether a request can go over HTTP. -/
def speaks (r : Request) : Bool := r.url.scheme == "http" || r.url.scheme == "https"

/-- The fault of a request that cannot go over HTTP. -/
def schemeFault (r : Request) : Fault := .other ("builder error for url (" ++ r.url.text ++ ")")

/-- Refuses other schemes, and has no network for HTTP. -/
def offline : Transport Unit :=
  ⟨fun r _ =>
    let fault := if speaks r then .io .networkUnreachable "no network" else schemeFault r
    ⟨.error fault, .zero, ()⟩⟩

end Transport

/-! ## Scripts -/

/-- One answer and how long it takes. -/
structure Scripted where
  outcome : Except Fault Response
  delay : Duration

namespace Scripted

/-- Answers at once with a status and a body. -/
def ofStatus (status : Nat) (body : Bytes) : Scripted :=
  ⟨.ok ⟨if isStatus status then status else 500, .empty, .buffered body⟩, .zero⟩

/-- Fails at once. -/
def ofFault (f : Fault) : Scripted := ⟨.error f, .zero⟩

end Scripted

/-- The answers that each authority is still to give, and the requests that were sent, in order. -/
structure Script where
  queues : List (String × List Scripted)
  sent : List Request

namespace Script

/-- No answers. -/
def empty : Script := ⟨[], []⟩

/-- The authority of an endpoint. -/
def authorityOf (e : Endpoint) : String := e.urlHost ++ ":" ++ Url.portText (e.portOr 80)

/-- Puts an answer behind those of an authority. -/
def enqueue (authority : String) (s : Scripted) :
    List (String × List Scripted) → List (String × List Scripted)
  | [] => [(authority, [s])]
  | (a, q) :: rest => if a = authority then (a, q ++ [s]) :: rest else (a, q) :: enqueue authority s rest

/-- The script with one more answer for an authority. -/
def on (s : Script) (authority : String) (a : Scripted) : Script :=
  { s with queues := enqueue authority a s.queues }

/-- Takes an answer from the queue of an authority, unless it is the last. -/
def dequeue (authority : String) :
    List (String × List Scripted) → Option Scripted × List (String × List Scripted)
  | [] => (none, [])
  | (a, q) :: rest =>
    if a = authority then
      match q with
      | [] => (none, (a, []) :: rest)
      | [s] => (some s, (a, [s]) :: rest)
      | s :: q => (some s, (a, q) :: rest)
    else
      let r := dequeue authority rest
      (r.1, (a, q) :: r.2)

/-- The answer of an authority that has none. -/
def refusal (authority : String) : Scripted :=
  .ofFault (.io .connectionRefused ("nothing scripted for " ++ authority))

/-- What a request is answered. -/
def send (r : Request) (s : Script) : Delivery Script :=
  let authority := r.authorityText
  let taken := dequeue authority s.queues
  let answer := taken.1.getD (refusal authority)
  ⟨answer.outcome, answer.delay, ⟨taken.2, s.sent ++ [r]⟩⟩

/-- Answers as scripted. -/
def transport : Transport Script := ⟨send⟩

/-- Where the requests went. -/
def authorities (s : Script) : List String := s.sent.map (·.authorityText)

end Script

end Failover
