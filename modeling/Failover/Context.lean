import Failover.Duration
/-!
# What comes with a request

* `Cancellation` : when the caller gives up waiting, if ever;
* `Context` : the transaction id that the caller works under, and its cancellation;
* `Context.transactionId` : the id alone, where it was given as `key=id`.
-/

set_option autoImplicit false

namespace Failover

/-- The instant at which a caller gives up waiting, if it does. -/
structure Cancellation where
  at? : Option Nat
deriving DecidableEq, Repr

namespace Cancellation

/-- The caller waits as long as it takes. -/
def never : Cancellation := ⟨none⟩

/-- The caller gives up at an instant, or before. -/
def orAt (c : Cancellation) (t : Nat) : Cancellation :=
  ⟨some (match c.at? with | some s => min s t | none => t)⟩

/-- Whether the caller has given up by now. -/
def isCancelled (c : Cancellation) (now : Nat) : Bool :=
  match c.at? with
  | some t => t ≤ now
  | none => false

/-- When a wait ends that would take so long: earlier if the caller gives up meanwhile. -/
def wakeAt (c : Cancellation) (now : Nat) (d : Duration) : Nat :=
  match c.at? with
  | some t => min (now + d.nanos) (max now t)
  | none => now + d.nanos

/-- Whether the caller gives up before such a wait is over. -/
def cutsShort (c : Cancellation) (now : Nat) (d : Duration) : Bool :=
  match c.at? with
  | some t => t < now + d.nanos
  | none => false

@[simp] theorem isCancelled_never (now : Nat) : never.isCancelled now = false := rfl

@[simp] theorem wakeAt_never (now : Nat) (d : Duration) :
    never.wakeAt now d = now + d.nanos := rfl

@[simp] theorem cutsShort_never (now : Nat) (d : Duration) : never.cutsShort now d = false :=
  rfl

/-- No wait ends before it began. -/
theorem le_wakeAt (c : Cancellation) (now : Nat) (d : Duration) : now ≤ c.wakeAt now d := by
  unfold wakeAt
  split <;> omega

/-- Who has given up stays so. -/
theorem isCancelled_mono (c : Cancellation) {now later : Nat} (h : now ≤ later)
    (hc : c.isCancelled now = true) : c.isCancelled later = true := by
  unfold isCancelled at *
  split at hc
  · simp_all
    omega
  · cases hc

end Cancellation

/-- What a caller hands over with a request. -/
structure Context where
  givenId : Option String
  cancellation : Cancellation
deriving DecidableEq, Repr

namespace Context

/-- Nothing at all. -/
def empty : Context := ⟨none, .never⟩

/-- What follows the first equals sign, or everything if there is none. -/
def afterKey (s : List Char) : List Char :=
  match s.dropWhile (· != '=') with
  | [] => s
  | _ :: r => r

/-- The transaction id without a key in front; an empty id is none. -/
def transactionId (c : Context) : Option String :=
  match c.givenId with
  | none => none
  | some given =>
    match afterKey given.toList with
    | [] => none
    | id => some (String.ofList id)

end Context

end Failover
