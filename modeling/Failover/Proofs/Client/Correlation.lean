import Failover.Proofs.Client.Prepared
import Failover.Proofs.Text
import Failover.Proofs.Text.Utf8
import Mathlib.Logic.Function.Iterate
/-!
# Transaction ids on their way

A client passes its transaction id on in a header, and the service that receives the request may work
under the id that it finds there.  It takes off a key in front of it once more.

* `Context.named` : the id of a text that is left.  `Context.afterKey_iterate`: what is left when keys
  are taken off again and again;
* `Attempt.carried?` : the text that an attempt carries in a header.  `Client.carried_of_mem`: every
  attempt carries the id whole;
* `Context.PassedTo`, `Context.Relayed` : from one service to the next, and over any number of them;
* `Context.relayed_id_iff` : which ids arrive as they were sent, and what is left of the others;
* `Context.id_shortened` : one that does not, and one that is lost.
-/

set_option autoImplicit false

namespace Failover

open Text (pieces joined)

/-! ## Keys in front -/

namespace Context

/-- The id that a text is; an empty one is none. -/
def named : List Char → Option String
  | [] => none
  | id => some (String.ofList id)

theorem named_eq_some_iff {s : List Char} {id : String} :
    named s = some id ↔ s = id.toList ∧ s ≠ [] := by
  cases s with
  | nil => simp [named]
  | cons c r =>
    simp only [named, Option.some.injEq, ne_eq, reduceCtorEq, not_false_eq_true, and_true]
    constructor
    · rintro rfl
      rw [String.toList_ofList]
    · intro h
      rw [h, String.ofList_toList]

theorem named_eq_none_iff {s : List Char} : named s = none ↔ s = [] := by
  cases s <;> simp [named]

/-- The id of a context is what is left of the text that it was given. -/
theorem transactionId_of_given {context : Context} {given : String}
    (h : context.givenId = some given) :
    context.transactionId = named (afterKey given.toList) := by
  unfold transactionId
  rw [h]
  cases hid : afterKey given.toList <;> simp only [hid, named]

/-- A key is taken off with its equals sign. -/
theorem afterKey_append {key : List Char} (hkey : '=' ∉ key) (r : List Char) :
    afterKey (key ++ '=' :: r) = r := by
  have hdrop : (key ++ '=' :: r).dropWhile (· != '=') = '=' :: r := by
    rw [List.dropWhile_append_of_pos fun c hc => by
      rw [bne_iff_ne]
      rintro rfl
      exact hkey hc]
    rfl
  rw [afterKey, hdrop]

/-- A text without an equals sign has no key. -/
theorem afterKey_of_not_mem {s : List Char} (h : '=' ∉ s) : afterKey s = s := by
  have hdrop : s.dropWhile (· != '=') = [] := by
    rw [List.dropWhile_eq_nil_iff]
    intro c hc
    rw [bne_iff_ne]
    rintro rfl
    exact h hc
  rw [afterKey, hdrop]

theorem count_key {key : List Char} (hkey : '=' ∉ key) (r : List Char) :
    (key ++ '=' :: r).count '=' = r.count '=' + 1 := by
  rw [List.count_append, List.count_eq_zero_of_not_mem hkey, List.count_cons_self, Nat.zero_add]

/-- **Keys taken off one after another** are the pieces of the text in front; the last piece stays. -/
theorem pieces_iterate : ∀ (k : Nat) (s : List Char),
    pieces '=' (afterKey^[k] s) = (pieces '=' s).drop (min k (s.count '='))
  | 0, s => by rw [Nat.zero_min]; rfl
  | k + 1, s => by
    rw [Function.iterate_succ_apply, pieces_iterate k]
    by_cases h : '=' ∈ s
    · obtain ⟨key, r, rfl, hkey⟩ := List.eq_append_cons_of_mem h
      rw [afterKey_append hkey, Text.pieces_append r hkey, count_key hkey, Nat.add_min_add_right,
        List.drop_succ_cons]
    · rw [afterKey_of_not_mem h, List.count_eq_zero_of_not_mem h, Nat.min_zero, Nat.min_zero]

/-- The text that is left when the keys in front were taken off so often. -/
def withoutKeys (k : Nat) (s : List Char) : List Char :=
  joined ['='] ((pieces '=' s).drop (min k (s.count '=')))

theorem afterKey_iterate (k : Nat) (s : List Char) : afterKey^[k] s = withoutKeys k s := by
  rw [withoutKeys, ← pieces_iterate, Text.joined_pieces]

/-- Nothing is taken off a text without an equals sign, and something off any other. -/
theorem withoutKeys_eq_self_iff {k : Nat} {s : List Char} :
    withoutKeys k s = s ↔ k = 0 ∨ '=' ∉ s := by
  rw [← afterKey_iterate]
  constructor
  · intro h
    have hpieces := pieces_iterate k s
    rw [h] at hpieces
    have hlength := congrArg List.length hpieces
    rw [List.length_drop, Text.length_pieces] at hlength
    rw [← List.count_eq_zero]
    omega
  · rintro (rfl | h)
    · rfl
    · exact Function.iterate_fixed (afterKey_of_not_mem h) k

/-- Nothing is left of a text just when it ends in an equals sign and all of them were passed. -/
theorem withoutKeys_eq_nil_iff : ∀ {k : Nat} {s : List Char}, s ≠ [] →
    (withoutKeys k s = [] ↔ s.getLast? = some '=' ∧ s.count '=' ≤ k)
  | 0, s, hs => by
    refine iff_of_false ?_ ?_
    · rwa [withoutKeys_eq_self_iff.mpr (Or.inl rfl)]
    · rintro ⟨hlast, hcount⟩
      exact List.count_eq_zero.mp (Nat.le_zero.mp hcount) (List.mem_of_getLast? hlast)
  | k + 1, s, hs => by
    by_cases h : '=' ∈ s
    · obtain ⟨key, r, rfl, hkey⟩ := List.eq_append_cons_of_mem h
      have hleft : withoutKeys (k + 1) (key ++ '=' :: r) = withoutKeys k r := by
        rw [← afterKey_iterate, ← afterKey_iterate, Function.iterate_succ_apply,
          afterKey_append hkey]
      rw [hleft, count_key hkey, Nat.add_le_add_iff_right]
      cases r with
      | nil =>
        have hnil : withoutKeys k [] = [] := withoutKeys_eq_self_iff.mpr (Or.inr (by simp))
        simp [hnil]
      | cons c r =>
        rw [withoutKeys_eq_nil_iff (List.cons_ne_nil c r), List.getLast?_append,
          List.getLast?_cons_cons]
        simp
    · rw [withoutKeys_eq_self_iff.mpr (Or.inr h)]
      exact iff_of_false hs fun hlast => h (List.mem_of_getLast? hlast.1)

end Context

/-! ## From one service to the next -/

/-- The text that an attempt carries in a header. -/
def Attempt.carried? (a : Attempt) (n : HeaderName) : Option String :=
  (a.request.headers.get? n).map (·.lossyText)

variable {σ τ : Type}

namespace Client

variable {c : Client} {context : Context} {n : HeaderName} {id : String}

/-- What is prepared carries the id whole. -/
theorem get?_of_prepare [DomainNames] {r request : Request} {e : Endpoint}
    (hn : c.transactionHeader = some n) (hid : context.transactionId = some id)
    (h : c.prepare r e context = .ok request) :
    ∃ v, HeaderValue.ofText? id = some v ∧ request.headers.get? n = some v := by
  obtain ⟨aimed, agent, -, -, htag⟩ := prepare_ok h
  obtain ⟨n', id', v, hn', hid', hv, rfl⟩ | ⟨hnone | hnone, -⟩ := tag_ok htag
  · cases hn.symm.trans hn'
    cases hid.symm.trans hid'
    exact ⟨v, hv, Headers.get?_set_self _ _ _⟩
  · cases hn.symm.trans hnone
  · cases hid.symm.trans hnone

/-- **Every attempt carries the id whole.** -/
theorem carried_of_mem [DomainNames] {R : Roster σ} {T : Transport τ} {r : Request} {w : World σ τ}
    {a : Attempt} (hn : c.transactionHeader = some n) (hid : context.transactionId = some id)
    (ha : a ∈ (c.execute R T r context w).trail) : a.carried? n = some id := by
  obtain ⟨pre, post, ht⟩ := List.append_of_mem ha
  obtain ⟨supplied, m, -, hm, -⟩ := execute_before R T c r context w ht
  obtain ⟨v, hv, hget⟩ := get?_of_prepare hn hid hm.prepared
  rw [Attempt.carried?, hget, Option.map_some, HeaderValue.lossyText_of_ofText? hv]

end Client

namespace Context

/-- A service that works in the one context passes its transaction id on in a header of its own choice,
    and the service that receives one of its attempts works under what it finds in that header. -/
inductive PassedTo [DomainNames] (context next : Context) : Prop where
  | sent {σ τ : Type} {R : Roster σ} {T : Transport τ} {c : Client} {r : Request} {w : World σ τ}
    {n : HeaderName} {a : Attempt} (header : c.transactionHeader = some n)
    (attempt : a ∈ (c.execute R T r context w).trail) (found : next.givenId = a.carried? n) :
    PassedTo context next

/-- The contexts in which a service works that is so many services away from the one that works in the
    first context.  Each service in between works under an id itself. -/
inductive Relayed [DomainNames] (context : Context) : Nat → Context → Prop where
  | here : Relayed context 0 context
  | onward {k : Nat} {last next : Context} (before : Relayed context k last)
    (under : last.transactionId ≠ none) (passed : last.PassedTo next) : Relayed context (k + 1) next

variable {context next later : Context} {id : String} {k : Nat}

theorem PassedTo.givenId [DomainNames] (h : context.PassedTo next)
    (hid : context.transactionId = some id) : next.givenId = some id := by
  cases h with
  | sent header attempt found => rw [found, Client.carried_of_mem header hid attempt]

/-- An id is not empty. -/
theorem named_of_transactionId (hid : context.transactionId = some id) :
    named id.toList = some id := by
  obtain ⟨given, hgiven⟩ : ∃ given, context.givenId = some given := by
    cases hg : context.givenId with
    | none => simp [Context.transactionId, hg] at hid
    | some given => exact ⟨given, rfl⟩
  have hnamed := transactionId_of_given hgiven
  rw [hid] at hnamed
  obtain ⟨hleft, -⟩ := named_eq_some_iff.mp hnamed.symm
  rw [← hleft, ← hnamed]

/-- **One service more takes one key more off the id.** -/
theorem Relayed.transactionId [DomainNames] (h : context.Relayed k later)
    (hid : context.transactionId = some id) :
    later.transactionId = named (afterKey^[k] id.toList) := by
  induction h with
  | here => rw [hid, Function.iterate_zero, id_eq, named_of_transactionId hid]
  | onward before under passed ih =>
    obtain ⟨lastId, hlast⟩ := Option.ne_none_iff_exists'.mp under
    rw [hlast] at ih
    obtain ⟨hleft, -⟩ := named_eq_some_iff.mp ih.symm
    rw [transactionId_of_given (passed.givenId hlast), Function.iterate_succ_apply', hleft]

end Context

/-! ## A rehearsal -/

namespace Rehearsal

/-- The header that ids are passed on in. -/
def idHeader : HeaderName := ⟨"x-request-id"⟩

/-- Passes the id on. -/
def passingOn : Client := { client with transactionHeader := some idHeader }

/-- Works under an id that was given so. -/
def under (given : String) : Context := ⟨some given, .never⟩

/-- What becomes of a request that is sent on. -/
def passed [DomainNames] (given : String) : Execution Provider Script :=
  passingOn.execute Provider.roster Script.transport (request "GET") (under given) world

theorem under_passedTo [DomainNames] {given id : String}
    (hid : (under given).transactionId = some id) (htried : (passed given).trail ≠ []) :
    (under given).PassedTo (under id) := by
  obtain ⟨a, ha⟩ := List.exists_mem_of_ne_nil _ htried
  exact .sent rfl ha (Client.carried_of_mem rfl hid ha).symm

end Rehearsal

/-! ## Main theorem -/

namespace Context

/-- **Which ids arrive as they were sent.**

    * An attempt of a client with a transaction header carries the id whole, whatever it is;
    * so many services further, what is left of it is what follows as many equals signs, or the last one
      if there are fewer.  It arrives as it was just when it holds no equals sign, and is lost just when
      it ends in one and every one of them was passed. -/
theorem relayed_id_iff [DomainNames] {context : Context} {id : String}
    (hid : context.transactionId = some id) :
    (∀ {σ τ : Type} (R : Roster σ) (T : Transport τ) (c : Client) (r : Request) (w : World σ τ)
      (n : HeaderName), c.transactionHeader = some n →
        ∀ a ∈ (c.execute R T r context w).trail, a.carried? n = some id) ∧
    ∀ k later, context.Relayed k later →
      later.transactionId = named (withoutKeys k id.toList) ∧
      (later.transactionId = some id ↔ k = 0 ∨ '=' ∉ id.toList) ∧
      (later.transactionId = none ↔ id.toList.getLast? = some '=' ∧ id.toList.count '=' ≤ k) := by
  refine ⟨fun R T c r w n hn a ha => Client.carried_of_mem hn hid ha, ?_⟩
  intro k later h
  have hlater : later.transactionId = named (withoutKeys k id.toList) := by
    rw [h.transactionId hid, afterKey_iterate]
  obtain ⟨-, hid⟩ := named_eq_some_iff.mp (named_of_transactionId hid)
  refine ⟨hlater, ?_, ?_⟩
  · rw [hlater, ← withoutKeys_eq_self_iff, named_eq_some_iff]
    exact ⟨fun h => h.1, fun h => ⟨h, by rwa [h]⟩⟩
  · rw [hlater, ← withoutKeys_eq_nil_iff hid, named_eq_none_iff]

/-- An id without an equals sign arrives at the next service. -/
theorem rehearsed_id :
    (Rehearsal.under "key=abc").transactionId = some "abc" ∧
      (Rehearsal.under "key=abc").Relayed 1 (Rehearsal.under "abc") ∧
      (Rehearsal.under "abc").transactionId = some "abc" := by
  have hid : (Rehearsal.under "key=abc").transactionId = some "abc" := by decide +kernel
  have hpassed := Rehearsal.under_passedTo hid (by decide +kernel)
  have hrelayed : (Rehearsal.under "key=abc").Relayed 1 (Rehearsal.under "abc") :=
    .onward .here (by rw [hid]; exact Option.some_ne_none _) hpassed
  obtain ⟨-, harrives⟩ := relayed_id_iff hid
  obtain ⟨-, hwhole, -⟩ := harrives 1 _ hrelayed
  exact ⟨hid, hrelayed, hwhole.mpr (Or.inr (by decide))⟩

/-- Two ids that a header can hold, and that are sent as they are: of the one the next service has a part,
    and the other is lost. -/
theorem id_shortened :
    (Rehearsal.under "key=a=b").transactionId = some "a=b" ∧
      (HeaderValue.ofText? "a=b").isSome = true ∧
      (Rehearsal.under "key=a=b").PassedTo (Rehearsal.under "a=b") ∧
      (Rehearsal.under "a=b").transactionId = some "b" ∧
    (Rehearsal.under "key=a=").transactionId = some "a=" ∧
      (HeaderValue.ofText? "a=").isSome = true ∧
      (Rehearsal.under "key=a=").PassedTo (Rehearsal.under "a=") ∧
      (Rehearsal.under "a=").transactionId = none := by
  have hpart : (Rehearsal.under "key=a=b").transactionId = some "a=b" := by decide +kernel
  have hlost : (Rehearsal.under "key=a=").transactionId = some "a=" := by decide +kernel
  exact ⟨hpart, by decide +kernel, Rehearsal.under_passedTo hpart (by decide +kernel),
    by decide +kernel, hlost, by decide +kernel, Rehearsal.under_passedTo hlost (by decide +kernel),
    by decide +kernel⟩

end Context

end Failover
