import Failover.Http.Response
import Mathlib.Data.List.TakeWhile
/-!
# Draining a response

* `Response.drain_cases` : what `Response.drain` can do;
* `Response.drain_status`, `Response.drain_headers`, `Response.drain_isStreaming` : all but the body
  stays, and what is left of the body does not stream.  `Response.isRecoverable_drain`: so the response
  blames its server as before;
* `Response.drain_drain` : draining a second time changes nothing;
* `Response.delivered`, `Response.broken?` : the bytes that a stream gives, and the fault of the
  connection behind them.  `Response.collect_eq`: they are all that draining depends on;
* `Response.drain_streaming` : what becomes of a body that is drained.
-/

set_option autoImplicit false

namespace Failover

namespace Response

/-- Draining changes nothing unless something is still to be read; then it leaves what was read, or
    nothing if that is too much or the connection fails. -/
theorem drain_cases (r : Response) :
    (r.isStreaming = false ∧ r.drain = (r, .ok ())) ∨
      ∃ s, r.body = .streaming s ∧
        ((∃ b, collect [] s.chunks = .ok (some b) ∧
            r.drain = ({ r with body := .buffered b }, .ok ())) ∨
          (collect [] s.chunks = .ok none ∧ r.drain = ({ r with body := .empty }, .ok ())) ∨
          ∃ f, collect [] s.chunks = .error f ∧ r.drain = ({ r with body := .empty }, .error f)) := by
  obtain ⟨status, headers, body⟩ := r
  cases body with
  | empty => exact Or.inl ⟨rfl, rfl⟩
  | buffered => exact Or.inl ⟨rfl, rfl⟩
  | streaming s =>
    refine Or.inr ⟨s, rfl, ?_⟩
    cases hc : collect [] s.chunks with
    | error f => exact Or.inr (Or.inr ⟨f, rfl, by simp only [drain, hc]⟩)
    | ok kept =>
      cases kept with
      | none => exact Or.inr (Or.inl ⟨rfl, by simp only [drain, hc]⟩)
      | some b => exact Or.inl ⟨b, rfl, by simp only [drain, hc]⟩

theorem drain_status (r : Response) : r.drain.1.status = r.status := by
  obtain ⟨-, h⟩ | ⟨s, -, ⟨b, -, h⟩ | ⟨-, h⟩ | ⟨f, -, h⟩⟩ := r.drain_cases <;> rw [h]

/-- The body is none of what tells whether another endpoint is tried. -/
theorem isRecoverable_drain (r : Response) : r.drain.1.isRecoverable = r.isRecoverable := by
  rw [isRecoverable, drain_status]
  rfl

theorem drain_headers (r : Response) : r.drain.1.headers = r.headers := by
  obtain ⟨-, h⟩ | ⟨s, -, ⟨b, -, h⟩ | ⟨-, h⟩ | ⟨f, -, h⟩⟩ := r.drain_cases <;> rw [h]

/-- What was let go of streams no more. -/
theorem drain_isStreaming (r : Response) : r.drain.1.isStreaming = false := by
  obtain ⟨hs, h⟩ | ⟨s, -, ⟨b, -, h⟩ | ⟨-, h⟩ | ⟨f, -, h⟩⟩ := r.drain_cases
  · rw [h]
    exact hs
  all_goals
    rw [h]
    rfl

theorem drain_of_not_streaming {r : Response} (h : r.isStreaming = false) :
    r.drain = (r, .ok ()) := by
  obtain ⟨-, hd⟩ | ⟨s, hs, -⟩ := r.drain_cases
  · exact hd
  · rw [isStreaming, hs] at h
    cases h

/-- What was let go of once has nothing left to let go of. -/
theorem drain_drain (r : Response) : r.drain.1.drain.1 = r.drain.1 := by
  rw [drain_of_not_streaming r.drain_isStreaming]

end Response

/-! ## The bytes of a stream -/

namespace Chunk

/-- The bytes of a chunk; a failure has none. -/
def bytes : Chunk → Bytes
  | data b => b
  | failure _ => []

/-- The fault with which the connection fails at this chunk. -/
def fault? : Chunk → Option Fault
  | data _ => none
  | failure f => some f

@[simp] theorem fault?_data (b : Bytes) : (data b).fault? = none := rfl

@[simp] theorem fault?_failure (f : Fault) : (failure f).fault? = some f := rfl

theorem eq_failure_of_fault? {c : Chunk} {f : Fault} (h : c.fault? = some f) : c = failure f := by
  cases c with
  | data => cases h
  | failure g =>
    rw [fault?_failure, Option.some.injEq] at h
    rw [h]

end Chunk

namespace Response

/-- The fault with which the connection fails, if it does. -/
def broken? (chunks : List Chunk) : Option Fault := chunks.findSome? Chunk.fault?

@[simp] theorem broken?_nil : broken? [] = none := rfl

@[simp] theorem broken?_failure (f : Fault) (r : List Chunk) :
    broken? (.failure f :: r) = some f := rfl

@[simp] theorem broken?_data (b : Bytes) (r : List Chunk) : broken? (.data b :: r) = broken? r := rfl

/-- The bytes that come before the connection fails, or all of them if it does not. -/
def delivered (chunks : List Chunk) : Bytes :=
  (chunks.takeWhile (·.fault?.isNone)).flatMap Chunk.bytes

@[simp] theorem delivered_nil : delivered [] = [] := rfl

@[simp] theorem delivered_failure (f : Fault) (r : List Chunk) : delivered (.failure f :: r) = [] :=
  rfl

@[simp] theorem delivered_data (b : Bytes) (r : List Chunk) :
    delivered (.data b :: r) = b ++ delivered r := rfl

theorem delivered_append {front : List Chunk} (h : ∀ c ∈ front, c.fault? = none)
    (back : List Chunk) :
    delivered (front ++ back) = front.flatMap Chunk.bytes ++ delivered back := by
  have hdata : ∀ c ∈ front, c.fault?.isNone = true := by
    intro c hc
    rw [h c hc]
    rfl
  simp only [delivered, List.takeWhile_append_of_pos hdata, List.flatMap_append]

theorem delivered_of_broken?_eq_none {chunks : List Chunk} (h : broken? chunks = none) :
    delivered chunks = chunks.flatMap Chunk.bytes := by
  simpa using delivered_append (List.findSome?_eq_none_iff.mp h) []

/-- The connection fails with this fault, and not more bytes come before that than draining keeps. -/
def FailsWithin (chunks : List Chunk) (f : Fault) : Prop :=
  ∃ front back, chunks = front ++ .failure f :: back ∧ (∀ c ∈ front, c.fault? = none) ∧
    (front.flatMap Chunk.bytes).length ≤ drainLimit

theorem failsWithin_iff {chunks : List Chunk} {f : Fault} :
    FailsWithin chunks f ↔ broken? chunks = some f ∧ (delivered chunks).length ≤ drainLimit := by
  constructor
  · rintro ⟨front, back, rfl, hfront, hlen⟩
    refine ⟨?_, by simpa [delivered_append hfront] using hlen⟩
    rw [broken?, List.findSome?_append, List.findSome?_eq_none_iff.mpr hfront]
    rfl
  · rintro ⟨hfails, hlen⟩
    obtain ⟨front, c, back, rfl, hc, hfront⟩ := List.findSome?_eq_some_iff.mp hfails
    cases Chunk.eq_failure_of_fault? hc
    refine ⟨front, back, rfl, hfront, ?_⟩
    simpa [delivered_append hfront] using hlen

/-- Reading the body as it comes gives the bytes, or the fault of the connection behind them. -/
theorem concatenated_eq (chunks : List Chunk) :
    concatenated chunks =
      match broken? chunks with
      | some f => .error f
      | none => .ok (delivered chunks) := by
  induction chunks with
  | nil => rfl
  | cons c r ih =>
    cases c with
    | failure f => rfl
    | data b =>
      rw [concatenated, ih, broken?_data]
      cases broken? r <;> rfl

/-- **How the bytes are cut into chunks makes no difference.**  The sum of the chunks is checked again at
    each of them, but it only grows, so that the bytes in front of the failure decide. -/
theorem collect_eq (chunks : List Chunk) : ∀ kept : Bytes, kept.length ≤ drainLimit →
    collect kept chunks =
      if drainLimit < kept.length + (delivered chunks).length then .ok none
      else match broken? chunks with
        | some f => .error (.wrapped "draining response body" f)
        | none => .ok (some (kept ++ delivered chunks)) := by
  induction chunks with
  | nil =>
    intro kept h
    simp [collect, h]
  | cons c r ih =>
    intro kept h
    cases c with
    | failure f =>
      have hfits : ¬ drainLimit < kept.length + (delivered (.failure f :: r)).length :=
        Nat.not_lt.mpr h
      rw [if_neg hfits]
      rfl
    | data b =>
      rw [collect]
      split
      · rename_i hover
        have hmore : drainLimit < kept.length + (delivered (.data b :: r)).length := by
          simp
          omega
        rw [if_pos hmore]
      · rename_i hfits
        rw [ih (kept ++ b) (by simp; omega)]
        simp [Nat.add_assoc]

variable (status : Nat) (headers : Headers) (s : Stream)

theorem drain_eq :
    drain ⟨status, headers, .streaming s⟩ =
      if drainLimit < (delivered s.chunks).length then (⟨status, headers, .empty⟩, .ok ())
      else match broken? s.chunks with
        | some f => (⟨status, headers, .empty⟩, .error (.wrapped "draining response body" f))
        | none => (⟨status, headers, .buffered (delivered s.chunks)⟩, .ok ()) := by
  have hcollect := collect_eq s.chunks [] (Nat.zero_le _)
  simp only [List.length_nil, Nat.zero_add, List.nil_append] at hcollect
  simp only [drain, hcollect]
  by_cases hover : drainLimit < (delivered s.chunks).length
  · simp only [hover, if_true]
  · simp only [hover, if_false]
    cases broken? s.chunks <;> rfl

theorem drain_answer :
    (∃ f, (drain ⟨status, headers, .streaming s⟩).2 = .error (.wrapped "draining response body" f) ∧
        FailsWithin s.chunks f) ∨
      (drain ⟨status, headers, .streaming s⟩).2 = .ok () ∧ ∀ f, ¬ FailsWithin s.chunks f := by
  simp only [drain_eq, failsWithin_iff]
  by_cases hover : drainLimit < (delivered s.chunks).length
  · right
    simp [hover]
  · have hfits : (delivered s.chunks).length ≤ drainLimit := Nat.not_lt.mp hover
    cases hfails : broken? s.chunks with
    | some f =>
      left
      exact ⟨f, by simp [hover], rfl, hfits⟩
    | none =>
      right
      simp [hover]

theorem drain_left :
    (drain ⟨status, headers, .streaming s⟩).1 = ⟨status, headers,
      if broken? s.chunks = none ∧ (s.chunks.flatMap Chunk.bytes).length ≤ 65536 then
        .buffered (s.chunks.flatMap Chunk.bytes)
      else .empty⟩ := by
  rw [drain_eq]
  cases hfails : broken? s.chunks with
  | some f => by_cases hover : drainLimit < (delivered s.chunks).length <;> simp [hover]
  | none =>
    rw [delivered_of_broken?_eq_none hfails]
    by_cases hover : drainLimit < (s.chunks.flatMap Chunk.bytes).length
    · have hlarge : ¬ (s.chunks.flatMap Chunk.bytes).length ≤ 65536 := Nat.not_le.mpr hover
      simp only [hover, hlarge, and_false, if_true, if_false]
    · have hsmall : (s.chunks.flatMap Chunk.bytes).length ≤ 65536 := Nat.not_lt.mp hover
      simp only [hover, hsmall, and_self, if_true, if_false]

/-- **What becomes of a body that is drained.**

    * Draining fails just when the connection does, before more than 65536 bytes have come, and with its
      fault;
    * the bytes are kept if the connection does not fail and there are at most 65536 of them, and
      otherwise none are; status and headers stay;
    * nothing streams any more, and draining again succeeds and changes nothing;
    * a body that is kept reads as it would have read without being drained, as bytes, text or JSON;
    * all this depends on the bytes that come and on the fault of the connection behind them, and not
      on the chunks. -/
theorem drain_streaming :
    let r : Response := ⟨status, headers, .streaming s⟩
    let left := r.drain.1
    let whole := s.chunks.flatMap Chunk.bytes
    (∀ f, r.drain.2 = .error f ↔
        ∃ g, f = .wrapped "draining response body" g ∧ FailsWithin s.chunks g) ∧
      (r.drain.2 = .ok () ↔ ∀ g, ¬ FailsWithin s.chunks g) ∧
      left = ⟨status, headers,
        if broken? s.chunks = none ∧ whole.length ≤ 65536 then .buffered whole else .empty⟩ ∧
      left.isStreaming = false ∧ left.drain = (left, .ok ()) ∧
      (broken? s.chunks = none → whole.length ≤ 65536 →
        r.bytes = .ok whole ∧ left.bytes = r.bytes ∧ left.text = r.text ∧ left.json = r.json) ∧
      ∀ s' : Stream, delivered s'.chunks = delivered s.chunks →
        broken? s'.chunks = broken? s.chunks →
        drain ⟨status, headers, .streaming s'⟩ = r.drain := by
  intro r left whole
  have hleft : left = _ := drain_left status headers s
  have hanswer : _ ∨ _ := drain_answer status headers s
  refine ⟨?_, ?_, hleft, r.drain_isStreaming, drain_of_not_streaming r.drain_isStreaming, ?_, ?_⟩
  · intro f
    rcases hanswer with ⟨g, hd, hfails⟩ | ⟨hd, hfails⟩
    · rw [hd, Except.error.injEq]
      constructor
      · rintro rfl
        exact ⟨g, rfl, hfails⟩
      · rintro ⟨g', rfl, hfails'⟩
        have hsame : some g = some g' :=
          (failsWithin_iff.mp hfails).1.symm.trans (failsWithin_iff.mp hfails').1
        rw [Option.some.inj hsame]
    · rw [hd]
      simp [hfails]
  · rcases hanswer with ⟨g, hd, hfails⟩ | ⟨hd, hfails⟩
    · rw [hd]
      simp only [reduceCtorEq, false_iff, not_forall, not_not]
      exact ⟨g, hfails⟩
    · rw [hd]
      simp [hfails]
  · intro hfails hsmall
    have hread : r.bytes = .ok whole := by
      show concatenated s.chunks = _
      rw [concatenated_eq, hfails]
      simp only
      rw [delivered_of_broken?_eq_none hfails]
    have hkept : left.bytes = r.bytes := by
      rw [hleft, hread, if_pos ⟨hfails, hsmall⟩]
      rfl
    exact ⟨hread, hkept, by rw [text, hkept]; rfl, by rw [json, hkept]; rfl⟩
  · intro s' hbytes hfails
    show drain _ = drain _
    rw [drain_eq, drain_eq, hbytes, hfails]

end Response

end Failover
