import Failover.Proofs.Client.Severity
import Failover.Proofs.Client.Traffic
import Failover.Proofs.Provider.Leaves
import Mathlib.Data.List.Forall2
/-!
# One entry for each attempt

The log of a request tells of each of its attempts when it is over, and of the request as a whole at the
end, however it gets there.

* `Event.TellsAttempt`, `Event.TellsRequest` : what these entries tell.
  `Event.countP_tellsFailure`: they tell of as many failures as there were;
* `Event.Among` : entries in the order of the log, and others between them.
  `Provider.roster_silent`: the sources of this library log none of either message;
* `Progress.Logged`, `Pending.Logged`, `Finished.Logged` : how the log keeps up with a request.
  `Traffic.move_logged`, `Traffic.run_logged`: it does so at every move, and in any traffic;
* `Client.log_complete` : what the log tells of a request.
-/

set_option autoImplicit false

namespace Failover

variable {σ τ : Type}

/-! ## What the entries tell -/

namespace Event

/-- The field of this name. -/
def field? (ev : Event) (name : String) : Option Field := ev.fields.lookup name

/-- The entry tells how the attempt went: where it went, and what came of it. -/
structure TellsAttempt (a : Attempt) (ev : Event) : Prop where
  message : ev.message = "Attempt finished"
  endpoint : ev.field? "endpoint" = some (.text a.candidate.text)
  uri : ev.field? "uri" = some (.text a.request.url.text)
  method : ev.field? "method" = some (.text a.request.method.name)
  answered : ∀ r, a.outcome = .ok r → ev.field? "status" = some (.number r.status) ∧
    ev.field? "exception_was_thrown" = some (.flag false)
  unanswered : ∀ f, a.outcome = .error f → ev.field? "status" = some (.number 0) ∧
    ev.field? "exception_was_thrown" = some (.flag true)

theorem tellsAttempt_attemptReport (c : Client) (id : Option String) (a : Attempt) :
    TellsAttempt a (.attemptFinished (c.attemptReport id a)) where
  message := rfl
  endpoint := rfl
  uri := rfl
  method := rfl
  answered := by
    intro r hr
    simp only [field?, fields, Client.attemptReport, hr]
    exact ⟨rfl, rfl⟩
  unanswered := by
    intro f hf
    simp only [field?, fields, Client.attemptReport, hf]
    exact ⟨rfl, rfl⟩

/-- By its entry, an attempt was answered with one of the statuses after which another endpoint is
    tried, or not at all. -/
def TellsFailure (ev : Event) : Prop :=
  (∃ status ∈ [500, 503, 504], ev.field? "status" = some (.number status)) ∨
    ev.field? "exception_was_thrown" = some (.flag true)

instance : DecidablePred TellsFailure := fun ev =>
  inferInstanceAs (Decidable ((∃ status ∈ [500, 503, 504],
    ev.field? "status" = some (.number status)) ∨
      ev.field? "exception_was_thrown" = some (.flag true)))

theorem TellsAttempt.tellsFailure_iff {a : Attempt} {ev : Event} (h : TellsAttempt a ev) :
    ev.TellsFailure ↔ a.Fails := by
  unfold TellsFailure Attempt.Fails
  cases ho : a.outcome with
  | ok r =>
    obtain ⟨hstatus, hflag⟩ := h.answered r ho
    simp [hstatus, hflag]
  | error f =>
    obtain ⟨hstatus, hflag⟩ := h.unanswered f ho
    simp [hflag]

/-- **The entries tell of as many failures as there were.** -/
theorem countP_tellsFailure {trail : List Attempt} {told : List Event}
    (h : List.Forall₂ TellsAttempt trail told) :
    told.countP (·.TellsFailure) = trail.countP (·.Fails) := by
  induction h with
  | nil => rfl
  | cons hev _ ih =>
    rw [List.countP_cons, List.countP_cons, ih]
    simp only [decide_eq_true_eq, hev.tellsFailure_iff]

theorem exists_of_mem_told {trail : List Attempt} {told : List Event}
    (h : List.Forall₂ TellsAttempt trail told) {ev : Event} (hev : ev ∈ told) :
    ∃ a ∈ trail, ev.TellsAttempt a := by
  induction h with
  | nil => cases hev
  | @cons a other _ _ hother _ ih =>
    rcases List.mem_cons.mp hev with rfl | hev
    · exact ⟨a, List.mem_cons_self, hother⟩
    · obtain ⟨b, hb, htells⟩ := ih hev
      exact ⟨b, List.mem_cons_of_mem a hb, htells⟩

/-- The entry tells how a request went, of whose attempts these entries tell. -/
structure TellsRequest (outcome : Except Failure Response) (told : List Event) (ev : Event) :
    Prop where
  message : ev.message = "Request finished"
  attempts : ev.field? "total_attempts" = some (.number told.length)
  failures : ev.field? "failed_attempts" = some (.number (told.countP (·.TellsFailure)))
  answered : ∀ r, outcome = .ok r →
    ev.field? "outcome" = some (.text (String.ofList (Text.decimal r.status)))
  excepted : ∀ f, outcome = .error (.transport f) → ev.field? "outcome" = some (.text "exception")
  failed : ∀ f, outcome = .error f → (∀ e, f ≠ .transport e) →
    ev.field? "outcome" = some (.text "unknown")

theorem tellsRequest_requestReport {trail : List Attempt} {told : List Event} (c : Client)
    (outcome : Except Failure Response) (tally : Tally)
    (htold : List.Forall₂ TellsAttempt trail told) (hattempts : tally.attempts = trail.length)
    (hfailed : tally.failed = trail.countP (·.Fails)) :
    TellsRequest outcome told (.requestFinished (c.requestReport outcome tally)) where
  message := rfl
  attempts := by
    rw [← htold.length_eq, ← hattempts]
    rfl
  failures := by
    rw [countP_tellsFailure htold, ← hfailed]
    rfl
  answered := by
    rintro r rfl
    rfl
  excepted := by
    rintro f rfl
    rfl
  failed := by
    rintro f rfl hother
    cases f with
    | transport e => exact absurd rfl (hother e)
    | _ => rfl

/-! ## Other entries between them -/

/-- The log has the entries in this order, and others among them of which `P` is true. -/
inductive Among (P : Event → Prop) : List Event → List Event → Prop where
  | nil : Among P [] []
  | entry {entries log : List Event} (before : Among P entries log) (ev : Event) :
    Among P (entries ++ [ev]) (log ++ [ev])
  | other {entries log : List Event} {ev : Event} (before : Among P entries log) (h : P ev) :
    Among P entries (log ++ [ev])

variable {P : Event → Prop} {entries log : List Event}

theorem Among.others (h : Among P entries log) : ∀ {more : List Event}, (∀ ev ∈ more, P ev) →
    Among P entries (log ++ more) := by
  intro more
  induction more generalizing log with
  | nil =>
    intro _
    rwa [List.append_nil]
  | cons ev more ih =>
    intro hmore
    have hnext := ih (h.other (hmore ev List.mem_cons_self))
      fun other hother => hmore other (List.mem_cons_of_mem ev hother)
    rwa [List.append_assoc] at hnext

/-- Whoever can tell the entries from the others finds them in the log. -/
theorem Among.filter_eq (h : Among P entries log) {q : Event → Bool}
    (hentries : ∀ ev ∈ entries, q ev = true) (hothers : ∀ ev, P ev → q ev = false) :
    log.filter q = entries := by
  induction h with
  | nil => rfl
  | @entry entries log _ ev ih =>
    have hev : q ev = true := hentries ev (List.mem_append_right entries (List.mem_singleton_self ev))
    rw [List.filter_append, ih fun other hother => hentries other (List.mem_append_left _ hother),
      List.filter_cons_of_pos hev, List.filter_nil]
  | @other entries log ev _ hev ih =>
    rw [List.filter_append, ih hentries, List.filter_cons_of_neg (by rw [hothers ev hev]; decide),
      List.filter_nil, List.append_nil]

end Event

/-! ## What providers log -/

namespace Roster

/-- The providers do not say that an attempt or a request is over. -/
def Silent (R : Roster σ) : Prop := ∀ ev, R.Logs ev → ¬ ev.TellsEnd

theorem Silent.not_tellsEnd {R : Roster σ} (hR : R.Silent) {ev : Event} (h : R.Aside ev) :
    ¬ ev.TellsEnd :=
  h.elim id (hR ev)

end Roster

theorem Resolver.not_tellsEnd (r : Resolver) (e : Endpoint) :
    ∀ ev ∈ (r.resolve e).2, ¬ ev.TellsEnd := by
  unfold resolve
  split
  all_goals exact List.forall_mem_singleton.mpr (by simp [Event.tellsEnd_iff])

theorem Source.roster_silent : roster.Silent := by
  rintro ev ⟨e, s, hev | hev⟩
  · cases s with
    | null | fixed | shuffled | recording | sequence => cases hev
    | shuffledAddresses nodes resolver dice =>
      obtain ⟨asked, -, hasked⟩ := List.mem_flatMap.mp hev
      exact asked.1.not_tellsEnd asked.2 ev hasked
    | lookup resolver => exact resolver.not_tellsEnd e ev hev
  · change ev ∈ (report e s).events at hev
    cases s with
    | null => cases hev
    | fixed | shuffled | shuffledAddresses | lookup =>
      simp [List.mem_singleton.mp hev, Event.tellsEnd_iff]
    | recording | sequence =>
      simp only [report] at hev
      split at hev <;> cases hev

theorem Tree.roster_silent {α : Type} {R : Roster α} (h : R.Silent) : (Tree.roster R).Silent := by
  rintro ev ⟨e, t, hev | hev⟩
  · obtain ⟨a, -, hev⟩ := mem_events_candidates hev
    exact h ev ⟨e, a, Or.inl hev⟩
  · obtain ⟨a, -, hev⟩ | rfl := mem_events_report hev
    · exact h ev ⟨e, a, Or.inr hev⟩
    · simp [Event.tellsEnd_iff]

/-- **The sources of this library log nothing of the kind.** -/
theorem Provider.roster_silent : roster.Silent := Tree.roster_silent Source.roster_silent

/-! ## Requests on their way -/

/-- So far there is one entry for each attempt in the log, and none like it but from the providers. -/
def Progress.Logged (R : Roster σ) (p : Progress σ τ) : Prop :=
  ∃ told, Event.Among R.Aside told p.events ∧ List.Forall₂ Event.TellsAttempt p.trail told

namespace Progress.Logged

variable {R : Roster σ} {p q : Progress σ τ}

theorem aside (h : p.Logged R) {more : List Event} (htrail : q.trail = p.trail)
    (hevents : q.events = p.events ++ more) (hmore : ∀ ev ∈ more, R.Aside ev) : q.Logged R := by
  obtain ⟨told, hamong, htold⟩ := h
  refine ⟨told, ?_, htrail ▸ htold⟩
  rw [hevents]
  exact hamong.others hmore

theorem told (h : p.Logged R) {more : List Event} {a : Attempt} {ev : Event}
    (htrail : q.trail = p.trail ++ [a]) (hevents : q.events = p.events ++ more ++ [ev])
    (hmore : ∀ ev ∈ more, R.Aside ev) (hev : ev.TellsAttempt a) : q.Logged R := by
  obtain ⟨told, hamong, htold⟩ := h
  refine ⟨told ++ [ev], ?_, ?_⟩
  · rw [hevents]
    exact (hamong.others hmore).entry ev
  · rw [htrail]
    exact List.rel_append htold (.cons hev .nil)

end Progress.Logged

/-- What letting go of an answer logs does not say that anything is over. -/
theorem Progress.releaseEvents_aside (R : Roster σ) (shortName : String) (kept : Option Response) :
    ∀ ev ∈ kept.elim [] (releaseEvents shortName), R.Aside ev := by
  intro ev hev
  obtain ⟨status, rfl⟩ | ⟨f, rfl⟩ := mem_releaseEvents hev
  all_goals exact Or.inl (by simp [Event.tellsEnd_iff])

/-- What holds of a request on its way: its attempts are logged and counted, and so are those of them
    that failed, apart from one from which nothing has followed yet. -/
structure Pending.Logged (R : Roster σ) (call : Pending σ τ) : Prop where
  counts : call.job.request.Counts R call.arrived
  logged : call.progress.Logged R
  attempts : call.progress.tally.attempts = call.progress.trail.length
  failed : ∃ tried, call.progress.trail = tried ++ call.awaiting.toList ∧
    call.progress.tally.failed = tried.countP (·.Fails)

namespace Pending.Logged

variable {R : Roster σ} {call : Pending σ τ} {a : Attempt} {p : Progress σ τ}

theorem failed_of_settled (h : call.Logged R) (hawaiting : call.awaiting = none) :
    call.progress.tally.failed = call.progress.trail.countP (·.Fails) := by
  obtain ⟨tried, htried, hfailed⟩ := h.failed
  rw [hfailed, htried, hawaiting, Option.toList_none, List.append_nil]

/-- Other entries may follow, and the last attempt may have been counted as failed. -/
theorem followed (h : call.Logged R) {more : List Event} (htrail : p.trail = call.progress.trail)
    (hattempts : p.tally.attempts = call.progress.tally.attempts)
    (hfailed : p.tally.failed = call.progress.trail.countP (·.Fails))
    (hevents : p.events = call.progress.events ++ more) (hmore : ∀ ev ∈ more, R.Aside ev) :
    Pending.Logged R { call with awaiting := none, progress := p } := by
  refine ⟨h.counts, h.logged.aside htrail hevents hmore, ?_, p.trail, (List.append_nil _).symm, ?_⟩
  · show p.tally.attempts = p.trail.length
    rw [hattempts, htrail]
    exact h.attempts
  · show p.tally.failed = p.trail.countP (·.Fails)
    rw [hfailed, htrail]

/-- **Sending to the next candidate** logs the attempt, and ending for want of one logs none. -/
theorem dispatch [DomainNames] (T : Transport τ) (h : call.Logged R)
    (hawaiting : call.awaiting = none) :
    (∃ o q, call.job.dispatch R T call.progress = .over o q ∧
      Pending.Logged R { call with awaiting := none, progress := q }) ∨
    ∃ a q, call.job.dispatch R T call.progress = .sent a q ∧
      Pending.Logged R { call with awaiting := some a, progress := q } := by
  have hfailed := h.failed_of_settled hawaiting
  have hasked := call.job.asked_aside R call.progress
  have hs := Job.dispatches R T call.job call.progress
  generalize call.job.dispatch R T call.progress = d at hs ⊢
  cases hs with
  | @unsupplied f =>
    have hmore := List.forall_mem_append.mpr ⟨hasked, Job.endEvents_aside R call.progress f⟩
    exact Or.inl ⟨_, _, rfl, h.followed rfl rfl hfailed (List.append_assoc ..) hmore⟩
  | unsendable =>
    exact Or.inl ⟨_, _, rfl, h.followed rfl rfl hfailed rfl hasked⟩
  | @sent e request =>
    have hmore : ∀ ev ∈ (call.job.asked R call.progress).events ++ call.progress.response.elim []
        (Progress.releaseEvents call.job.client.shortName), R.Aside ev :=
      List.forall_mem_append.mpr ⟨hasked, Progress.releaseEvents_aside R _ _⟩
    have hlogged : (Job.justSent R T call.job call.progress e request).Logged R :=
      h.logged.told rfl (congrArg (· ++ _) (List.append_assoc ..)) hmore
        (Event.tellsAttempt_attemptReport ..)
    refine Or.inr ⟨_, _, rfl, h.counts, hlogged, ?_, call.progress.trail, rfl, hfailed⟩
    show call.progress.tally.attempts + 1 = (call.progress.trail ++ [_]).length
    rw [h.attempts, List.length_append, List.length_singleton]

/-- **What follows from an answer** logs no attempt, and counts the last one if it failed. -/
theorem settle (h : call.Logged R) (hawaiting : call.awaiting = some a) :
    Pending.Logged R { call with
      awaiting := none, progress := (call.job.settle R a call.progress).progress } := by
  obtain ⟨tried, htried, hfailed⟩ := h.failed
  rw [hawaiting] at htried
  have hcount : call.progress.trail.countP (·.Fails) =
      call.progress.tally.failed + if a.Fails then 1 else 0 := by
    rw [htried, Option.toList_some, List.countP_append, List.countP_singleton, ← hfailed]
    simp only [decide_eq_true_eq]
  have hreported :=
    Progress.reported_aside R call.job.client.shortName a.candidate call.progress.roster
  have hs := Job.settles R call.job a call.progress
  generalize call.job.settle R a call.progress = turn at hs ⊢
  cases hs with
  | answered outcome fine =>
    have hfine : ¬ a.Fails := by
      rw [Attempt.fails_iff_of_ok outcome, fine]
      exact Bool.false_ne_true
    rw [if_neg hfine] at hcount
    exact h.followed rfl rfl hcount.symm (List.append_nil _).symm (by simp)
  | unwell outcome recoverable =>
    rw [if_pos ((Attempt.fails_iff_of_ok outcome).mpr recoverable)] at hcount
    rw [Job.failedAt_eq]
    exact h.followed rfl rfl hcount.symm (List.append_assoc ..) hreported
  | broken outcome =>
    rw [if_pos (Attempt.fails_of_error outcome)] at hcount
    exact h.followed rfl rfl hcount.symm rfl
      (List.forall_mem_singleton.mpr (Or.inl (by simp [Event.tellsEnd_iff])))
  | doubtful outcome | unreached outcome =>
    rw [if_pos (Attempt.fails_of_error outcome)] at hcount
    rw [Job.failedAt_eq]
    refine h.followed rfl rfl hcount.symm ((congrArg (· ++ _) (List.append_assoc ..)).trans
      (List.append_assoc ..)) ?_
    exact List.forall_mem_append.mpr ⟨hreported,
      List.forall_mem_singleton.mpr (Or.inl (by simp [Event.tellsEnd_iff]))⟩

end Pending.Logged

/-! ## Requests that have ended -/

/-- What the log of a request tells when it has ended: of each attempt, in order, and then of the request
    itself. -/
structure Execution.Tells (R : Roster σ) (run : Execution σ τ) (told : List Event) (last : Event) :
    Prop where
  attempts : List.Forall₂ Event.TellsAttempt run.trail told
  request : last.TellsRequest run.outcome told
  ends : ∃ before, run.events = before ++ [last] ∧ Event.Among R.Aside told before
  alone : R.Silent → run.events.filter (·.TellsEnd) = told ++ [last]

/-- What holds of any request that has ended. -/
structure Finished.Logged (R : Roster σ) (f : Finished σ τ) : Prop where
  counted : f.request.Counts R f.arrived → ∃ told last, f.run.Tells R told last
  uncounted : ¬ f.request.Counts R f.arrived → f.run.events = []

/-- A request that ends is logged once more, at the end. -/
theorem Pending.Logged.ended {R : Roster σ} {call : Pending σ τ} {p : Progress σ τ}
    (h : Pending.Logged R { call with awaiting := none, progress := p }) (stats : Stats)
    (o : Except Failure Response) : (call.ended stats o p).Logged R := by
  refine ⟨fun _ => ?_, fun hnot => absurd h.counts hnot⟩
  obtain ⟨told, hamong, htold⟩ := h.logged
  have hrequest := Event.tellsRequest_requestReport call.job.client o
    { p.tally with elapsed := .between call.arrived.now p.now } htold h.attempts
    (h.failed_of_settled rfl)
  refine ⟨told, _, htold, hrequest, ⟨p.events, rfl, hamong⟩, fun hsilent => ?_⟩
  have hends : ∀ ev ∈ told, ev.TellsEnd := by
    intro ev hev
    obtain ⟨a, -, ha⟩ := Event.exists_of_mem_told htold hev
    exact Or.inl ha.message
  have hbefore : p.events.filter (·.TellsEnd) = told :=
    hamong.filter_eq (fun ev hev => decide_eq_true (hends ev hev))
      fun ev hev => decide_eq_false (hsilent.not_tellsEnd hev)
  show (p.events ++ [_]).filter _ = _
  rw [List.filter_append, hbefore]
  rfl

namespace Traffic

/-- What holds of the requests of a client. -/
structure Logged (R : Roster σ) (t : Traffic σ τ) : Prop where
  pending : ∀ call ∈ t.pending, call.Logged R
  finished : ∀ f ∈ t.finished, f.Logged R

variable {R : Roster σ} {T : Transport τ} {t : Traffic σ τ} {i : Nat} {call : Pending σ τ}
  {p : Progress σ τ}

theorem Logged.finish (h : t.Logged R)
    (hp : Pending.Logged R { call with awaiting := none, progress := p })
    (o : Except Failure Response) : (t.finish i call o p).Logged R where
  pending := fun other hother => h.pending other (List.mem_of_mem_eraseIdx hother)
  finished := by
    intro f hf
    rcases List.mem_append.mp hf with hf | hf
    · exact h.finished f hf
    · rw [List.mem_singleton.mp hf]
      exact hp.ended t.world.stats o

theorem Logged.resume (h : t.Logged R) {awaiting : Option Attempt}
    (hp : Pending.Logged R { call with awaiting := awaiting, progress := p }) :
    (t.resume i call awaiting p).Logged R where
  pending := by
    intro other hother
    change other ∈ t.pending.set i _ at hother
    rcases List.mem_or_eq_of_mem_set hother with hother | rfl
    · exact h.pending other hother
    · exact hp
  finished := h.finished

/-- A request that comes has nothing logged but by the providers. -/
theorem Logged.called [DomainNames] (h : t.Logged R) (c : Client) (r : Request)
    (context : Context) : (t.call R T c r context).Logged R := by
  have hold : ∀ {g : Finished σ τ}, g.Logged R → ∀ f ∈ t.finished ++ [g], f.Logged R := by
    intro g hg f hf
    rcases List.mem_append.mp hf with hf | hf
    · exact h.finished f hf
    · rw [List.mem_singleton.mp hf]
      exact hg
  obtain ⟨hs, hcall⟩ | ⟨-, hnot, f, -, hcall⟩ | ⟨supplied, -, hcounts, hcall⟩ :=
    call_cases R T c r context t
  · have hnot : ¬ r.Counts R t.world := fun hc => by
      rw [hc.1] at hs
      cases hs
    rw [hcall]
    exact ⟨h.pending, hold ⟨fun hc => absurd hc hnot, fun _ => rfl⟩⟩
  · rw [hcall]
    exact ⟨h.pending, hold ⟨fun hc => absurd hc hnot, fun _ => rfl⟩⟩
  · rw [hcall]
    refine ⟨?_, h.finished⟩
    intro other hother
    rcases List.mem_append.mp hother with hother | hother
    · exact h.pending other hother
    · rw [List.mem_singleton.mp hother]
      have hstarted : Event.Among R.Aside [] ((c.job r supplied context).begin R t.world).events :=
        Event.Among.nil.others fun ev hev => Or.inr ⟨_, _, Or.inl hev⟩
      exact ⟨hcounts, ⟨[], hstarted, .nil⟩, rfl, [], rfl, rfl⟩

/-- **At every move the log keeps up with the requests.** -/
theorem move_logged [DomainNames] (h : t.Logged R) (c : Client) (m : Move) :
    (t.move R T c m).Logged R := by
  cases m with
  | call r context => exact h.called c r context
  | clock now => exact ⟨h.pending, h.finished⟩
  | proceed i =>
    show (t.proceed R T i).Logged R
    unfold proceed
    cases hi : t.pending[i]? with
    | none => exact h
    | some call =>
      have hcall : Pending.Logged R { call with progress := call.progress.within t.world } := by
        have hlogged := h.pending call (List.mem_of_getElem? hi)
        exact ⟨hlogged.counts, hlogged.logged, hlogged.attempts, hlogged.failed⟩
      cases hawaiting : call.awaiting with
      | some a =>
        have hnext := hcall.settle hawaiting
        simp only [hawaiting]
        rcases hs : call.job.settle R a (call.progress.within t.world) with ⟨outcome, q⟩ | q
        · rw [hs] at hnext
          exact h.finish hnext outcome
        · rw [hs] at hnext
          exact h.resume hnext
      | none =>
        simp only [hawaiting]
        split
        · obtain ⟨o, q, hs, hnext⟩ | ⟨a, q, hs, hnext⟩ := hcall.dispatch T hawaiting
          · change call.job.dispatch R T (call.progress.within t.world) = _ at hs
            rw [hs]
            exact h.finish hnext o
          · change call.job.dispatch R T (call.progress.within t.world) = _ at hs
            rw [hs]
            exact h.resume hnext
        · exact h.finish ⟨hcall.counts, hcall.logged, hcall.attempts, _, (List.append_nil _).symm,
            hcall.failed_of_settled hawaiting⟩ _

/-- **So it does in any traffic.** -/
theorem run_logged [DomainNames] (c : Client) : ∀ (ms : List Move) {t : Traffic σ τ}, t.Logged R →
    (t.run R T c ms).Logged R
  | [], _, h => h
  | m :: ms, _, h => run_logged c ms (move_logged h c m)

end Traffic

/-! ## Main theorem -/

/-- Wherever a run gets to, its session has handed out as many hosts as there were attempts. -/
theorem Job.Reaches.attempts [DomainNames] {R : Roster σ} {T : Transport τ} {j : Job}
    {w : World σ τ} {m : Progress σ τ} (h : Reaches R T j (j.begin R w) m) :
    m.session.attempts = m.trail.length := by
  have hbegin : (j.begin R w).session.attempts = 0 := by
    show (Session.start R j.client.policy j.supplied w.roster).value.attempts = 0
    unfold Session.start
    cases j.client.policy <;> rfl
  refine h.keeps (P := fun p => p.session.attempts = p.trail.length) ?_ hbegin
  intro b c e request hr hb
  have hasked : (b.session.next R j.context.cancellation b.now b.roster).host = .ok e := hr.asked
  have hnext := b.session.attempts_next R j.context.cancellation b.now b.roster
  rw [hasked] at hnext
  rw [hr.session, hr.trail, List.length_append, ← hb]
  exact hnext

namespace Client

/-- **The log of a request is complete and in order.**

    * The sources of this library do not log that an attempt or a request is over;
    * whatever requests come to a client and however they get in each other's way, the log of each that
      has ended and that counts has one entry for each of its attempts, in order, and one for the
      request at the end.  The other entries are not of this kind, unless the providers log such.  A
      request that does not count, as it goes over TLS or is refused, logs nothing;
    * so it is for a request on its own.  Its attempts are all that the transport was sent, in order and
      with the answers, and each went to the host that the session handed out in its turn. -/
theorem log_complete [DomainNames] :
    Provider.roster.Silent ∧
    ∀ {σ τ : Type} (R : Roster σ) (T : Transport τ) (c : Client) (w : World σ τ),
      (∀ moves : List Move, ∀ f ∈ ((⟨w, [], []⟩ : Traffic σ τ).run R T c moves).finished,
        f.Logged R) ∧
      ∀ (r : Request) (context : Context),
        let run := c.execute R T r context w
        Finished.Logged R ⟨r, context, w, run⟩ ∧
        (r.isSecure = false → T.replay w.transport (run.trail.map (·.request)) =
          (run.trail.map (·.outcome), run.world.transport)) ∧
        ∀ pre a post, run.trail = pre ++ a :: post → ∃ supplied m, r.endpoint = .ok supplied ∧
          Job.Before R T (c.job r supplied context) ((c.job r supplied context).begin R w) m a ∧
            m.trail = pre ∧ m.session.attempts = pre.length := by
  refine ⟨Provider.roster_silent, fun R T c w => ⟨?_, ?_⟩⟩
  · intro moves
    exact (Traffic.run_logged c moves ⟨by simp, by simp⟩).finished
  · intro r context run
    refine ⟨?_, execute_replayed R T c context w, ?_⟩
    · obtain ⟨k, hk⟩ := traffic_alone R T c r context (t := ⟨w, [], []⟩) rfl
      have hlogged := Traffic.run_logged (T := T) c (.call r context :: .replicate k (.proceed 0))
        (t := ⟨w, [], []⟩) (R := R) ⟨by simp, by simp⟩
      rw [hk] at hlogged
      exact hlogged.finished _ (List.mem_singleton_self _)
    · intro pre a post ht
      obtain ⟨supplied, m, hend, hm, htrail⟩ := execute_before R T c r context w ht
      refine ⟨supplied, m, hend, hm, htrail, ?_⟩
      rw [hm.reached.attempts, htrail]

/-- The rehearsal of a GET request is logged with three attempts, of which two failed, and then as
    answered with status 200. -/
theorem rehearsed_log :
    let run := Rehearsal.run "GET"
    (Rehearsal.request "GET").Counts Provider.roster Rehearsal.world ∧ Provider.roster.Silent ∧
    ∃ told last, run.events.filter (·.TellsEnd) = told ++ [last] ∧ told.length = 3 ∧
      last.field? "total_attempts" = some (.number 3) ∧
      last.field? "failed_attempts" = some (.number 2) ∧
      last.field? "outcome" = some (.text "200") := by
  intro run
  have hcounts : (Rehearsal.request "GET").Counts Provider.roster Rehearsal.world := by
    decide +kernel
  obtain ⟨hsilent, hlog⟩ := log_complete
  obtain ⟨-, hrequests⟩ := hlog Provider.roster Script.transport Rehearsal.client Rehearsal.world
  obtain ⟨hlogged, -⟩ := hrequests (Rehearsal.request "GET") .empty
  obtain ⟨told, last, htells⟩ := hlogged.counted hcounts
  have hlength : run.trail.length = 3 := by decide +kernel
  have hfailed : run.trail.countP (·.Fails) = 2 := by decide +kernel
  have houtcome : run.outcome.toOption.map (·.status) = some 200 := by decide +kernel
  have htold : told.length = 3 := htells.attempts.length_eq.symm.trans hlength
  have hfailures : told.countP (·.TellsFailure) = 2 :=
    (Event.countP_tellsFailure htells.attempts).trans hfailed
  have hattempts := htells.request.attempts
  have hfailures' := htells.request.failures
  rw [htold] at hattempts
  rw [hfailures] at hfailures'
  refine ⟨hcounts, hsilent, told, last, htells.alone hsilent, htold, hattempts, hfailures', ?_⟩
  cases ho : run.outcome with
  | error f =>
    rw [ho] at houtcome
    cases houtcome
  | ok r =>
    rw [ho] at houtcome
    have hstatus : r.status = 200 := Option.some.inj houtcome
    rw [htells.request.answered r ho, hstatus]
    rfl

end Client

end Failover
