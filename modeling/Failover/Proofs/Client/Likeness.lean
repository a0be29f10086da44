import Failover.Proofs.Client.Step
import Mathlib.Data.List.Forall2
/-!
# Runs that go alike

Two requests are executed beside each other, with the same providers and from the same instant on. If
all that their runs are made of is alike, so are the runs.

* `Likeness` : how the parts of one run compare with those of the other.  `Likeness.same`: they do not
  differ;
* `Likeness.Outcome`, `Likeness.Result`, `Likeness.Entry`, `Likeness.Tried` : how what is put together
  from these parts compares;
* `Likeness.Lawful` : what sessions, requests, transports and answers do with alike parts is alike.
  `Likeness.Paired`: of this, what is about sessions;
* `Likeness.Stand` : the two requests stand alike.  `Likeness.Stand.step`: so they do after one more
  step.  `Likeness.Stand.loop`: and after any number of them;
* `Likeness.Lawful.execute` : so whole requests go alike.
-/

set_option autoImplicit false

namespace Failover

variable {σ τ τ' : Type}

/-- How the parts of one run compare with what the other has in their place.  Requests are compared as they
    are given and as they are sent to candidates, attempts as the log tells them. -/
structure Likeness (τ τ' : Type) where
  session : Session → Session → Prop
  transport : τ → τ' → Prop
  request : Request → Request → Prop
  sent : Request → Request → Prop
  response : Response → Response → Prop
  fault : Fault → Fault → Prop
  report : AttemptReport → AttemptReport → Prop

/-- Lists that are alike item by item are the same in what alike items have in common. -/
theorem map_eq_of_forall₂ {α β γ : Type} {P : α → β → Prop} {f : α → γ} {g : β → γ}
    (h : ∀ a b, P a b → g b = f a) {l : List α} {l' : List β} (hl : List.Forall₂ P l l') :
    l'.map g = l.map f := by
  induction hl with
  | nil => rfl
  | cons hab _ ih => rw [List.map_cons, List.map_cons, h _ _ hab, ih]

namespace Likeness

/-- No difference but in the states of the transports. -/
def same (S : τ → τ' → Prop) : Likeness τ τ' where
  session s s' := s' = s
  transport := S
  request r r' := r' = r
  sent r r' := r' = r
  response r r' := r' = r
  fault f f' := f' = f
  report a a' := a' = a

variable (L : Likeness τ τ')

/-! ## What is put together from them -/

/-- Both sends were answered, or neither. -/
inductive Outcome : Except Fault Response → Except Fault Response → Prop where
  | answered {r r' : Response} (h : L.response r r') : Outcome (.ok r) (.ok r')
  | failed {f f' : Fault} (h : L.fault f f') : Outcome (.error f) (.error f')

/-- What the callers get.  Only in faults of the transports may their failures differ. -/
inductive Result : Except Failure Response → Except Failure Response → Prop where
  | answered {r r' : Response} (h : L.response r r') : Result (.ok r) (.ok r')
  | failed {f f' : Fault} (h : L.fault f f') : Result (.error (.transport f)) (.error (.transport f'))
  | same (f : Failure) : Result (.error f) (.error f)

/-- Both requests were prepared, or neither, for the same reason. -/
inductive Prepared : Except Failure Request → Except Failure Request → Prop where
  | ready {r r' : Request} (h : L.sent r r') : Prepared (.ok r) (.ok r')
  | refused (f : Failure) : Prepared (.error f) (.error f)

/-- Entries of the log.  Only what they tell of attempts and of faults may differ. -/
inductive Entry : Event → Event → Prop where
  | same (ev : Event) : Entry ev ev
  | attempt {a a' : AttemptReport} (h : L.report a a') :
    Entry (.attemptFinished a) (.attemptFinished a')
  | tryingNext (name : String) (e : Endpoint) {f f' : Fault} (h : L.fault f f') :
    Entry (.tryingNext name e f) (.tryingNext name e f')
  | notRetrying (name : String) (e : Endpoint) {f f' : Fault} (h : L.fault f f') :
    Entry (.notRetrying name e f) (.notRetrying name e f')
  | stateUnknown (name : String) (e : Endpoint) (method : String) {f f' : Fault}
    (h : L.fault f f') : Entry (.stateUnknown name e method f) (.stateUnknown name e method f')

/-- What outcomes mean for the requests. -/
inductive Meant : Verdict → Verdict → Prop where
  | answered {r r' : Response} (h : L.response r r') : Meant (.answered r) (.answered r')
  | unwell {r r' : Response} (h : L.response r r') : Meant (.unwell r) (.unwell r')
  | broken {f f' : Fault} (h : L.fault f f') : Meant (.broken f) (.broken f')
  | doubtful {f f' : Fault} (h : L.fault f f') : Meant (.doubtful f) (.doubtful f')
  | unreached {f f' : Fault} (h : L.fault f f') : Meant (.unreached f) (.unreached f')

/-- Hand-outs of the same host, at the same instant. -/
structure Handed (h h' : Handout σ) : Prop where
  host : h'.host = h.host
  session : L.session h.session h'.session
  now : h'.now = h.now
  state : h'.state = h.state
  events : h'.events = h.events

/-- Answers that took the same time. -/
structure Delivered (d : Delivery τ) (d' : Delivery τ') : Prop where
  outcome : L.Outcome d.outcome d'.outcome
  elapsed : d'.elapsed = d.elapsed
  state : L.transport d.state d'.state

/-- Attempts at the same candidate, at the same instant and of the same length. -/
structure Tried (a a' : Attempt) : Prop where
  candidate : a'.candidate = a.candidate
  request : L.sent a.request a'.request
  started : a'.started = a.started
  held : Option.Rel L.response a.held a'.held
  outcome : L.Outcome a.outcome a'.outcome
  elapsed : a'.elapsed = a.elapsed

/-- Sessions that are alike when they start. -/
def Starts (R : Roster σ) (c c' : Client) (st : σ) (supplied : Endpoint) : Prop :=
  L.session (Session.start R c.policy supplied st).value (Session.start R c'.policy supplied st).value

/-- Sessions that are alike hand out the same hosts. -/
structure Paired (R : Roster σ) (context : Context) : Prop where
  mayContinue : ∀ {s s'}, L.session s s' → ∀ now,
    s'.mayContinue context.cancellation now = s.mayContinue context.cancellation now
  bound : ∀ {s s'}, L.session s s' → s'.bound = s.bound
  next : ∀ {s s'}, L.session s s' → ∀ now st,
    L.Handed (s.next R context.cancellation now st) (s'.next R context.cancellation now st)

/-- The transports answer alike what they are alike sent, and go on doing so. -/
def Answer (T : Transport τ) (T' : Transport τ') : Prop :=
  ∀ r r' t t', L.request r r' → L.transport t t' → L.Delivered (T.send r t) (T'.send r' t')

/-- What is done with alike parts is alike. -/
structure Lawful [DomainNames] (R : Roster σ) (T : Transport τ) (T' : Transport τ') (c c' : Client)
    (context : Context) : Prop extends L.Paired R context where
  shortName : c'.shortName = c.shortName
  optIn : c'.retryNonIdempotent = c.retryNonIdempotent
  aim : ∀ {r r'}, L.request r r' →
    r'.method = r.method ∧ r'.isSecure = r.isSecure ∧ r'.endpoint = r.endpoint
  prepare : ∀ {r r'}, L.request r r' → ∀ e, L.Prepared (c.prepare r e context) (c'.prepare r' e context)
  given : ∀ {r r'}, L.sent r r' → L.request r r'
  send : L.Answer T T'
  status : ∀ {r r'}, L.response r r' → r'.status = r.status
  drain : ∀ {r r'}, L.response r r' → L.response r.drain.1 r'.drain.1 ∧
    r'.drain.2 = r.drain.2 ∧ r'.isOversized = r.isOversized
  root : ∀ {f f'}, L.fault f f' → f'.isIo = f.isIo ∧ f'.isUncertain = f.isUncertain
  tell : ∀ {a a'}, L.Tried a a' → L.report (c.attemptReport context.transactionId a)
    (c'.attemptReport context.transactionId a')

/-- The two requests stand alike. -/
structure Stand (p : Progress σ τ) (p' : Progress σ τ') : Prop where
  session : L.session p.session p'.session
  roster : p'.roster = p.roster
  transport : L.transport p.transport p'.transport
  now : p'.now = p.now
  response : Option.Rel L.response p.response p'.response
  fault : Option.Rel L.fault p.fault p'.fault
  tally : p'.tally = p.tally
  trail : List.Forall₂ L.Tried p.trail p'.trail
  reports : p'.reports = p.reports
  events : List.Forall₂ L.Entry p.events p'.events

/-- They do so after a step, both ended or both open. -/
inductive Turned : Turn σ τ → Turn σ τ' → Prop where
  | over {o o' : Except Failure Response} {p : Progress σ τ} {p' : Progress σ τ'} (ho : L.Result o o')
    (hp : L.Stand p p') : Turned (.over o p) (.over o' p')
  | on {p : Progress σ τ} {p' : Progress σ τ'} (hp : L.Stand p p') : Turned (.on p) (.on p')

variable {L}

theorem entries_refl (evs : List Event) : List.Forall₂ L.Entry evs evs :=
  List.forall₂_same.mpr fun ev _ => .same ev

/-- Where faults and what is told of attempts are the same, so is the log. -/
theorem entries_eq (hfault : ∀ f f', L.fault f f' → f' = f)
    (hreport : ∀ a a', L.report a a' → a' = a) {evs evs' : List Event}
    (h : List.Forall₂ L.Entry evs evs') : evs' = evs := by
  have hentry : ∀ ev ev', L.Entry ev ev' → ev' = ev := by
    intro ev ev' hev
    cases hev with
    | same => rfl
    | attempt h => rw [hreport _ _ h]
    | tryingNext _ _ h | notRetrying _ _ h | stateUnknown _ _ _ h => rw [hfault _ _ h]
  simpa using map_eq_of_forall₂ (f := id) (g := id) hentry h

theorem outcome_refl (hresponse : ∀ r, L.response r r) (hfault : ∀ f, L.fault f f) :
    ∀ o, L.Outcome o o
  | .ok r => .answered (hresponse r)
  | .error f => .failed (hfault f)

theorem prepared_refl (hsent : ∀ r, L.sent r r) : ∀ q, L.Prepared q q
  | .ok r => .ready (hsent r)
  | .error f => .refused f

/-- Sessions that do not differ do not come to differ. -/
theorem paired_of_eq (h : ∀ s s', L.session s s' ↔ s' = s) (R : Roster σ) (context : Context) :
    L.Paired R context where
  mayContinue hs now := by rw [(h _ _).mp hs]
  bound hs := by rw [(h _ _).mp hs]
  next hs now st := by
    rw [(h _ _).mp hs]
    exact ⟨rfl, (h _ _).mpr rfl, rfl, rfl, rfl⟩

variable {p : Progress σ τ} {p' : Progress σ τ'}

/-! ## Parts of a step -/

namespace Stand

theorem note (hp : L.Stand p p') {ev ev' : Event} (h : L.Entry ev ev') :
    L.Stand (p.note ev) (p'.note ev') :=
  { hp with events := List.rel_append hp.events (.cons h .nil) }

theorem handedOut (hp : L.Stand p p') {h h' : Handout σ} (hh : L.Handed h h') :
    L.Stand (p.handedOut h) (p'.handedOut h') :=
  { hp with
    session := hh.session
    roster := hh.state
    now := hh.now
    events := by
      show List.Forall₂ L.Entry (p.events ++ h.events) (p'.events ++ h'.events)
      rw [hh.events]
      exact List.rel_append hp.events (entries_refl _) }

theorem conclusion (hp : L.Stand p p') (f : Failure) : L.Result (p.conclusion f) (p'.conclusion f) := by
  have hresponse := hp.response
  have hfault := hp.fault
  unfold Progress.conclusion
  -- Both are taken apart together, so that the two runs are in the same case.
  generalize p.response = a, p'.response = a' at hresponse
  generalize p.fault = g, p'.fault = g' at hfault
  cases hresponse with
  | some h => exact .answered h
  | none =>
    cases hfault with
    | some h => exact .failed h
    | none => exact .same f

theorem endEarly (hp : L.Stand p p') (f : Failure) : L.Stand (p.endEarly f) (p'.endEarly f) := by
  have hevents : p'.endEvents f = p.endEvents f := by
    have hresponse := hp.response
    have hfault := hp.fault
    unfold Progress.endEvents
    generalize p.response = a, p'.response = a' at hresponse
    generalize p.fault = g, p'.fault = g' at hfault
    cases hresponse <;> cases hfault <;> rfl
  rw [Progress.endEarly, Progress.endEarly, hevents]
  exact { hp with events := List.rel_append hp.events (entries_refl _) }

theorem countFailure (hp : L.Stand p p') : L.Stand p.countFailure p'.countFailure :=
  { hp with tally := congrArg Tally.fail hp.tally }

theorem report (hp : L.Stand p p') (R : Roster σ) (name : String) (e : Endpoint) :
    L.Stand (p.report R name e) (p'.report R name e) := by
  rw [Progress.report_eq, Progress.report_eq, hp.roster, hp.reports, List.append_assoc,
    List.append_assoc]
  exact { hp with
    roster := rfl
    reports := rfl
    events := List.rel_append hp.events (entries_refl _) }

end Stand

variable {R : Roster σ} {T : Transport τ} {T' : Transport τ'} {c c' : Client} {context : Context}
  {r r' : Request}

/-- Letting go of answers that are alike leaves answers that are alike, and tells the same. -/
theorem Stand.release [DomainNames] (hl : L.Lawful R T T' c c' context) (hp : L.Stand p p') :
    L.Stand (p.release c.shortName) (p'.release c'.shortName) := by
  have hresponse := hp.response
  rw [Progress.release, Progress.release, hl.shortName]
  generalize p.response = a, p'.response = a' at hresponse
  cases hresponse with
  | none => exact { hp with response := .none, events := List.rel_append hp.events .nil }
  | @some a a' ha =>
    obtain ⟨hdrained, hfault, hoversized⟩ := hl.drain ha
    have htold : List.Forall₂ L.Entry (Progress.releaseEvents c.shortName a)
        (Progress.releaseEvents c.shortName a') := by
      rw [Progress.releaseEvents, Progress.releaseEvents, hfault, hoversized, hl.status ha]
      exact entries_refl _
    exact { hp with response := .some hdrained, events := List.rel_append hp.events htold }

/-- Sending alike requests to a candidate makes alike attempts. -/
theorem Stand.attempt [DomainNames] (hl : L.Lawful R T T' c c' context) (hp : L.Stand p p')
    {sent sent' : Request} (hsent : L.sent sent sent') (r r' : Request) (supplied e : Endpoint) :
    let made := (Job.mk c r supplied context).attempt T e sent p
    let made' := (Job.mk c' r' supplied context).attempt T' e sent' p'
    L.Tried made.1 made'.1 ∧ L.Stand made.2 made'.2 := by
  intro made made'
  have hd := hl.send _ _ _ _ (hl.given hsent) hp.transport
  have htried : L.Tried made.1 made'.1 := ⟨rfl, hsent, hp.now, hp.response, hd.outcome, hd.elapsed⟩
  refine ⟨htried, ?_⟩
  exact { hp with
    transport := hd.state
    now := congrArg₂ (· + ·) hp.now (congrArg Duration.nanos hd.elapsed)
    tally := congrArg Tally.begin hp.tally
    trail := List.rel_append hp.trail (.cons htried .nil)
    events := List.rel_append hp.events (.cons (.attempt (hl.tell htried)) .nil) }

/-- Answers that are alike mean the same for the request. -/
theorem Lawful.verdict [DomainNames] (hl : L.Lawful R T T' c c' context)
    {o o' : Except Fault Response} (ho : L.Outcome o o') (m : Method) :
    L.Meant (c.verdict m o) (c'.verdict m o') := by
  cases ho with
  | @answered a a' h =>
    have hstatus : a'.isRecoverable = a.isRecoverable :=
      congrArg Response.isRecoverableStatus (hl.status h)
    unfold Client.verdict
    simp only [hstatus]
    split
    · exact .unwell h
    · exact .answered h
  | @failed f f' h =>
    -- Nothing else of a fault is looked at.
    obtain ⟨hio, hdoubt⟩ := hl.root h
    have hrepeat : c'.mayRepeat m f' = c.mayRepeat m f := by
      rw [Client.mayRepeat, Client.mayRepeat, hdoubt, hl.optIn]
    unfold Client.verdict
    simp only [hio, hrepeat]
    split
    · exact .broken h
    · split
      · exact .unreached h
      · exact .doubtful h

/-- So what follows from attempts that are alike is alike. -/
theorem Stand.settle [DomainNames] (hl : L.Lawful R T T' c c' context) (hp : L.Stand p p')
    (hr : L.request r r') (supplied : Endpoint) {a a' : Attempt} (ha : L.Tried a a') :
    L.Turned ((Job.mk c r supplied context).settle R a p)
      ((Job.mk c' r' supplied context).settle R a' p') := by
  have hreported := hp.countFailure.report R c.shortName a.candidate
  have hmeant := hl.verdict ha.outcome r.method
  unfold Job.settle
  simp only [hl.shortName, (hl.aim hr).1, ha.candidate]
  generalize c.verdict r.method a.outcome = v, c'.verdict r.method a'.outcome = v' at hmeant
  cases hmeant with
  | answered h => exact .over (.answered h) hp
  | unwell h => exact .on { hreported with response := .some h }
  | broken h => exact .over (.failed h) (hp.countFailure.note (.notRetrying _ _ h))
  | doubtful h => exact .over (.failed h) (hreported.note (.stateUnknown _ _ _ h))
  | unreached h =>
    have hnoted := hreported.note (.tryingNext c.shortName a.candidate h)
    exact .on { hnoted with fault := .some h }

/-- **One more step of both, and they still stand alike.** -/
theorem Stand.step [DomainNames] (hl : L.Lawful R T T' c c' context) (hp : L.Stand p p')
    (hr : L.request r r') (supplied : Endpoint) :
    L.Turned ((Job.mk c r supplied context).step R T p)
      ((Job.mk c' r' supplied context).step R T' p') := by
  have hh := hl.next hp.session p.now p.roster
  have hnext : p'.session.next R context.cancellation p'.now p'.roster =
      p'.session.next R context.cancellation p.now p.roster := by rw [hp.now, hp.roster]
  have hhanded := hp.handedOut hh
  unfold Job.step
  simp only [hnext, hh.host]
  cases (p.session.next R context.cancellation p.now p.roster).host with
  | error f => exact .over (hhanded.conclusion f) (hhanded.endEarly f)
  | ok e =>
    simp only []
    split
    · exact .over (.same _) hhanded
    · -- What was kept is let go of first, so the attempt starts from where that leaves the two.
      have hprepared := hl.prepare hr e
      generalize c.prepare r e context = q, c'.prepare r' e context = q' at hprepared
      cases hprepared with
      | refused f => exact .over (.same f) hhanded
      | ready hsent =>
        obtain ⟨htried, hstand⟩ := (hhanded.release hl).attempt hl hsent r r' supplied e
        exact hstand.settle hl hr supplied htried

/-! ## Whole runs -/

/-- Any number of steps, each with its look at whether the sessions may continue. -/
theorem Stand.loop [DomainNames] (hl : L.Lawful R T T' c c' context) (hr : L.request r r')
    (supplied : Endpoint) :
    ∀ (n : Nat) {p : Progress σ τ} {p' : Progress σ τ'}, L.Stand p p' →
      let ended := (Job.mk c r supplied context).loop R T n p
      let ended' := (Job.mk c' r' supplied context).loop R T' n p'
      L.Result ended.1 ended'.1 ∧ L.Stand ended.2 ended'.2
  | 0, _, _, hp => ⟨hp.conclusion _, hp⟩
  | n + 1, p, p', hp => by
    have hmay : p'.session.mayContinue context.cancellation p'.now =
        p.session.mayContinue context.cancellation p.now := by
      rw [hp.now]
      exact hl.mayContinue hp.session p.now
    have hturn := hp.step hl hr supplied
    simp only [Job.loop, hmay]
    split
    · generalize (Job.mk c r supplied context).step R T p = turn,
        (Job.mk c' r' supplied context).step R T' p' = turn' at hturn
      obtain ⟨ho, hq⟩ | hq := hturn
      · exact ⟨ho, hq⟩
      · exact Stand.loop hl hr supplied n hq
    · exact ⟨hp.conclusion _, hp⟩

/-- Worlds with the same providers and counters at the same instant. -/
structure Around (w : World σ τ) (w' : World σ τ') : Prop where
  roster : w'.roster = w.roster
  transport : L.transport w.transport w'.transport
  now : w'.now = w.now
  stats : w'.stats = w.stats

/-- Whole requests that went alike. -/
structure Whole (x : Execution σ τ) (x' : Execution σ τ') : Prop where
  outcome : L.Result x.outcome x'.outcome
  world : L.Around x.world x'.world
  trail : List.Forall₂ L.Tried x.trail x'.trail
  reports : x'.reports = x.reports
  tally : x'.tally = x.tally
  events : List.Forall₂ L.Entry x.events x'.events

variable {w : World σ τ} {w' : World σ τ'}

theorem begin_alike (hw : L.Around w w') (r r' : Request) {supplied : Endpoint} (context : Context)
    (hs : L.Starts R c c' w.roster supplied) :
    L.Stand ((Job.mk c r supplied context).begin R w)
      ((Job.mk c' r' supplied context).begin R w') := by
  obtain ⟨st, t, now, stats⟩ := w
  obtain ⟨_, t', _, _⟩ := w'
  obtain ⟨rfl, ht, rfl, rfl⟩ := hw
  exact ⟨hs, rfl, ht, rfl, .none, .none, rfl, .nil, rfl, entries_refl _⟩

theorem Lawful.run [DomainNames] (hl : L.Lawful R T T' c c' context) (hr : L.request r r')
    (hw : L.Around w w') {supplied : Endpoint} (hs : L.Starts R c c' w.roster supplied) :
    let ended := (Job.mk c r supplied context).run R T w
    let ended' := (Job.mk c' r' supplied context).run R T' w'
    L.Result ended.1 ended'.1 ∧ L.Stand ended.2 ended'.2 := by
  have hbegin := begin_alike hw r r' context hs
  simp only [Job.run, hl.bound hbegin.session]
  exact hbegin.loop hl hr supplied _

/-- The entry for a request depends on its result and its tally in so far as they are alike. -/
theorem Lawful.requestReport [DomainNames] (hl : L.Lawful R T T' c c' context)
    {o o' : Except Failure Response} (ho : L.Result o o') (t : Tally) :
    c'.requestReport o' t = c.requestReport o t := by
  cases ho with
  | answered h =>
    simp only [Client.requestReport, Client.outcomeLabel, Client.isFailed,
      Response.isServerError, hl.status h, hl.shortName]
  | failed | same => simp only [Client.requestReport, Client.outcomeLabel, Client.isFailed, hl.shortName]

theorem Lawful.failOver [DomainNames] (hl : L.Lawful R T T' c c' context) (hr : L.request r r')
    (hw : L.Around w w') {supplied : Endpoint} (hs : L.Starts R c c' w.roster supplied) :
    L.Whole (Client.failOver R T ⟨c, r, supplied, context⟩ w)
      (Client.failOver R T' ⟨c', r', supplied, context⟩ w') := by
  obtain ⟨ho, hp⟩ := hl.run hr hw hs
  unfold Client.failOver
  simp only [hp.now, hw.now, hp.tally, hw.stats, hl.requestReport ho]
  exact ⟨ho, ⟨hp.roster, hp.transport, rfl, rfl⟩, hp.trail, hp.reports, rfl,
    List.rel_append hp.events (entries_refl _)⟩

theorem Lawful.sendDirectly [DomainNames] (hl : L.Lawful R T T' c c' context) (hr : L.request r r')
    (hw : L.Around w w') : L.Whole (Client.sendDirectly T r w) (Client.sendDirectly T' r' w') := by
  obtain ⟨ho, helapsed, hstate⟩ := hl.send _ _ _ _ hr hw.transport
  unfold Client.sendDirectly
  generalize T.send r w.transport = d, T'.send r' w'.transport = d' at ho helapsed hstate
  obtain ⟨o, elapsed, t⟩ := d
  obtain ⟨o', elapsed', t'⟩ := d'
  have hnow : w'.now + elapsed'.nanos = w.now + elapsed.nanos :=
    congrArg₂ (· + ·) hw.now (congrArg Duration.nanos helapsed)
  have hworld : L.Around ⟨w.roster, t, w.now + elapsed.nanos, w.stats⟩
      ⟨w'.roster, t', w'.now + elapsed'.nanos, w'.stats⟩ := ⟨hw.roster, hstate, hnow, hw.stats⟩
  cases ho with
  | answered h => exact ⟨.answered h, hworld, .nil, rfl, rfl, .nil⟩
  | failed h => exact ⟨.failed h, hworld, .nil, rfl, rfl, .nil⟩

/-- **Alike requests go alike**, whether they are refused, sent as they are or tried at one candidate
    after another. -/
theorem Lawful.execute [DomainNames] (hl : L.Lawful R T T' c c' context) (hr : L.request r r')
    (hw : L.Around w w') (hs : ∀ e, r.endpoint = .ok e →
      L.Starts R c c' w.roster (e.withDefaultPort Client.suppliedPort)) :
    L.Whole (c.execute R T r context w) (c'.execute R T' r' context w') := by
  have hrefused : ∀ f, L.Whole (Execution.refused f w) (Execution.refused f w') := fun f =>
    ⟨.same f, hw, .nil, rfl, rfl, .nil⟩
  obtain ⟨-, hsecure, hend⟩ := hl.aim hr
  simp only [Client.execute, hsecure, hend, hw.roster]
  split
  · exact hl.sendDirectly hr hw
  · split
    · exact hrefused _
    · rename_i e he
      split
      · exact hl.failOver hr hw (hs e he)
      · exact hrefused _

end Likeness

end Failover
