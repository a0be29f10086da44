import Failover.Proofs.Client.Likeness
import Failover.Proofs.Pattern
import Failover.Proofs.Response
/-!
# Headers that do not reach the log

Two requests that differ in hidden headers only, with answers that do so too, leave the same log.
Headers flow into it as the maps that are told, as the size and the kind of a body, and as what the
client calls itself: the first pass the filter, the second are no secret, and the third is the
client's own.

* `Request.AgreeOn`, `Response.AgreeOn` : the same but for headers that are not picked.
  `Request.AgreeOn.prepare`: requests that agree are prepared alike, and agree in the User-Agent then;
* `Likeness.veiled` : runs that differ in hidden headers only.  `Likeness.veiled_lawful`: no part of a
  run lets them out;
* `Client.hidden_headers_stay_hidden` : whole requests, and what further patterns do.
-/

set_option autoImplicit false

namespace Failover

variable {σ τ τ' : Type}

/-! ## Requests -/

namespace Request

/-- The same request, but for headers that are not picked. -/
structure AgreeOn (P : HeaderName → Bool) (r r' : Request) : Prop where
  method : r'.method = r.method
  url : r'.url = r.url
  body : r'.body = r.body
  headers : Headers.AgreeOn P r.headers r'.headers

variable {P Q : HeaderName → Bool} {r r' : Request}

theorem AgreeOn.mono (h : r.AgreeOn P r') (hPQ : ∀ n, Q n = true → P n = true) : r.AgreeOn Q r' :=
  { h with headers := h.headers.mono hPQ }

theorem AgreeOn.setHeader (h : r.AgreeOn P r') (n : HeaderName) (v : HeaderValue) :
    (r.setHeader n v).AgreeOn (fun m => P m || m == n) (r'.setHeader n v) :=
  { h with headers := h.headers.set n v }

/-- Both are aimed at an endpoint in the same way, or neither can be. -/
theorem AgreeOn.retarget [DomainNames] (h : r.AgreeOn P r') (e : Endpoint) :
    (∃ f, r.retarget e = .error f ∧ r'.retarget e = .error f) ∨
      ∃ q q', r.retarget e = .ok q ∧ r'.retarget e = .ok q' ∧ q.AgreeOn P q' := by
  unfold Request.retarget
  rw [h.url]
  cases r.url.setHost e.urlHost with
  | error f => exact Or.inl ⟨_, rfl, rfl⟩
  | ok u =>
    cases hu : u.setPort? e.port with
    | none => exact Or.inl ⟨.invalidRequest (.noPort u.text), by simp only [hu], by simp only [hu]⟩
    | some v =>
      exact Or.inr ⟨{ r with url := v }, { r' with url := v }, by simp only [hu], by simp only [hu],
        { h with url := rfl }⟩

/-- Both are given the transaction id, or neither can be. -/
theorem AgreeOn.tag (h : r.AgreeOn P r') (c : Client) (id : Option String) :
    (∃ f, c.tag id r = .error f ∧ c.tag id r' = .error f) ∨
      ∃ q q', c.tag id r = .ok q ∧ c.tag id r' = .ok q' ∧ q.AgreeOn P q' := by
  unfold Client.tag
  cases c.transactionHeader with
  | none => exact Or.inr ⟨r, r', rfl, rfl, h⟩
  | some n =>
    cases id with
    | none => exact Or.inr ⟨r, r', rfl, rfl, h⟩
    | some id =>
      cases hv : HeaderValue.ofText? id with
      | none =>
        exact Or.inl ⟨.invalidRequest (.badTransactionId n.text), by simp only [hv], by simp only [hv]⟩
      | some v =>
        exact Or.inr ⟨r.setHeader n v, r'.setHeader n v, by simp only [hv], by simp only [hv],
          (h.setHeader n v).mono fun m hm => by simp [hm]⟩

/-- **Requests that agree are prepared alike**, and then agree in what the client calls itself,
    whatever their callers called themselves. -/
theorem AgreeOn.prepare [DomainNames] (h : r.AgreeOn P r') (c : Client) (e : Endpoint)
    (context : Context) :
    (∃ f, c.prepare r e context = .error f ∧ c.prepare r' e context = .error f) ∨
      ∃ q q', c.prepare r e context = .ok q ∧ c.prepare r' e context = .ok q' ∧
        q.AgreeOn (fun n => P n || n == .userAgent) q' := by
  unfold Client.prepare
  obtain ⟨f, hr, hr'⟩ | ⟨q, q', hr, hr', hq⟩ := h.retarget (e.withDefaultPort Client.candidatePort)
  · rw [hr, hr']
    exact Or.inl ⟨f, rfl, rfl⟩
  · rw [hr, hr']
    cases hagent : c.agentHeader context.transactionId with
    | error f => exact Or.inl ⟨f, rfl, rfl⟩
    | ok agent => exact (hq.setHeader .userAgent agent).tag c context.transactionId

end Request

/-! ## Answers -/

/-- The names that may be told, and those that say what a body is and how long. -/
def HeaderFilter.reveals (f : HeaderFilter) (n : HeaderName) : Bool :=
  f.tells n || n == .contentType || n == .contentLength

namespace Response

/-- The same answer, but for headers that are not picked. -/
structure AgreeOn (P : HeaderName → Bool) (r r' : Response) : Prop where
  status : r'.status = r.status
  body : r'.body = r.body
  headers : Headers.AgreeOn P r.headers r'.headers

variable {P : HeaderName → Bool} {r r' : Response}

/-- What is read from the body is the same. -/
theorem AgreeOn.drain (h : r.AgreeOn P r') :
    r.drain.1.AgreeOn P r'.drain.1 ∧ r'.drain.2 = r.drain.2 ∧ r'.isOversized = r.isOversized := by
  have hbody : r'.drain.1.body = r.drain.1.body ∧ r'.drain.2 = r.drain.2 := by
    unfold Response.drain
    rw [h.body]
    split
    · split <;> exact ⟨rfl, rfl⟩
    · exact ⟨h.body, rfl⟩
  have hoversized : r'.isOversized = r.isOversized := by rw [isOversized, isOversized, h.body]
  refine ⟨⟨?_, hbody.1, ?_⟩, hbody.2, hoversized⟩
  · rw [drain_status, drain_status, h.status]
  · rw [drain_headers, drain_headers]
    exact h.headers

theorem AgreeOn.contentLength? (h : r.AgreeOn P r') (hP : P .contentLength = true) :
    r'.contentLength? = r.contentLength? := by
  unfold Response.contentLength? lengthHeader?
  rw [h.body, h.headers.get? hP]

theorem AgreeOn.contentType? (h : r.AgreeOn P r') (hP : P .contentType = true) :
    r'.contentType? = r.contentType? := by
  unfold Response.contentType?
  rw [h.headers.get? hP]

end Response

/-! ## Runs -/

namespace Likeness

/-- Nothing but hidden headers differs, and once a request is prepared, its User-Agent does not. -/
def veiled (f : HeaderFilter) (S : τ → τ' → Prop) : Likeness τ τ' :=
  { same S with
    request := Request.AgreeOn f.tells
    sent := Request.AgreeOn fun n => f.tells n || n == .userAgent
    response := Response.AgreeOn f.reveals }

variable {S : τ → τ' → Prop} {T : Transport τ} {T' : Transport τ'}

/-- **What is told of an attempt does not depend on hidden headers.** -/
theorem veiled_report (c : Client) (id : Option String) {a a' : Attempt}
    (h : (veiled c.filter S).Tried a a') : c.attemptReport id a' = c.attemptReport id a := by
  obtain ⟨candidate, request, started, held, o, elapsed⟩ := a
  obtain ⟨_, request', _, held', o', _⟩ := a'
  obtain ⟨rfl, hrequest, rfl, -, ho, rfl⟩ := h
  have hrequest : request.AgreeOn (fun n => c.filter.tells n || n == .userAgent) request' := hrequest
  -- The User-Agent is hidden, but told in a field of its own: here it is the client's.
  have hagent : Client.agentOf request' = Client.agentOf request := by
    rw [Client.agentOf, Client.agentOf, hrequest.headers.get? (by simp)]
  have htold : c.filter.visible request'.headers = c.filter.visible request.headers :=
    HeaderFilter.visible_congr (hrequest.headers.mono fun n hn => by simp [hn])
  unfold Client.attemptReport
  simp only [hrequest.url, hrequest.method, hagent, htold]
  cases ho with
  | failed hf =>
    obtain rfl := hf
    rfl
  | @answered answer answer' hanswer =>
    have hanswer : answer.AgreeOn c.filter.reveals answer' := hanswer
    have hheaders : c.filter.visible answer'.headers = c.filter.visible answer.headers :=
      HeaderFilter.visible_congr
        (hanswer.headers.mono fun n hn => by simp [HeaderFilter.reveals, hn])
    simp only [hanswer.status, hanswer.contentLength? (by simp [HeaderFilter.reveals]),
      hanswer.contentType? (by simp [HeaderFilter.reveals]), hheaders]

theorem veiled_lawful [DomainNames] {c : Client} (h : (veiled c.filter S).Answer T T')
    (R : Roster σ) (context : Context) : (veiled c.filter S).Lawful R T T' c c context where
  toPaired := paired_of_eq (fun _ _ => .rfl) R context
  shortName := rfl
  optIn := rfl
  aim := by
    intro r r' hr
    have hr : r.AgreeOn c.filter.tells r' := hr
    exact ⟨hr.method, by rw [Request.isSecure, Request.isSecure, hr.url],
      by rw [Request.endpoint, Request.endpoint, hr.url]⟩
  prepare := by
    intro r r' hr e
    obtain ⟨f, hq, hq'⟩ | ⟨q, q', hq, hq', hsent⟩ := Request.AgreeOn.prepare hr c e context
    · rw [hq, hq']
      exact .refused f
    · rw [hq, hq']
      exact .ready hsent
  given := by
    intro r r' hr
    exact Request.AgreeOn.mono hr fun n hn => by simp [hn]
  send := h
  status hr := hr.status
  drain hr := hr.drain
  root := by
    rintro f _ rfl
    exact ⟨rfl, rfl⟩
  tell ha := veiled_report c context.transactionId ha

end Likeness

namespace Client

/-- **Hidden headers do not reach the log.**  Of two requests that differ in headers that the client
    hides, and that are answered alike but for such headers, both leave the same entries in the log,
    with the same fields; only the kind and the length of a body are told although their headers are
    hidden.  Whatever lawful library compiles the patterns, further ones never bring to light what was
    hidden without them, and the User-Agent is hidden under any. -/
theorem hidden_headers_stay_hidden [DomainNames] {S : τ → τ' → Prop} {T : Transport τ}
    {T' : Transport τ'} {c : Client} (hanswer : (Likeness.veiled c.filter S).Answer T T')
    (R : Roster σ) {r r' : Request} (hr : r.AgreeOn c.filter.tells r') (context : Context)
    (w : World σ τ) {t' : τ'} (ht : S w.transport t') :
    (c.execute R T' r' context ⟨w.roster, t', w.now, w.stats⟩).events =
        (c.execute R T r context w).events ∧
      ∀ library : PatternLibrary, library.Lawful →
        (∀ extra more f g, extra ⊆ more → HeaderFilter.withExtra library extra = .ok f →
          HeaderFilter.withExtra library more = .ok g →
            ∀ name, f.isVisible name = false → g.isVisible name = false) ∧
        ∀ extra f, HeaderFilter.withExtra library extra = .ok f → f.tells .userAgent = false := by
  refine ⟨?_, fun library hl => ⟨?_, fun extra f hf => HeaderFilter.hides_userAgent hl hf⟩⟩
  · have hw : (Likeness.veiled c.filter S).Around w ⟨w.roster, t', w.now, w.stats⟩ :=
      ⟨rfl, ht, rfl, rfl⟩
    have hwhole := (Likeness.veiled_lawful hanswer R context).execute hr hw fun _ _ => rfl
    exact Likeness.entries_eq (fun _ _ h => h) (fun _ _ h => h) hwhole.events
  · intro extra more f g hsub hf hg name hname
    exact HeaderFilter.hides_more hl hsub hf hg hname

/-- A password in the request and a number of the cache in the answer leave no trace. -/
theorem rehearsed_secrets :
    let f := (HeaderFilter.withExtra Pattern.library ["^Authorization$"]).toOption.getD
      ⟨fun _ => false⟩
    let c : Client := { Rehearsal.client with filter := f }
    let r := Rehearsal.request "GET"
    let r' := r.setHeader ⟨"authorization"⟩ ⟨[112, 119]⟩
    let answer : Response := ⟨200, .empty, .buffered [111, 107]⟩
    let answer' : Response := { answer with headers := Headers.empty.set ⟨"x-varnish"⟩ ⟨[55]⟩ }
    let T : Transport Unit := ⟨fun _ _ => ⟨.ok answer, .zero, ()⟩⟩
    let T' : Transport Unit := ⟨fun _ _ => ⟨.ok answer', .zero, ()⟩⟩
    let w : World Provider Unit := ⟨Rehearsal.world.roster, (), 0, .zero⟩
    r.AgreeOn f.tells r' ∧ (Likeness.veiled f fun _ _ => True).Answer T T' ∧
      (c.execute Provider.roster T r .empty w).events.length = 2 ∧
      (c.execute Provider.roster T' r' .empty w).events =
        (c.execute Provider.roster T r .empty w).events ∧
      ∀ g, HeaderFilter.withExtra Pattern.library ["^Authorization$", "^Accept$"] = .ok g →
        g.tells ⟨"authorization"⟩ = false := by
  intro f c r r' answer answer' T T' w
  have hf : HeaderFilter.withExtra Pattern.library ["^Authorization$"] = .ok f := by
    obtain ⟨filter, hfilter⟩ := ok_of_isOk
      (x := HeaderFilter.withExtra Pattern.library ["^Authorization$"]) (by decide +kernel)
    rw [hfilter]
    show Except.ok filter = Except.ok ((HeaderFilter.withExtra _ _).toOption.getD _)
    rw [hfilter]
    rfl
  have hpassword : f.tells ⟨"authorization"⟩ = false := by decide +kernel
  have hnumber : f.reveals ⟨"x-varnish"⟩ = false := by decide +kernel
  have hlength : (c.execute Provider.roster T r .empty w).events.length = 2 := by decide +kernel
  clear_value f
  have hrequests : r.AgreeOn f.tells r' :=
    ⟨rfl, rfl, rfl, Headers.agreeOn_set hpassword _ _⟩
  have hanswers : (Likeness.veiled f fun _ _ => True).Answer T T' := by
    intro _ _ _ _ _ _
    exact ⟨.answered ⟨rfl, rfl, Headers.agreeOn_set hnumber _ _⟩, rfl, trivial⟩
  obtain ⟨hsame, hpatterns⟩ := hidden_headers_stay_hidden (c := c) hanswers Provider.roster hrequests
    .empty w trivial
  obtain ⟨hmore, -⟩ := hpatterns Pattern.library Pattern.library_lawful
  exact ⟨hrequests, hanswers, hlength, hsame, fun g hg =>
    hmore _ _ f g (by simp) hf hg "authorization" hpassword⟩

end Client

end Failover
