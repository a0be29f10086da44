import Failover.Proofs.Client.Run
import Failover.Proofs.Url.Authority
import Failover.Proofs.Url.Idna
/-!
# Requests as they are sent

Every attempt carries the request that the caller gave, aimed at its candidate and signed.

* `Headers.values` : the values of a name.  `Headers.set` replaces those of one name;
* `Endpoint.ColonsInAddress` : the hosts whose text the URL parser reads as a whole;
* `Request.retarget_ok` : what re-aiming changes;
* `Client.Carries` : what a request that is sent has from the request of the caller.
  `Client.prepare_carries`: it holds of what a client prepares;
* `Client.attempts_carry_request` : it holds of every attempt of every run, and the request of an
  attempt follows from the caller's request, the candidate, the context and the client.
-/

set_option autoImplicit false

namespace Failover

/-! ## Headers -/

namespace Headers

/-- The values of a name, in order. -/
def values (h : Headers) (n : HeaderName) : List HeaderValue :=
  (h.entries.filter fun e => e.1 == n).map (·.2)

/-- A name that was set has this one value. -/
theorem values_set_self (h : Headers) (n : HeaderName) (v : HeaderValue) :
    (h.set n v).values n = [v] := by
  have hgone : (h.entries.filter fun e => e.1 != n).filter (fun e => e.1 == n) = [] := by
    rw [List.filter_filter, List.filter_eq_nil_iff]
    intro e _
    simp
  simp [values, set, hgone]

/-- What is picked by names other than the one that is set stays as it was, in order. -/
theorem filter_set {P : HeaderName → Bool} (h : Headers) {n : HeaderName} (v : HeaderValue)
    (hn : P n = false) :
    (h.set n v).entries.filter (fun e => P e.1) = h.entries.filter fun e => P e.1 := by
  have hkept : (h.entries.filter fun e => e.1 != n).filter (fun e => P e.1) =
      h.entries.filter fun e => P e.1 := by
    rw [List.filter_filter]
    refine List.filter_congr fun e _ => ?_
    cases hp : P e.1 with
    | false => rfl
    | true =>
      have hne : e.1 ≠ n := by
        rintro rfl
        rw [hn] at hp
        cases hp
      simp [hne]
  simp [set, hkept, hn]

/-- Setting one name leaves the values of the others alone. -/
theorem values_set_of_ne (h : Headers) {n m : HeaderName} (v : HeaderValue) (hm : m ≠ n) :
    (h.set n v).values m = h.values m := by
  unfold values
  rw [filter_set (P := fun x => x == m) h v (beq_eq_false_iff_ne.mpr (Ne.symm hm))]

end Headers

/-! ## Re-aiming -/

namespace Endpoint

theorem toList_urlHost (e : Endpoint) : e.urlHost.toList =
    if (Ipv6.parse? e.host.toList).isSome then '[' :: (e.host.toList ++ [']'])
    else e.host.toList := by
  unfold urlHost
  split <;> simp

/-- Colons stand in the host only as part of an IPv6 address, bare or between brackets. -/
def ColonsInAddress (e : Endpoint) : Prop :=
  ':' ∈ e.host.toList → (Ipv6.parse? e.host.toList).isSome ∨
    ∃ s, e.host.toList = '[' :: (s ++ [']']) ∧ (Ipv6.parse? s).isSome

/-- Such a host counts as a whole. -/
theorem ColonsInAddress.hostPart {e : Endpoint} (h : e.ColonsInAddress) :
    Url.hostPart e.urlHost.toList = .ok e.urlHost.toList := by
  have hbrackets : ∀ s : List Char,
      Url.hostPart ('[' :: (s ++ [']'])) = .ok ('[' :: (s ++ [']'])) := by
    intro s
    have hlast : ('[' :: (s ++ [']'])).getLast? = some ']' := by
      rw [← List.cons_append, List.getLast?_concat]
    rw [Url.hostPart, if_pos ⟨rfl, hlast⟩]
  rw [toList_urlHost]
  split
  · exact hbrackets _
  · rename_i hno
    by_cases hcolon : ':' ∈ e.host.toList
    · obtain haddress | ⟨s, hs, -⟩ := h hcolon
      · exact absurd haddress hno
      · rw [hs, hbrackets]
    · rw [Url.hostPart, Text.cut_eq_none_iff.mpr hcolon]
      simp

end Endpoint

namespace Url

theorem setHost_ok [DomainNames] {u v : Url} {s : String} (h : u.setHost s = .ok v) :
    ∃ part host, hostPart s.toList = .ok part ∧ readHost u.scheme part = .ok host ∧
      v = u.withHost (orNone host) := by
  unfold setHost at h
  split at h
  · cases h
  · split at h
    · cases h
    · obtain ⟨part, hpart, h⟩ := ok_of_bind h
      obtain ⟨host, hhost, h⟩ := ok_of_bind h
      cases h
      exact ⟨part, host, hpart, hhost, rfl⟩

theorem setPort?_some {u v : Url} {p : UInt16} {a : Authority} (ha : u.authority = some a)
    (h : u.setPort? (some p) = some v) :
    v = { u with authority := some { a with port := shownPort u.scheme p } } := by
  unfold setPort? at h
  rw [ha] at h
  simp only [] at h
  split at h
  · cases h
  · cases h
    rfl

end Url

/-- **Re-aiming changes host and port of the URL, and nothing else.** -/
theorem Request.retarget_ok [DomainNames] {r q : Request} {e : Endpoint} {p : UInt16}
    {a : Authority} (ha : r.url.authority = some a) (hp : e.port = some p)
    (h : r.retarget e = .ok q) :
    ∃ part host, Url.hostPart e.urlHost.toList = .ok part ∧
      Url.readHost r.url.scheme part = .ok host ∧
      q = { r with url := { r.url with authority := some { a with
        host := Url.orNone host
        port := Url.shownPort r.url.scheme p } } } := by
  unfold retarget at h
  cases hhost : r.url.setHost e.urlHost with
  | error f =>
    rw [hhost] at h
    cases h
  | ok u =>
    rw [hhost] at h
    obtain ⟨part, host, hpart, hread, rfl⟩ := Url.setHost_ok hhost
    simp only [] at h
    cases hport : (r.url.withHost (Url.orNone host)).setPort? e.port with
    | none =>
      rw [hport] at h
      cases h
    | some v =>
      rw [hport] at h
      cases h
      rw [hp] at hport
      have hv := Url.setPort?_some (a := { a with host := Url.orNone host })
        (by rw [Url.withHost, ha]) hport
      exact ⟨part, host, hpart, hread, by rw [hv]; rfl⟩

/-- A request that aims at an endpoint has an authority in its URL. -/
theorem Request.authority_of_endpoint {r : Request} {e : Endpoint} (h : r.endpoint = .ok e) :
    ∃ a, r.url.authority = some a := by
  unfold endpoint Endpoint.ofUrl Url.host? at h
  cases ha : r.url.authority with
  | none =>
    rw [ha] at h
    cases h
  | some a => exact ⟨a, rfl⟩

/-! ## What is sent -/

namespace Client

/-- The header passes a transaction id on. -/
def PassesIdIn (c : Client) (context : Context) (n : HeaderName) : Prop :=
  c.transactionHeader = some n ∧ context.transactionId ≠ none

/-- The client sets the header itself. -/
def SetsHeader (c : Client) (context : Context) (n : HeaderName) : Prop :=
  n = .userAgent ∨ c.PassesIdIn context n

instance (c : Client) (context : Context) : DecidablePred (c.SetsHeader context) :=
  fun _ => inferInstanceAs (Decidable (_ ∨ _ ∧ _))

/-- A request over plain HTTP that is sent to a candidate is the request of the caller, aimed at the
    candidate and signed:

    * of the URL, only host and port differ.  They are those that the candidate has in a URL of its own,
      and its port is 8080 if it names none; port 80 is left out;
    * the client says what it is, unless a transaction id takes that place;
    * a transaction id that is passed on is the only value of its header;
    * all other headers are those of the caller, with all their values and in order. -/
structure Carries [DomainNames] (c : Client) (r : Request) (candidate : Endpoint)
    (context : Context) (sent : Request) : Prop where
  method : sent.method = r.method
  body : sent.body = r.body
  url : ∃ a, r.url.authority = some a ∧
    sent.url = { r.url with authority := some { a with
      host := sent.url.host?
      port := sent.url.port? } }
  target : candidate.ColonsInAddress →
    ∃ u, Url.parse ("http://" ++ (candidate.withDefaultPort candidatePort).text ++ "/") = .ok u ∧
      sent.url.host? = u.host? ∧ sent.url.port? = u.port?
  port : sent.url.port? =
    if candidate.portOr 8080 = 80 then none else some (candidate.portOr 8080)
  agent : ¬ c.PassesIdIn context .userAgent →
    ∃ v, HeaderValue.ofText? (Client.userAgent c.shortName context.transactionId) = some v ∧
      sent.headers.values .userAgent = [v]
  tagged : ∀ n id, c.transactionHeader = some n → context.transactionId = some id →
    ∃ v, HeaderValue.ofText? id = some v ∧ sent.headers.values n = [v]
  others : sent.headers.entries.filter (fun e => ¬ c.SetsHeader context e.1) =
    r.headers.entries.filter (fun e => ¬ c.SetsHeader context e.1)

/-- A header that the client does not set has the values that the caller gave it; without an id, the
    transaction header is one of these. -/
theorem Carries.values [DomainNames] {c : Client} {r sent : Request} {candidate : Endpoint}
    {context : Context} (h : c.Carries r candidate context sent) {n : HeaderName}
    (hn : ¬ c.SetsHeader context n) : sent.headers.values n = r.headers.values n := by
  have hpick : ∀ l : List (HeaderName × HeaderValue), l.filter (fun e => e.1 == n) =
      (l.filter fun e => ¬ c.SetsHeader context e.1).filter fun e => e.1 == n := by
    intro l
    rw [List.filter_filter]
    refine List.filter_congr fun e _ => ?_
    by_cases he : e.1 = n
    · simp [he, hn]
    · simp [he]
  unfold Headers.values
  rw [hpick, hpick r.headers.entries, h.others]

/-- The headers of the aimed request, with what the client adds. -/
theorem prepare_ok [DomainNames] {c : Client} {r sent : Request} {candidate : Endpoint}
    {context : Context} (h : c.prepare r candidate context = .ok sent) :
    ∃ aimed agent, r.retarget (candidate.withDefaultPort candidatePort) = .ok aimed ∧
      HeaderValue.ofText? (Client.userAgent c.shortName context.transactionId) = some agent ∧
      c.tag context.transactionId (aimed.setHeader .userAgent agent) = .ok sent := by
  unfold prepare at h
  obtain ⟨aimed, haimed, h⟩ := ok_of_bind h
  obtain ⟨agent, hagent, h⟩ := ok_of_bind h
  unfold agentHeader at hagent
  cases hv : HeaderValue.ofText? (Client.userAgent c.shortName context.transactionId) with
  | none =>
    rw [hv] at hagent
    cases hagent
  | some v =>
    rw [hv] at hagent
    cases hagent
    exact ⟨aimed, agent, haimed, rfl, h⟩

/-- A request is tagged by setting a header, if an id is passed on, and otherwise left as it is. -/
theorem tag_ok {c : Client} {own : Option String} {r sent : Request}
    (h : c.tag own r = .ok sent) :
    (∃ n id v, c.transactionHeader = some n ∧ own = some id ∧ HeaderValue.ofText? id = some v ∧
        sent = r.setHeader n v) ∨
      (c.transactionHeader = none ∨ own = none) ∧ sent = r := by
  unfold tag at h
  cases hn : c.transactionHeader with
  | none =>
    rw [hn] at h
    cases h
    exact Or.inr ⟨Or.inl rfl, rfl⟩
  | some n =>
    cases own with
    | none =>
      rw [hn] at h
      cases h
      exact Or.inr ⟨Or.inr rfl, rfl⟩
    | some id =>
      simp only [hn] at h
      cases hv : HeaderValue.ofText? id with
      | none =>
        rw [hv] at h
        cases h
      | some v =>
        rw [hv] at h
        cases h
        exact Or.inl ⟨n, id, v, rfl, rfl, hv, rfl⟩

section

variable {c : Client} {r sent : Request} {candidate supplied : Endpoint} {context : Context}

/-- A prepared request differs from the request of the caller in its headers, and in host and port of
    its URL. -/
theorem prepare_frame [DomainNames] {a : Authority} (ha : r.url.authority = some a)
    (h : c.prepare r candidate context = .ok sent) :
    ∃ part host, Url.hostPart candidate.urlHost.toList = .ok part ∧
      Url.readHost r.url.scheme part = .ok host ∧
      sent = { r with
        url := { r.url with authority := some { a with
          host := Url.orNone host
          port := Url.shownPort r.url.scheme (candidate.portOr candidatePort) } }
        headers := sent.headers } := by
  obtain ⟨aimed, agent, haimed, -, htag⟩ := prepare_ok h
  obtain ⟨part, host, hpart, hread, rfl⟩ := Request.retarget_ok ha rfl haimed
  refine ⟨part, host, hpart, hread, ?_⟩
  obtain ⟨n, id, v, -, -, -, rfl⟩ | ⟨-, rfl⟩ := tag_ok htag
  · rfl
  · rfl

/-- Its headers are those of the caller, with what the client adds. -/
theorem prepare_headers [DomainNames] {a : Authority} (ha : r.url.authority = some a)
    (h : c.prepare r candidate context = .ok sent) :
    ∃ agent, HeaderValue.ofText? (Client.userAgent c.shortName context.transactionId) = some agent ∧
      ((∃ n id v, c.transactionHeader = some n ∧ context.transactionId = some id ∧
          HeaderValue.ofText? id = some v ∧
          sent.headers = (r.headers.set .userAgent agent).set n v) ∨
        (c.transactionHeader = none ∨ context.transactionId = none) ∧
          sent.headers = r.headers.set .userAgent agent) := by
  obtain ⟨aimed, agent, haimed, hagent, htag⟩ := prepare_ok h
  obtain ⟨part, host, -, -, rfl⟩ := Request.retarget_ok ha rfl haimed
  refine ⟨agent, hagent, ?_⟩
  obtain ⟨n, id, v, hn, hid, hv, rfl⟩ | ⟨hno, rfl⟩ := tag_ok htag
  · exact Or.inl ⟨n, id, v, hn, hid, hv, rfl⟩
  · exact Or.inr ⟨hno, rfl⟩

/-- **What a client prepares carries the request**, if that goes over plain HTTP to some endpoint. -/
theorem prepare_carries [DomainNames] (hhttp : r.url.scheme = "http")
    (hend : r.endpoint = .ok supplied) (h : c.prepare r candidate context = .ok sent) :
    c.Carries r candidate context sent := by
  obtain ⟨a, ha⟩ := Request.authority_of_endpoint hend
  obtain ⟨part, host, hpart, hread, hsent⟩ := prepare_frame ha h
  obtain ⟨agent, hagent, hheaders⟩ := prepare_headers ha h
  have hspecial : Host.special? part = .ok host := by
    rwa [hhttp] at hread
  have hnamed := Host.orNone_of_special? hspecial
  rw [hhttp, hnamed] at hsent
  constructor
  case method => rw [hsent]
  case body => rw [hsent]
  case url => exact ⟨a, ha, by rw [hsent]; rfl⟩
  case target =>
    intro hcolons
    rw [hcolons.hostPart] at hpart
    cases hpart
    -- Re-aiming reads the host from the same text that stands in the candidate's own URL.
    have hparse := Url.parse_http hspecial (candidate.portOr candidatePort)
    rw [String.ofList_toList] at hparse
    exact ⟨_, hparse, by rw [hsent]; rfl, by rw [hsent]; rfl⟩
  case port =>
    rw [hsent]
    exact Url.shownPort_http _
  case agent =>
    intro hno
    refine ⟨agent, hagent, ?_⟩
    obtain ⟨n, id, v, hn, hid, -, hset⟩ | ⟨-, hset⟩ := hheaders
    · have hne : HeaderName.userAgent ≠ n := by
        rintro rfl
        exact hno ⟨hn, by rw [hid]; exact Option.some_ne_none id⟩
      rw [hset, Headers.values_set_of_ne _ _ hne, Headers.values_set_self]
    · rw [hset, Headers.values_set_self]
  case tagged =>
    intro n id hn hid
    obtain ⟨n', id', v, hn', hid', hv, hset⟩ | ⟨hno, -⟩ := hheaders
    · cases hn.symm.trans hn'
      cases hid.symm.trans hid'
      exact ⟨v, hv, by rw [hset, Headers.values_set_self]⟩
    · rcases hno with hno | hno
      · cases hn.symm.trans hno
      · cases hid.symm.trans hno
  case others =>
    have hagentSet : decide (¬ c.SetsHeader context .userAgent) = false := by
      simp [SetsHeader]
    have hsigned := Headers.filter_set (P := fun n => decide (¬ c.SetsHeader context n)) r.headers
      agent hagentSet
    obtain ⟨n, id, v, hn, hid, -, hset⟩ | ⟨-, hset⟩ := hheaders
    · have hidSet : decide (¬ c.SetsHeader context n) = false := by
        simp [SetsHeader, PassesIdIn, hn, hid]
      rw [hset, Headers.filter_set (P := fun n => decide (¬ c.SetsHeader context n)) _ v hidSet,
        hsigned]
    · rw [hset, hsigned]

end

/-! ## Every attempt of every run -/

variable {σ τ : Type}

/-- **Every attempt carries the request of the caller.**  The trail of a run over plain HTTP is what
    its transport was sent.  The session hands out the candidate of each attempt, and what is sent to
    it is prepared from the caller's request, the candidate, the context and the client alone,
    whatever was tried before: the request itself, aimed at the candidate and signed. -/
theorem attempts_carry_request [DomainNames] (R : Roster σ) (T : Transport τ) (c : Client)
    (r : Request) (context : Context) (w : World σ τ) (hhttp : r.url.scheme = "http") :
    let run := c.execute R T r context w
    T.replay w.transport (run.trail.map (·.request)) =
        (run.trail.map (·.outcome), run.world.transport) ∧
      ∀ pre a post, run.trail = pre ++ a :: post →
        c.prepare r a.candidate context = .ok a.request ∧
          c.Carries r a.candidate context a.request ∧
          ∃ supplied m, r.endpoint = .ok supplied ∧
            let j := c.job r supplied context
            j.Reaches R T (j.begin R w) m ∧ m.trail = pre ∧
              (j.asked R m).host = .ok a.candidate := by
  have hplain : r.isSecure = false := by
    rw [Request.isSecure, hhttp]
    rfl
  refine ⟨execute_replayed R T c context w hplain, fun pre a post ht => ?_⟩
  obtain ⟨supplied, m, hend, hm, htrail⟩ := execute_before R T c r context w ht
  exact ⟨hm.prepared, prepare_carries hhttp hend hm.prepared, supplied, m, hend, hm.reached, htrail,
    hm.asked⟩

/-- The rehearsal of a PUT request sends three requests that differ in their hosts only; port 8080
    stands where a candidate names none. -/
theorem rehearsed_requests_carried :
    (Rehearsal.run "PUT").trail.map (·.request.url.text) =
        ["http://[::1]:8080/", "http://[::2]:8080/", "http://[::3]:8080/"] ∧
      ∀ a ∈ (Rehearsal.run "PUT").trail,
        Rehearsal.client.Carries (Rehearsal.request "PUT") a.candidate .empty a.request := by
  have hguarantee := attempts_carry_request Provider.roster Script.transport Rehearsal.client
    (Rehearsal.request "PUT") .empty Rehearsal.world rfl
  refine ⟨by decide +kernel, fun a ha => ?_⟩
  obtain ⟨pre, post, ht⟩ := List.append_of_mem ha
  exact (hguarantee.2 pre a post ht).2.1

end Client

end Failover
