import Failover.Proofs.Builder.Acceptance
import Failover.Proofs.Client.Cancellation
import Failover.Proofs.Configuration.Addressing
/-!
# Names that no request can carry

Every request says in its User-Agent what its client is called.  A client may be called anything, but a
header does not hold everything.

* `HeaderValue.Holds` : the characters that a header can hold.  `HeaderValue.ofText?_ok_iff`: it holds a
  text of such characters, and no other;
* `Job.HandsOut` : a host comes up while a request is tried.  `Job.run_named`, `Job.run_misnamed`: what
  becomes of it then, by the name of the client alone;
* `Builder.build_renamed` : a client is built under any name;
* `Client.invalid_iff_misnamed` : **when a client that was built cannot send**.
-/

set_option autoImplicit false

namespace Failover

variable {σ τ : Type}

/-! ## What headers hold -/

namespace HeaderValue

/-- A header can hold the character: it is no control character of ASCII, or else the tab. -/
def Holds (c : Char) : Prop := (0x20 ≤ c.toNat ∧ c.toNat ≠ 0x7F) ∨ c.toNat = 0x09

instance : DecidablePred Holds := fun c =>
  inferInstanceAs (Decidable ((0x20 ≤ c.toNat ∧ c.toNat ≠ 0x7F) ∨ c.toNat = 0x09))

/-- The bytes of a character beyond ASCII are all beyond ASCII. -/
theorem le_of_mem_utf8EncodeChar {c : Char} (hc : 0x80 ≤ c.toNat) {b : UInt8}
    (hb : b ∈ String.utf8EncodeChar c) : 0x80 ≤ b.toNat := by
  have hbyte : ∀ n, 0x80 ≤ n → n < 0x100 → b = UInt8.ofNat n → 0x80 ≤ b.toNat := by
    rintro n hle hlt rfl
    rwa [UInt8.toNat_ofNat', Nat.mod_eq_of_lt hlt]
  have hbeyond : ¬ c.val.toNat ≤ 127 := Nat.not_le.mpr hc
  unfold String.utf8EncodeChar at hb
  simp only [if_neg hbeyond] at hb
  split at hb
  · simp only [List.mem_cons, List.not_mem_nil, or_false] at hb
    rcases hb with hb | hb <;> exact hbyte _ (by omega) (by omega) hb
  · split at hb
    · simp only [List.mem_cons, List.not_mem_nil, or_false] at hb
      rcases hb with hb | hb | hb <;> exact hbyte _ (by omega) (by omega) hb
    · simp only [List.mem_cons, List.not_mem_nil, or_false] at hb
      rcases hb with hb | hb | hb | hb <;> exact hbyte _ (by omega) (by omega) hb

theorem isAllowed_of_le {b : UInt8} (hb : 0x80 ≤ b.toNat) : isAllowed b = true := by
  have hspace : (0x20 : UInt8) ≤ b := UInt8.le_iff_toNat_le.mpr (Nat.le_trans (by decide) hb)
  have hdelete : b ≠ 0x7F := by
    rintro rfl
    exact absurd hb (by decide)
  simp [isAllowed, hspace, hdelete]

/-- A character may stand in a header just when its bytes may. -/
theorem all_isAllowed_iff (c : Char) :
    (∀ b ∈ String.utf8EncodeChar c, isAllowed b = true) ↔ Holds c := by
  -- Within ASCII the bytes are tried one by one; beyond it, only that they are beyond it counts.
  by_cases hc : c.toNat < 0x80
  · have hascii : String.utf8EncodeChar c = [UInt8.ofNat c.toNat] := by
      have hle : c.val.toNat ≤ 127 := Nat.le_of_lt_succ hc
      unfold String.utf8EncodeChar
      simp only [if_pos hle]
      rfl
    have hall : ∀ n < 0x80, isAllowed (UInt8.ofNat n) = true ↔
        (0x20 ≤ n ∧ n ≠ 0x7F) ∨ n = 0x09 := by decide
    rw [hascii, List.forall_mem_singleton]
    exact hall _ hc
  · have hle : 0x80 ≤ c.toNat := Nat.le_of_not_lt hc
    exact iff_of_true (fun b hb => isAllowed_of_le (le_of_mem_utf8EncodeChar hle hb))
      (Or.inl ⟨by omega, by omega⟩)

theorem ofText?_ok_iff (s : String) :
    (∃ v, ofText? s = some v) ↔ ∀ c ∈ s.toList, Holds c := by
  have hbytes : (Text.Utf8.encode s.toList).all isAllowed = true ↔ ∀ c ∈ s.toList, Holds c := by
    simp only [Text.Utf8.encode, List.all_eq_true, List.mem_flatMap, forall_exists_index, and_imp,
      ← all_isAllowed_iff]
    exact ⟨fun h c hc b hb => h b c hc hb, fun h b c hc hb => h c hc b hb⟩
  rw [← hbytes]
  unfold ofText?
  simp only []
  split
  · rename_i hall
    exact iff_of_true ⟨_, rfl⟩ hall
  · rename_i hsome
    exact iff_of_false (by rintro ⟨v, hv⟩; cases hv) hsome

end HeaderValue

/-! ## One request -/

namespace Client

/-- The User-Agent can be said just when the name can. -/
theorem userAgent_ok_iff (shortName : String) :
    (∃ v, HeaderValue.ofText? (userAgent shortName none) = some v) ↔
      ∀ c ∈ shortName.toList, HeaderValue.Holds c := by
  have hfront : ∀ c ∈ "Resilient Client (v=0.3.0, sn=".toList, HeaderValue.Holds c := by
    simpa using List.all_eq_true.mp (show "Resilient Client (v=0.3.0, sn=".toList.all
      (fun c => decide (HeaderValue.Holds c)) = true by decide)
  have hback : ∀ c ∈ ("" ++ ")").toList, HeaderValue.Holds c := by
    simpa using List.all_eq_true.mp (show ("" ++ ")").toList.all
      (fun c => decide (HeaderValue.Holds c)) = true by decide)
  rw [HeaderValue.ofText?_ok_iff]
  show (∀ c ∈ ("Resilient Client (v=0.3.0, sn=" ++ shortName ++ "" ++ ")").toList, _) ↔ _
  rw [String.append_assoc, String.toList_append, String.toList_append]
  simp only [List.forall_mem_append]
  exact ⟨fun h => h.1.2, fun h => ⟨⟨hfront, h⟩, hback⟩⟩

variable {c : Client} {r : Request} {e : Endpoint} {context : Context}

/-- Without a transaction id, a client whose name can be said prepares every request for every endpoint
    that it can be aimed at. -/
theorem prepare_named [DomainNames] (hid : context.transactionId = none) (ha : r.Addresses e)
    (hname : ∀ x ∈ c.shortName.toList, HeaderValue.Holds x) :
    ∃ request, c.prepare r e context = .ok request := by
  obtain ⟨aimed, haimed⟩ := ha.aimed
  obtain ⟨agent, hagent⟩ := (userAgent_ok_iff c.shortName).mpr hname
  rw [prepare, haimed, hid, agentHeader, hagent]
  cases hheader : c.transactionHeader <;> exact ⟨_, by simp [bind, Except.bind, tag, hheader]; rfl⟩

/-- Any other client prepares none. -/
theorem prepare_misnamed [DomainNames] (hid : context.transactionId = none) (ha : r.Addresses e)
    (hname : ¬ ∀ x ∈ c.shortName.toList, HeaderValue.Holds x) :
    c.prepare r e context = .error (.invalidRequest .badUserAgent) := by
  obtain ⟨aimed, haimed⟩ := ha.aimed
  have hagent : HeaderValue.ofText? (userAgent c.shortName none) = none :=
    Option.eq_none_iff_forall_ne_some.mpr fun v hv => hname ((userAgent_ok_iff _).mp ⟨v, hv⟩)
  rw [prepare, haimed, hid, agentHeader, hagent]
  rfl

end Client

/-- A request over HTTP can be aimed at every endpoint whose host the URL parser takes for one. -/
theorem Request.OverHttp.addresses [DomainNames] {r : Request} (hr : r.OverHttp) {e : Endpoint}
    {h : Host} (hhost : Host.special? e.urlHost.toList = .ok h) : r.Addresses e where
  named := by
    rw [Bool.eq_false_iff]
    intro hempty
    have hnone : e.urlHost = "" := by
      rw [Endpoint.urlHost, String.isEmpty_iff.mp hempty]
      decide
    have hunread : Host.special? "".toList = .error .emptyHost := rfl
    rw [hnone, hunread] at hhost
    cases hhost
  aimed := by
    have hcolons : (e.withDefaultPort Client.candidatePort).ColonsInAddress :=
      Classical.byContradiction fun hno => Endpoint.unread_of_colons hno h hhost
    exact ⟨_, retarget_read hr.web (hcolons.readHost.trans hhost)⟩

/-! ## Whole runs -/

namespace Job

variable {R : Roster σ} {T : Transport τ} {j : Job} {w : World σ τ}

/-- The host comes up while the request is tried. -/
def HandsOut [DomainNames] (R : Roster σ) (T : Transport τ) (j : Job) (w : World σ τ)
    (e : Endpoint) : Prop :=
  ∃ m, Reaches R T j (j.begin R w) m ∧
    m.session.mayContinue j.context.cancellation m.now = true ∧ (j.asked R m).host = .ok e

/-- Only what the providers offer comes up. -/
theorem HandsOut.offered [DomainNames] {I : σ → Prop} {P : Endpoint → Prop} (hR : R.OffersOnly I P)
    (hw : I w.roster) {e : Endpoint} (h : HandsOut R T j w e) : P e := by
  obtain ⟨m, hreach, -, he⟩ := h
  have hoffers : Session.OffersOnly I P m.session m.roster := by
    refine hreach.keeps (P := fun p => Session.OffersOnly I P p.session p.roster) ?_
      (Session.start_offersOnly hR _ _ hw)
    intro b c e request hr hb
    obtain ⟨hnext, -⟩ := hb.next hR j.context.cancellation b.now
    rw [hr.session, hr.roster]
    exact ⟨hR.report _ hnext.state, hnext.waiting⟩
  exact (hoffers.next hR j.context.cancellation m.now).2 e he

/-- A run ends as invalid only at a host that no request can be prepared for. -/
theorem Ends.unprepared [DomainNames] {p q : Progress σ τ} {o : Except Failure Response}
    (h : Ends R T j p o q) {cause : BadRequest} (ho : o = .error (.invalidRequest cause)) :
    p.session.mayContinue j.context.cancellation p.now = true ∧
      ∃ e, (j.asked R p).host = .ok e ∧
        j.client.prepare j.request e j.context = .error (.invalidRequest cause) := by
  obtain h | h | ⟨_, h⟩ | ⟨e, _, hmay, asked, unprepared, -⟩ := h.error_cases ho
  · cases h
  · cases h
  · cases h
  · exact ⟨hmay, e, asked, unprepared⟩

variable [DomainNames] (hid : j.context.transactionId = none)
  (haims : ∀ e, HandsOut R T j w e → j.request.Addresses e)
include hid haims

/-- Under a name that can be said, no request is invalid. -/
theorem run_named (hname : ∀ c ∈ j.client.shortName.toList, HeaderValue.Holds c)
    (cause : BadRequest) : (j.run R T w).1 ≠ .error (.invalidRequest cause) := by
  intro hinvalid
  obtain ⟨q, hreach, hends⟩ := run_ends R T j w
  obtain ⟨hmay, e, he, hunprepared⟩ := hends.unprepared hinvalid
  obtain ⟨request, hrequest⟩ :=
    Client.prepare_named (c := j.client) hid (haims e ⟨q, hreach, hmay, he⟩) hname
  cases hrequest.symm.trans hunprepared

/-- Under any other name, the first host that comes up ends the request as invalid, and nothing is
    sent. -/
theorem run_misnamed (hname : ¬ ∀ c ∈ j.client.shortName.toList, HeaderValue.Holds c)
    (hhands : ∃ e, HandsOut R T j w e) :
    (j.run R T w).1 = .error (.invalidRequest .badUserAgent) ∧ (j.run R T w).2.trail = [] := by
  obtain ⟨e, m, hreach, hmay, he⟩ := hhands
  have hfirst : m.trail = [] := by
    -- A failed attempt before it would have been prepared under the same name.
    cases hreach using Relation.ReflTransGen.head_induction_on with
    | refl => rfl
    | head hgo _ =>
      obtain ⟨e', request, hr⟩ := hgo.retried
      have haimed := haims e' ⟨_, .refl, hgo.1, hr.asked⟩
      cases hr.prepared.symm.trans (Client.prepare_misnamed hid haimed hname)
  have haimed := haims e ⟨m, hreach, hmay, he⟩
  obtain ⟨hrun, htrail⟩ := run_unprepared hreach hmay he haimed.named
    (Client.prepare_misnamed hid haimed hname)
  exact ⟨hrun, htrail.trans hfirst⟩

end Job

/-! ## Clients that were built -/

namespace Builder

variable {b : Builder} {library : PatternLibrary} {dice : Dice} {client : Client}
  {provider : Provider}

/-- The name shows only in what is said of a provider that is missing. -/
theorem primaryProvider_name {name name' : String} {p : Provider}
    (h : b.primaryProvider dice name = .ok p) : b.primaryProvider dice name' = .ok p := by
  unfold primaryProvider at h ⊢
  split at h
  · exact h
  · split at h
    · cases h
    · rename_i hsome
      rw [if_neg hsome]
      exact h

/-- What is asked of a client, with something else to take its name from. -/
def namedBy (b : Builder) (shortName : Option String) (configuration : Option Configuration) :
    Builder :=
  { b with shortName := shortName, configuration := configuration }

/-- **Under any other name the same client is built**, wherever the name is taken from. -/
theorem build_renamed (hbuild : b.build library dice = .ok (client, provider))
    {shortName : Option String} {configuration : Option Configuration} {name : String}
    (hname : (b.namedBy shortName configuration).name = .ok name) :
    (b.namedBy shortName configuration).build library dice =
      .ok ({ client with
          shortName := name
          protocol := (b.namedBy shortName configuration).clientProtocol }, provider) := by
  obtain ⟨primary, secondary, hmade, rfl⟩ := made_of_build hbuild
  have hprimary :
      (b.namedBy shortName configuration).primaryProvider dice.halves.1 name = .ok primary :=
    primaryProvider_name (b := b.namedBy shortName configuration) hmade.primary
  rw [build_of_parts hname hprimary hmade.secondary hmade.header hmade.filter, hmade.policy,
    hmade.retrying]
  rfl

end Builder

/-! ## A rehearsal -/

namespace Rehearsal

/-- The provider of one address, for whatever is asked. -/
def address : Provider := .leaf (.recording ⟨"address", [.of "::1" none], true, []⟩)

/-- What is asked of a client of some name. -/
def naming (name : String) : List Call := [.named name, .primary address]

/-- That client. -/
def called (name : String) : Client :=
  ⟨name, .http, .eachOnce, false, none, usualFilter⟩

theorem build_naming (name : String) :
    (Builder.ofCalls (naming name)).build Pattern.library .zeros = .ok (called name, address) := by
  have hname : (Builder.ofCalls (naming name)).name = .ok name := rfl
  have hprimary : (Builder.ofCalls (naming name)).primaryProvider Dice.zeros.halves.1 name =
      .ok address := rfl
  have hsecondary : (Builder.ofCalls (naming name)).secondaryProvider Dice.zeros.halves.2 = .ok none := rfl
  have hheader : (Builder.ofCalls (naming name)).header = .ok none := rfl
  exact (Builder.build_of_parts hname hprimary hsecondary hheader
    withExtra_nil).trans rfl

end Rehearsal

/-! ## Main theorem -/

namespace Client

/-- **When a client that was built cannot send.**

    * No name keeps a client from being built: if its name is taken from elsewhere, whatever it is then,
      the same client is built under that name;
    * a request over HTTP to an endpoint that is supported, without a transaction id and with candidates
      whose hosts the URL parser takes for hosts, is invalid just when the name of the client holds a
      character that no header holds, and a host comes up at all.  Then nothing is sent. -/
theorem invalid_iff_misnamed [DomainNames] {library : PatternLibrary} {dice : Dice}
    {calls : List Call} {client : Client} {provider : Provider}
    (hbuild : (Builder.ofCalls calls).build library dice = .ok (client, provider)) :
    (∀ shortName configuration name,
      let b := (Builder.ofCalls calls).namedBy shortName configuration
      b.name = .ok name →
        b.build library dice =
          .ok ({ client with shortName := name, protocol := b.clientProtocol }, provider)) ∧
    ∀ {τ : Type} (T : Transport τ) (w : World Provider τ) (r : Request) (supplied : Endpoint)
      (context : Context), r.OverHttp → r.endpoint = .ok supplied →
        Provider.roster.supports w.roster supplied = true → context.transactionId = none →
          let j := client.job r supplied context
          let run := client.execute Provider.roster T r context w
          (∀ e, j.HandsOut Provider.roster T w e → ∃ h, Host.special? e.urlHost.toList = .ok h) →
            ((∃ cause, run.outcome = .error (.invalidRequest cause)) ↔
              (∃ c ∈ client.shortName.toList, ¬ HeaderValue.Holds c) ∧
                ∃ e, j.HandsOut Provider.roster T w e) ∧
            ∀ cause, run.outcome = .error (.invalidRequest cause) →
              cause = .badUserAgent ∧ run.trail = [] := by
  refine ⟨?_, ?_⟩
  · intro shortName configuration name b hname
    exact Builder.build_renamed hbuild hname
  · intro τ T w r supplied context hr hend hsup hid j run hhosts
    have hrun : run = failOver Provider.roster T j w :=
      execute_eq_failOver T client context hr.isSecure hend hsup
    have haims : ∀ e, j.HandsOut Provider.roster T w e → j.request.Addresses e := by
      intro e he
      obtain ⟨h, hhost⟩ := hhosts e he
      exact hr.addresses hhost
    rw [hrun]
    have hinvalid : ∀ cause, (j.run Provider.roster T w).1 = .error (.invalidRequest cause) →
        (∃ c ∈ client.shortName.toList, ¬ HeaderValue.Holds c) ∧
          ∃ e, j.HandsOut Provider.roster T w e := by
      intro cause hcause
      obtain ⟨q, hreach, hends⟩ := Job.run_ends Provider.roster T j w
      obtain ⟨hmay, e, he, -⟩ := hends.unprepared hcause
      refine ⟨?_, e, q, hreach, hmay, he⟩
      by_contra hname
      push Not at hname
      exact Job.run_named hid haims hname cause hcause
    have hmisnamed : (∃ c ∈ client.shortName.toList, ¬ HeaderValue.Holds c) ∧
          (∃ e, j.HandsOut Provider.roster T w e) →
        (j.run Provider.roster T w).1 = .error (.invalidRequest .badUserAgent) ∧
          (j.run Provider.roster T w).2.trail = [] := by
      rintro ⟨⟨c, hc, hunheld⟩, hhands⟩
      exact Job.run_misnamed hid haims (fun hname => hunheld (hname c hc)) hhands
    refine ⟨⟨?_, fun h => ⟨_, (hmisnamed h).1⟩⟩, ?_⟩
    · rintro ⟨cause, hcause⟩
      exact hinvalid cause hcause
    · intro cause hcause
      obtain ⟨houtcome, htrail⟩ := hmisnamed (hinvalid cause hcause)
      cases hcause.symm.trans houtcome
      exact ⟨rfl, htrail⟩

/-- Under a plain name no request is invalid. -/
theorem named_client_sends :
    let r := Rehearsal.request "GET"
    let w : World Provider Script := ⟨Rehearsal.address, Script.empty, 0, .zero⟩
    (Builder.ofCalls (Rehearsal.naming "test")).build Pattern.library .zeros =
        .ok (Rehearsal.called "test", Rehearsal.address) ∧
      r.OverHttp ∧ r.endpoint = .ok (.of "service" none) ∧
      Provider.roster.supports w.roster (.of "service" none) = true ∧
      ∀ cause, ((Rehearsal.called "test").execute Provider.roster Script.transport r .empty w).outcome ≠
        .error (.invalidRequest cause) := by
  intro r w
  have hr : r.OverHttp := ⟨rfl, rfl, _, rfl⟩
  have hend : r.endpoint = .ok (.of "service" none) := Rehearsal.request_endpoint "GET"
  have hhosts : ∀ e, ((Rehearsal.called "test").job r (.of "service" none) .empty).HandsOut
      Provider.roster Script.transport w e → ∃ h, Host.special? e.urlHost.toList = .ok h := by
    intro e he
    have hone : e ∈ [Endpoint.of "::1" none] :=
      he.offered (Provider.recording_offersOnly ⟨"address", [.of "::1" none], true, []⟩
        fun _ h => h) ⟨[], rfl⟩
    have hread : (Host.special? (Endpoint.of "::1" none).urlHost.toList).isOk = true := by
      decide +kernel
    rw [List.mem_singleton.mp hone]
    exact ok_of_isOk hread
  obtain ⟨-, hrequests⟩ := invalid_iff_misnamed (Rehearsal.build_naming "test")
  obtain ⟨hiff, -⟩ := hrequests Script.transport w r _ .empty hr hend rfl rfl hhosts
  refine ⟨Rehearsal.build_naming "test", hr, hend, rfl, fun cause hcause => ?_⟩
  obtain ⟨⟨c, hc, hunheld⟩, -⟩ := hiff.mp ⟨cause, hcause⟩
  have hheld : "test".toList.all (fun c => decide (HeaderValue.Holds c)) = true := by decide
  exact hunheld (of_decide_eq_true (List.all_eq_true.mp hheld c hc))

/-- A client is built under a name with a line break, and then its request is invalid. -/
theorem misnamed_client_fails :
    let r := Rehearsal.request "GET"
    let w : World Provider Script := ⟨Rehearsal.address, Script.empty, 0, .zero⟩
    (Builder.ofCalls (Rehearsal.naming "a\nb")).build Pattern.library .zeros =
        .ok (Rehearsal.called "a\nb", Rehearsal.address) ∧
      r.OverHttp ∧ r.endpoint = .ok (.of "service" none) ∧
      Provider.roster.supports w.roster (.of "service" none) = true ∧
      (Host.special? (Endpoint.of "::1" none).urlHost.toList).isOk = true ∧
      ((Rehearsal.called "a\nb").execute Provider.roster Script.transport r .empty w).outcome =
        .error (.invalidRequest .badUserAgent) := by
  intro r w
  exact ⟨Rehearsal.build_naming "a\nb", ⟨rfl, rfl, _, rfl⟩, Rehearsal.request_endpoint "GET", rfl,
    by decide +kernel, by decide +kernel⟩

end Client

end Failover
