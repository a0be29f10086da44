import Failover.Proofs.Client.Prepared
import Failover.Proofs.Net.Address
/-!
# Aiming requests

* `Url.Web` : the URLs that requests go to.  `Url.normal_of_parse`: what the URL parser makes of an
  `http` or `https` URL;
* `Request.retarget_cases` : aiming a request is reading the host of the endpoint, and replacing host
  and port;
* `Endpoint.readHost_of_colons` : a host whose colons are not those of an address is read up to the
  first of them;
* `Request.reachesWhole_iff` : where a request goes that is aimed at an endpoint.
  `Request.retarget_astray`: one that goes elsewhere;
* `Request.retarget_laws` : aiming a request at where it goes changes nothing, and of two aims the last
  counts.
-/

set_option autoImplicit false

namespace Failover

open Host (Delimits Written)

/-! ## Web URLs -/

namespace Url

theorem scheme_of_readFile [DomainNames] {s : List Char} {u : Url} (h : readFile s = .ok u) :
    u.scheme = "file" := by
  unfold readFile at h
  simp only [] at h
  split at h
  · split at h
    · split at h
      · cases h
        rfl
      · split at h
        · cases h
          rfl
        · obtain ⟨host, -, h⟩ := ok_of_bind h
          split at h
          · cases h
            rfl
          · cases h
            rfl
    · cases h
      rfl
  · cases h
    rfl

/-- A URL keeps the scheme that it was read with. -/
theorem scheme_of_readAfterScheme [DomainNames] {scheme : String} {s : List Char} {u : Url}
    (h : readAfterScheme scheme s = .ok u) : u.scheme = scheme := by
  unfold readAfterScheme at h
  split at h
  · rename_i hfile
    rw [hfile]
    exact scheme_of_readFile h
  · split at h
    · obtain ⟨x, -, h⟩ := ok_of_bind h
      cases h
      rfl
    · split at h
      · obtain ⟨x, -, h⟩ := ok_of_bind h
        cases h
        rfl
      · cases h
        rfl
      · cases h
        rfl

/-- The URL is one that requests go to: it has a host. -/
structure Web (u : Url) : Prop where
  scheme : u.scheme = "http" ∨ u.scheme = "https"
  rooted : u.isOpaque = false
  host : ∃ h, u.host? = some h

/-- As the URL parser leaves it, such a URL does not spell out the port that its scheme implies. -/
structure Normal (u : Url) : Prop extends Web u where
  port : u.port? ≠ defaultPort? u.scheme

theorem rules_of_scheme {scheme : String} (h : scheme = "http" ∨ scheme = "https") :
    isSpecialScheme scheme = true ∧ scheme ≠ "file" ∧ defaultPort? scheme ≠ none := by
  rcases h with rfl | rfl <;> decide

theorem Web.authority {u : Url} (h : u.Web) : ∃ a, u.authority = some a := by
  obtain ⟨host, hhost⟩ := h.host
  unfold host? at hhost
  cases ha : u.authority with
  | none =>
    rw [ha] at hhost
    cases hhost
  | some a => exact ⟨a, rfl⟩

/-- **Every `http` or `https` URL that is read has a host**, and no port that the scheme implies. -/
theorem normal_of_parse [DomainNames] {text : String} {u : Url} (h : parse text = .ok u)
    (hscheme : u.scheme = "http" ∨ u.scheme = "https") : u.Normal := by
  unfold parse at h
  split at h
  · cases h
  · rename_i scheme rest _
    obtain rfl : u.scheme = scheme := scheme_of_readAfterScheme h
    obtain ⟨hspecial, hfile, hdefault⟩ := rules_of_scheme hscheme
    unfold readAfterScheme at h
    rw [if_neg hfile, if_pos hspecial] at h
    obtain ⟨⟨a, behind⟩, ha, hu⟩ := ok_of_bind h
    have hurl : u = assembled u.scheme (some a) false _ behind := (Except.ok.inj hu).symm
    obtain ⟨⟨host, hhost⟩, hport⟩ := host_port_of_readAuthority hspecial ha
    have hauthority : u.authority = some a := by rw [hurl]; rfl
    refine ⟨⟨hscheme, by rw [hurl]; rfl, host, by rw [host?, hauthority]; exact hhost⟩, ?_⟩
    rw [port?, hauthority]
    rcases hport with hnone | ⟨r, behind, hread⟩
    · rw [Option.bind_some, hnone]
      exact hdefault.symm
    · exact ne_defaultPort?_of_readPort hdefault hread

/-- The URL with another host and another port, which is left out where the scheme implies it. -/
def aimedAt (u : Url) (h : Host) (p : Option UInt16) : Url :=
  { u with authority := u.authority.map fun a =>
    { a with host := some h, port := if p = defaultPort? u.scheme then none else p } }

theorem Web.host?_aimedAt {u : Url} (hu : u.Web) (h : Host) (p : Option UInt16) :
    (u.aimedAt h p).host? = some h := by
  obtain ⟨a, ha⟩ := hu.authority
  simp [aimedAt, host?, ha]

/-- Of two aims the last counts. -/
theorem aimedAt_aimedAt (u : Url) (h h' : Host) (p p' : Option UInt16) :
    (u.aimedAt h p).aimedAt h' p' = u.aimedAt h' p' := by
  unfold aimedAt
  simp only [Option.map_map]
  rfl

theorem Web.aimedAt_normal {u : Url} (hu : u.Web) (h : Host) (p : Option UInt16) :
    (u.aimedAt h p).Normal := by
  obtain ⟨-, -, hdefault⟩ := rules_of_scheme hu.scheme
  obtain ⟨a, ha⟩ := hu.authority
  refine ⟨⟨hu.scheme, hu.rooted, h, hu.host?_aimedAt h p⟩, ?_⟩
  simp only [aimedAt, port?, ha, Option.map_some, Option.bind_some]
  split
  · exact hdefault.symm
  · assumption

/-- A URL is aimed at its own host and port. -/
theorem Normal.aimedAt_self {u : Url} (hu : u.Normal) {h : Host} (hh : u.host? = some h) :
    u.aimedAt h u.port? = u := by
  obtain ⟨a, ha⟩ := hu.authority
  have hhost : a.host = some h := by simpa [host?, ha] using hh
  have hport := hu.port
  obtain ⟨scheme, authority, isOpaque, path, query, fragment⟩ := u
  cases ha
  simp only [port?, Option.bind_some] at hport
  simp [aimedAt, port?, hport, ← hhost]

end Url

/-! ## Re-aiming -/

/-- How the host of an endpoint is read that a web URL is aimed at. -/
def Endpoint.readHost [DomainNames] (e : Endpoint) : Except UrlFault Host :=
  Url.hostPart e.urlHost.toList >>= Host.special?

theorem Url.Web.setHost_eq [DomainNames] {u : Url} (hu : u.Web) (e : Endpoint) :
    u.setHost e.urlHost = e.readHost.map fun h => u.withHost (some h) := by
  obtain ⟨hspecial, hfile, -⟩ := rules_of_scheme hu.scheme
  unfold setHost
  rw [hu.rooted, if_neg Bool.false_ne_true]
  by_cases hempty : e.urlHost = ""
  · rw [if_pos ⟨hempty, hspecial, hfile⟩, Endpoint.readHost, hempty]
    rfl
  · rw [if_neg fun h => hempty h.1]
    unfold Endpoint.readHost readHost
    simp only [hspecial, if_true]
    cases hostPart e.urlHost.toList with
    | error f => rfl
    | ok part =>
      show (Host.special? part >>= fun h => pure (u.withHost (orNone h))) =
        (Host.special? part).map fun h => u.withHost (some h)
      cases hread : Host.special? part with
      | error f => rfl
      | ok h =>
        rw [Except.map, ← Host.orNone_of_special? hread]
        rfl

namespace Request

/-- A request is not aimed at an endpoint whose host is read as none. -/
theorem retarget_unread [DomainNames] {r : Request} (hr : r.url.Web) {e : Endpoint} {f : UrlFault}
    (hread : e.readHost = .error f) : r.retarget e = .error (.invalidRequest (.badHost e f)) := by
  rw [retarget, hr.setHost_eq, hread]
  rfl

/-- Aiming a request at any other replaces host and port of its URL. -/
theorem retarget_read [DomainNames] {r : Request} (hr : r.url.Web) {e : Endpoint} {h : Host}
    (hread : e.readHost = .ok h) :
    r.retarget e = .ok { r with url := r.url.aimedAt h e.port } := by
  obtain ⟨a, ha⟩ := hr.authority
  obtain ⟨-, hfile, -⟩ := Url.rules_of_scheme hr.scheme
  rw [retarget, hr.setHost_eq, hread]
  simp [Except.map, Url.withHost, ha, Url.setPort?, hfile, Url.aimedAt]

theorem retarget_cases [DomainNames] {r : Request} (hr : r.url.Web) (e : Endpoint) :
    (∃ f, e.readHost = .error f ∧ r.retarget e = .error (.invalidRequest (.badHost e f))) ∨
      ∃ h, e.readHost = .ok h ∧ r.retarget e = .ok { r with url := r.url.aimedAt h e.port } := by
  cases hread : e.readHost with
  | error f => exact Or.inl ⟨f, rfl, retarget_unread hr hread⟩
  | ok h => exact Or.inr ⟨h, rfl, retarget_read hr hread⟩

end Request

/-! ## Where a request goes -/

namespace Endpoint

theorem ColonsInAddress.readHost [DomainNames] {e : Endpoint} (h : e.ColonsInAddress) :
    e.readHost = Host.special? e.urlHost.toList := by
  rw [Endpoint.readHost, h.hostPart]
  rfl

/-- A text without colons that is read as a host is no text between brackets. -/
theorem head_of_special? [DomainNames] {s : List Char} {h : Host} (hs : Host.special? s = .ok h)
    (hcolon : ':' ∉ s) : s.head? ≠ some '[' := by
  intro hopen
  cases Host.written_of_special? hs with
  | bracketed haddress =>
    have hin := Ipv6.colon_mem_of_parse? haddress
    simp [hin] at hcolon
  | plain _ hplain =>
    have hin : '[' ∈ s := List.mem_of_mem_head? hopen
    exact hplain '[' hin (by decide)

/-- What stands in front of the first colon of the host. -/
def beforeColon (e : Endpoint) : List Char := e.host.toList.takeWhile (· != ':')

theorem colon_not_mem_beforeColon (e : Endpoint) : ':' ∉ e.beforeColon := by
  intro hin
  simpa using List.mem_takeWhile_imp hin

theorem cut_of_colon {e : Endpoint} (h : ':' ∈ e.host.toList) :
    ∃ back, Text.cut ':' e.host.toList = some (e.beforeColon, back) := by
  cases hcut : Text.cut ':' e.host.toList with
  | none => exact absurd h (Text.cut_eq_none_iff.mp hcut)
  | some p =>
    obtain ⟨front, back⟩ := p
    obtain ⟨heq, hfront⟩ := Text.eq_of_cut hcut
    have hall : ∀ c ∈ front, (c != ':') = true := by
      intro c hc
      rw [bne_iff_ne]
      rintro rfl
      exact hfront hc
    have hbefore : e.beforeColon = front := by
      rw [beforeColon, heq, List.takeWhile_append_of_pos hall]
      simp
    exact ⟨back, by rw [hbefore]⟩

section

variable {e : Endpoint} (h : ¬ e.ColonsInAddress)
include h

/-- A host with other colons than those of an address is no host as a whole. -/
theorem unread_of_colons [DomainNames] (x : Host) : Host.special? e.urlHost.toList ≠ .ok x := by
  simp only [ColonsInAddress, Classical.not_imp, not_or, not_exists, not_and] at h
  obtain ⟨hcolon, hbare, hbrackets⟩ := h
  rw [urlHost, if_neg hbare]
  intro hx
  generalize e.host.toList = s at hx hcolon hbrackets
  cases Host.written_of_special? hx with
  | bracketed haddress => exact hbrackets _ rfl haddress
  | plain _ hplain => exact hplain ':' hcolon (by decide)

/-- It is read up to its first colon. -/
theorem readHost_of_colons [DomainNames] (x : Host) :
    e.readHost = .ok x ↔ Host.special? e.beforeColon = .ok x := by
  have hwhole := unread_of_colons h x
  simp only [ColonsInAddress, Classical.not_imp, not_or, not_exists, not_and] at h
  obtain ⟨hcolon, hbare, -⟩ := h
  have hurl : e.urlHost = e.host := by rw [urlHost, if_neg hbare]
  rw [hurl] at hwhole
  obtain ⟨back, hcut⟩ := cut_of_colon hcolon
  rw [readHost, hurl]
  unfold Url.hostPart
  split
  · -- Between brackets the whole text counts, and neither it nor the front of it is a host.
    rename_i hends
    constructor
    · intro hx
      exact absurd hx hwhole
    · intro hx
      have hopen : e.beforeColon.head? = some '[' := by
        obtain ⟨heq, -⟩ := Text.eq_of_cut hcut
        have hhead := hends.1
        rw [heq] at hhead
        cases hfront : e.beforeColon with
        | nil => simp [hfront] at hhead
        | cons c r => simpa [hfront] using hhead
      exact absurd hopen (head_of_special? hx e.colon_not_mem_beforeColon)
  · rw [hcut]
    cases e.beforeColon with
    | nil =>
      have hempty : Host.special? [] = .error .emptyHost := rfl
      rw [hempty]
      constructor <;> intro hx <;> cases hx
    | cons c r => rfl

end

end Endpoint

namespace Request

/-- The host that a request is aimed at is the one that is read. -/
theorem aimed_iff [DomainNames] {r : Request} (hr : r.url.Web) (e : Endpoint) (h : Host) :
    (∃ q, r.retarget e = .ok q ∧ q.url.host? = some h) ↔ e.readHost = .ok h := by
  obtain ⟨f, hread, haimed⟩ | ⟨x, hread, haimed⟩ := retarget_cases hr e
  · rw [hread, haimed]
    simp
  · rw [hread, haimed]
    simp [hr.host?_aimedAt]

/-- If the request can be aimed at the endpoint, it goes to what the URL parser reads the whole host
    as. -/
def ReachesWhole [DomainNames] (r : Request) (e : Endpoint) : Prop :=
  ∀ q, r.retarget e = .ok q →
    ∃ h, q.url.host? = some h ∧ Host.special? e.urlHost.toList = .ok h

/-- **Where a request goes that is aimed at an endpoint.**  For every request to a URL with scheme
    `http` or `https`:

    * it goes to what the URL parser reads the whole host of the endpoint as, or is refused, just when
      the colons in the host are those of an IPv6 address, bare or between brackets, or what stands in
      front of the first colon is no host;
    * if the colons are those of an address, it is refused just when the whole host is read as none;
    * any other host with a colon is none as a whole, but the request goes to what stands in front of
      the first colon, if that is a host;
    * where it is refused, it is as invalid, for the host of the endpoint. -/
theorem reachesWhole_iff [DomainNames] (e : Endpoint) :
    (∀ text u, Url.parse text = .ok u → u.scheme = "http" ∨ u.scheme = "https" → u.Web) ∧
      ∀ r : Request, r.url.Web →
        (r.ReachesWhole e ↔ e.ColonsInAddress ∨ ∀ h, Host.special? e.beforeColon ≠ .ok h) ∧
        (e.ColonsInAddress → ∀ h, (∃ q, r.retarget e = .ok q ∧ q.url.host? = some h) ↔
          Host.special? e.urlHost.toList = .ok h) ∧
        (¬ e.ColonsInAddress → (∀ h, Host.special? e.urlHost.toList ≠ .ok h) ∧
          ∀ h, (∃ q, r.retarget e = .ok q ∧ q.url.host? = some h) ↔
            Host.special? e.beforeColon = .ok h) ∧
        (∀ q, r.retarget e = .ok q → q.url.Web ∧ q.url.scheme = r.url.scheme) ∧
        ∀ f, r.retarget e = .error f → ∃ fault, f = .invalidRequest (.badHost e fault) := by
  refine ⟨fun text u hu hscheme => (Url.normal_of_parse hu hscheme).toWeb, ?_⟩
  intro r hr
  have hwhole : e.ColonsInAddress → ∀ h, (∃ q, r.retarget e = .ok q ∧ q.url.host? = some h) ↔
      Host.special? e.urlHost.toList = .ok h := by
    intro hcolons h
    rw [aimed_iff hr, hcolons.readHost]
  have hfront : ¬ e.ColonsInAddress →
      ∀ h, (∃ q, r.retarget e = .ok q ∧ q.url.host? = some h) ↔
        Host.special? e.beforeColon = .ok h := by
    intro hcolons h
    rw [aimed_iff hr, Endpoint.readHost_of_colons hcolons]
  have hweb : ∀ q, r.retarget e = .ok q → q.url.Web ∧ q.url.scheme = r.url.scheme := by
    intro q hq
    obtain ⟨f, -, haimed⟩ | ⟨h, -, haimed⟩ := retarget_cases hr e
    · cases hq.symm.trans haimed
    · cases hq.symm.trans haimed
      exact ⟨(hr.aimedAt_normal h e.port).toWeb, rfl⟩
  refine ⟨?_, hwhole, fun h => ⟨Endpoint.unread_of_colons h, hfront h⟩, hweb, ?_⟩
  · constructor
    · intro hreaches
      by_contra hastray
      simp only [not_or, not_forall, ne_eq, not_not] at hastray
      obtain ⟨hcolons, h, hh⟩ := hastray
      obtain ⟨q, hq, -⟩ := (hfront hcolons h).mpr hh
      obtain ⟨x, -, hx⟩ := hreaches q hq
      exact Endpoint.unread_of_colons hcolons x hx
    · intro hmeets q hq
      obtain ⟨x, hx⟩ := (hweb q hq).1.host
      refine ⟨x, hx, ?_⟩
      by_cases hcolons : e.ColonsInAddress
      · exact (hwhole hcolons x).mp ⟨q, hq, hx⟩
      · have hno := hmeets.resolve_left hcolons
        exact absurd ((hfront hcolons x).mp ⟨q, hq, hx⟩) (hno x)
  · intro f hf
    obtain ⟨fault, -, haimed⟩ | ⟨h, -, haimed⟩ := retarget_cases hr e
    · cases hf.symm.trans haimed
      exact ⟨fault, rfl⟩
    · cases hf.symm.trans haimed

/-- A request for an endpoint whose host ends in a port goes to the host in front of it. -/
theorem retarget_astray :
    let r := Rehearsal.request "GET"
    let e : Endpoint := .of "db-1:9000" (some 8080)
    ¬ r.ReachesWhole e ∧ ∃ q, r.retarget e = .ok q ∧ q.url.host? = some (.name "db-1") ∧
      q.url.port? = some 8080 := by
  intro r e
  have hwhole : (Host.special? e.urlHost.toList).toOption = none := by decide +kernel
  have haimed : (r.retarget e).toOption.map (fun q => (q.url.host?, q.url.port?)) =
      some (some (.name "db-1"), some 8080) := by decide +kernel
  obtain ⟨q, hq, hparts⟩ := Option.map_eq_some_iff.mp haimed
  refine ⟨?_, q, ok_of_toOption hq, congrArg Prod.fst hparts, congrArg Prod.snd hparts⟩
  intro hreaches
  obtain ⟨h, -, hh⟩ := hreaches q (ok_of_toOption hq)
  rw [hh] at hwhole
  cases hwhole

end Request

/-! ## Aiming at the same place, and twice -/

/-- Brackets around a text without any are all that is taken away from it. -/
theorem Endpoint.withoutBrackets_of_plain {s : List Char} (h : ∀ c ∈ s, c ≠ '[' ∧ c ≠ ']') :
    withoutBrackets s = s ∧ withoutBrackets ('[' :: (s ++ [']'])) = s := by
  have hopen : ∀ t : List Char, (∀ c ∈ t, c ≠ '[') → t.dropWhile (· == '[') = t := by
    intro t ht
    cases t with
    | nil => rfl
    | cons c r => simp [ht c]
  have hclose : s.reverse.dropWhile (· == ']') = s.reverse := by
    cases hs : s.reverse with
    | nil => rfl
    | cons c r =>
      have hc : c ∈ s := by
        have hin : c ∈ s.reverse := by simp [hs]
        exact List.mem_reverse.mp hin
      simp [(h c hc).2]
  constructor
  · rw [withoutBrackets, hopen s fun c hc => (h c hc).1, hclose, List.reverse_reverse]
  · have hrest : (s ++ [']']).dropWhile (· == '[') = s ++ [']'] := by
      apply hopen
      intro c hc
      rcases List.mem_append.mp hc with hc | hc
      · exact (h c hc).1
      · rw [List.mem_singleton.mp hc]
        decide
    have hfront : ('[' :: (s ++ [']'])).dropWhile (· == '[') = s ++ [']'] := hrest
    have hback : (']' :: s.reverse).dropWhile (· == ']') = s.reverse := hclose
    rw [withoutBrackets, hfront, List.reverse_append, List.reverse_singleton,
      List.singleton_append, hback, List.reverse_reverse]

/-- In a URL, the endpoint of a host is written as the host was. -/
theorem Host.Written.urlHost {s : List Char} (h : Written s) (p : Option UInt16) :
    let e := Endpoint.of (String.ofList (Endpoint.withoutBrackets s)) p
    e.ColonsInAddress ∧ e.urlHost.toList = s := by
  have hbracket : Delimits '[' ∧ Delimits ']' := by decide
  intro e
  cases h with
  | @bracketed s haddress =>
    have hinner : ∀ c ∈ s, c ≠ '[' ∧ c ≠ ']' := by
      intro c hc
      constructor
      · rintro rfl
        exact absurd (Ipv6.eq_colon_of_delimits haddress hc hbracket.1) (by decide)
      · rintro rfl
        exact absurd (Ipv6.eq_colon_of_delimits haddress hc hbracket.2) (by decide)
    have he : e.host.toList = s := by
      show (String.ofList (Endpoint.withoutBrackets _)).toList = s
      rw [(Endpoint.withoutBrackets_of_plain hinner).2, String.toList_ofList]
    refine ⟨fun _ => Or.inl (by rwa [he]), ?_⟩
    rw [e.toList_urlHost, he, if_pos haddress]
  | plain _ hplain =>
    have hinner : ∀ c ∈ s, c ≠ '[' ∧ c ≠ ']' := by
      intro c hc
      constructor
      · rintro rfl
        exact hplain _ hc hbracket.1
      · rintro rfl
        exact hplain _ hc hbracket.2
    have he : e.host.toList = s := by
      show (String.ofList (Endpoint.withoutBrackets s)).toList = s
      rw [(Endpoint.withoutBrackets_of_plain hinner).1, String.toList_ofList]
    have hcolon : ':' ∉ s := fun hin => hplain ':' hin (by decide)
    have haddress : ¬ (Ipv6.parse? s).isSome := fun h => hcolon (Ipv6.colon_mem_of_parse? h)
    refine ⟨fun hin => absurd (he ▸ hin) hcolon, ?_⟩
    rw [e.toList_urlHost, he, if_neg haddress]

namespace Request

/-- **A request aimed at the endpoint that it aims at stays as it is**, if the text of its host is read
    as that host again. -/
theorem retarget_endpoint [DomainNames] {r : Request} (hr : r.url.Normal) {h : Host}
    (hh : r.url.host? = some h) (hread : Host.special? h.text.toList = .ok h) :
    ∃ e, r.endpoint = .ok e ∧ r.retarget e = .ok r := by
  obtain ⟨hcolons, hwritten⟩ := (Host.written_of_special? hread).urlHost r.url.port?
  refine ⟨_, by rw [endpoint, Endpoint.ofUrl, hh], ?_⟩
  rw [retarget_read hr.toWeb (hcolons.readHost.trans (by rw [hwritten, hread]))]
  show Except.ok { r with url := r.url.aimedAt h r.url.port? } = _
  rw [hr.aimedAt_self hh]

/-- **Of two aims the last counts**, and is refused just when it would have been without the first. -/
theorem retarget_retarget [DomainNames] {r q : Request} (hr : r.url.Web) {a : Endpoint}
    (hq : r.retarget a = .ok q) (b : Endpoint) : q.retarget b = r.retarget b := by
  obtain ⟨f, -, haimed⟩ | ⟨h, -, haimed⟩ := retarget_cases hr a
  · cases hq.symm.trans haimed
  · cases hq.symm.trans haimed
    have hweb : ({ r with url := r.url.aimedAt h a.port } : Request).url.Web :=
      (hr.aimedAt_normal h a.port).toWeb
    cases hread : b.readHost with
    | error f => rw [retarget_unread hr hread, retarget_unread hweb hread]
    | ok x => rw [retarget_read hr hread, retarget_read hweb hread, Url.aimedAt_aimedAt]

/-- **Aiming a request is like setting its endpoint.**  For every request to a URL that the URL parser
    has read, or that such a request was aimed at:

    * aiming it at the endpoint that it aims at works and changes nothing, if the URL parser takes the
      text of its host for that host again;
    * aiming it at one endpoint and then at another is aiming it at the other, also where that is
      refused. -/
theorem retarget_laws [DomainNames] :
    (∀ text u, Url.parse text = .ok u → u.scheme = "http" ∨ u.scheme = "https" → u.Normal) ∧
      ∀ r : Request, r.url.Normal →
        ((∀ h, r.url.host? = some h → Host.special? h.text.toList = .ok h) →
          ∃ e, r.endpoint = .ok e ∧ r.retarget e = .ok r) ∧
        ∀ a q, r.retarget a = .ok q → q.url.Normal ∧ ∀ b, q.retarget b = r.retarget b := by
  refine ⟨fun text u hu hscheme => Url.normal_of_parse hu hscheme, ?_⟩
  intro r hr
  refine ⟨?_, ?_⟩
  · intro hread
    obtain ⟨h, hh⟩ := hr.host
    exact retarget_endpoint hr hh (hread h hh)
  · intro a q hq
    refine ⟨?_, retarget_retarget hr.toWeb hq⟩
    obtain ⟨f, -, haimed⟩ | ⟨h, -, haimed⟩ := retarget_cases hr.toWeb a
    · cases hq.symm.trans haimed
    · cases hq.symm.trans haimed
      exact hr.aimedAt_normal h a.port

end Request

namespace Rehearsal

/-- A request over TLS to an address, with a port of its own. -/
def guarded : Request :=
  ⟨⟨"POST"⟩, ⟨"https", some ⟨"user", some "pw", some (.ipv6 ⟨[0, 0, 0, 0, 0, 0, 0, 1], rfl⟩),
    some 8443⟩, false, "/b", some "q", some "f"⟩, .empty, some [1, 2]⟩

end Rehearsal

namespace Request

/-- The port that the scheme implies is left out on the way, and the other port does not come back. -/
theorem rehearsed_laws :
    Url.parse "https://user:pw@[::1]:8443/b?q#f" = .ok Rehearsal.guarded.url ∧
      (∃ e, Rehearsal.guarded.endpoint = .ok e ∧
        Rehearsal.guarded.retarget e = .ok Rehearsal.guarded) ∧
      ∃ q, Rehearsal.guarded.retarget (.of "10.0.0.7" (some 443)) = .ok q ∧ q.url.port? = none ∧
        q.retarget (.of "::2" none) = Rehearsal.guarded.retarget (.of "::2" none) := by
  have hparse : (Url.parse "https://user:pw@[::1]:8443/b?q#f").toOption =
      some Rehearsal.guarded.url := by decide +kernel
  obtain ⟨hnormal, hlaws⟩ := retarget_laws
  obtain ⟨hself, hlast⟩ :=
    hlaws Rehearsal.guarded (hnormal _ _ (ok_of_toOption hparse) (Or.inr rfl))
  have hread : (Host.special? "[::1]".toList).toOption = Rehearsal.guarded.url.host? := by
    decide +kernel
  have haimed : ((Rehearsal.guarded.retarget (.of "10.0.0.7" (some 443))).toOption.map
      (·.url.port?)) = some none := by decide +kernel
  refine ⟨ok_of_toOption hparse, hself ?_, ?_⟩
  · intro h hh
    cases hh
    exact ok_of_toOption hread
  · obtain ⟨q, hq, hport⟩ := Option.map_eq_some_iff.mp haimed
    exact ⟨q, ok_of_toOption hq, hport, (hlast _ q (ok_of_toOption hq)).2 _⟩

end Request

end Failover
