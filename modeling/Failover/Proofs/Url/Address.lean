import Failover.Proofs.Net.Address
import Failover.Proofs.Request
/-!
# Addresses as hosts

An endpoint that was made of an address stands for that address in URLs too.

* `Host.special?_ipv4`, `Host.special?_ipv6` : the text of an address is read as that address;
* `Endpoint.readHost_ofAddress` : so is the host of its endpoint;
* `Request.retarget_address` : a request that is aimed at an address goes to it, and the endpoint that it
  aims at then is that of the address.
-/

set_option autoImplicit false

namespace Failover

open Text (decimal)

/-! ## IPv4 addresses -/

namespace Ipv4

/-- Codes of the characters of dotted decimal form. -/
def codes : List Nat := '.'.toNat :: (List.range 10).map ('0'.toNat + ·)

/-- What holds of these codes holds of these characters. -/
theorem of_codes {P : Char → Prop} {c : Char} (hc : c = '.' ∨ c.isDigit = true)
    (h : ∀ n ∈ codes, P (Char.ofNat n)) : P c := by
  have hcode : c.toNat ∈ codes := by
    rcases hc with rfl | hdigit
    · exact List.mem_cons_self
    · obtain ⟨hlow, hhigh⟩ := Char.isDigit_iff_toNat.mp hdigit
      have hnine : '9'.toNat = '0'.toNat + 9 := rfl
      refine List.mem_cons_of_mem _ (List.mem_map.mpr ⟨c.toNat - '0'.toNat, ?_, by omega⟩)
      exact List.mem_range.mpr (by omega)
  have hp := h c.toNat hcode
  rwa [Char.ofNat_toNat] at hp

/-- The octets are those of the 32-bit number that they make up. -/
theorem ofNat_octets (x : Ipv4) : ofNat
    (x.a.toNat * 16777216 + (x.b.toNat * 65536 + (x.c.toNat * 256 + x.d.toNat))) = x := by
  obtain ⟨a, b, c, d⟩ := x
  have ha : a.toNat < 256 := a.toNat_lt
  have hb : b.toNat < 256 := b.toNat_lt
  have hc : c.toNat < 256 := c.toNat_lt
  have hd : d.toNat < 256 := d.toNat_lt
  simp only [ofNat, Ipv4.mk.injEq, ← UInt8.toNat_inj, UInt8.toNat_ofNat']
  omega

end Ipv4

namespace Host

/-- A decimal number is read as it is, without a sign of another base. -/
theorem number?_decimal (n : Nat) : number? (decimal n) = some n := by
  rcases Nat.eq_zero_or_pos n with rfl | hpos
  · rfl
  · have hfirst := Text.decimal_head hpos
    have hread := Text.number?_decimal n
    cases hd : decimal n with
    | nil => exact absurd hd Nat.toDigits_ne_nil
    | cons c r =>
      rw [hd] at hfirst hread
      have hzero : c ≠ '0' := fun hc => hfirst (by rw [hc]; rfl)
      unfold number?
      split
      all_goals first | exact hread | simp_all

variable (x : Ipv4)

theorem dotted_text : dotted x.text = x.octetTexts := by
  have hlast : x.octetTexts.getLast? = some (decimal x.d.toNat) := rfl
  unfold dotted
  simp only [Ipv4.pieces_text, hlast]
  split
  · rename_i hnil
    exact absurd (Option.some.inj hnil) Nat.toDigits_ne_nil
  · rfl

theorem endsInNumber_text : endsInNumber x.text = true := by
  have hlast : x.octetTexts.getLast? = some (decimal x.d.toNat) := rfl
  unfold endsInNumber
  rw [dotted_text, hlast]
  split
  · rename_i hnone
    cases hnone
  · rename_i hnil
    exact absurd (Option.some.inj hnil) Nat.toDigits_ne_nil
  · rename_i last _ hsome
    rw [← Option.some.inj hsome, number?_decimal, Option.isSome_some, Bool.or_true]

/-- Four numbers below 256 make up 32 bits. -/
theorem ipv4?_text : ipv4? x.text = some x := by
  have hnumbers : numbers? x.octetTexts = some [x.a.toNat, x.b.toNat, x.c.toNat, x.d.toNat] := by
    simp only [Ipv4.octetTexts, List.map_cons, List.map_nil, numbers?, number?_decimal]
    rfl
  have hcombined : combine? 4 [x.a.toNat, x.b.toNat, x.c.toNat, x.d.toNat] =
      some (x.a.toNat * 16777216 + (x.b.toNat * 65536 + (x.c.toNat * 256 + x.d.toNat))) := by
    have hlast : combine? 1 [x.d.toNat] = some x.d.toNat := if_pos x.d.toNat_lt
    have hmore : ∀ {room n m low : Nat} {ns : List Nat}, n < 256 →
        combine? room (m :: ns) = some low →
          combine? (room + 1) (n :: m :: ns) = some (n * Nat.pow 256 room + low) := by
      intro room n m low ns hn h
      show ((combine? room (m :: ns)).bind fun low =>
        if n < 256 then some (n * Nat.pow 256 room + low) else none) = _
      rw [h]
      exact if_pos hn
    exact hmore x.a.toNat_lt (hmore x.b.toNat_lt (hmore x.c.toNat_lt hlast))
  unfold ipv4?
  rw [dotted_text]
  have hfour : ¬ 4 < x.octetTexts.length := Nat.lt_irrefl 4
  simp only [hfour, if_false, hnumbers, Option.bind_some, hcombined, Option.map_some,
    Ipv4.ofNat_octets]

/-- A domain name is left as it is if it is plain already. -/
theorem toAscii?_text [DomainNames] : Idna.toAscii? x.text = some x.text := by
  have hplain : Idna.isPlain x.text = true := by
    rw [Idna.isPlain, Bool.and_eq_true, List.all_eq_true, List.all_eq_true, Ipv4.pieces_text]
    refine ⟨fun c hc => Ipv4.of_codes (P := fun c => decide (c.toNat < 0x80) = true)
      (Ipv4.mem_text hc) (by decide), fun p hp => ?_⟩
    obtain ⟨o, -, rfl⟩ := List.mem_map.mp hp
    rw [Bool.not_eq_true', Idna.isEncoded, beq_eq_false_iff_ne]
    intro hmark
    -- The mark of an encoded label starts with a letter.
    have hletter : 'x' ∈ ((decimal o.toNat).take 4).map Text.asciiLower := by rw [hmark]; simp
    obtain ⟨d, hd, hx⟩ := List.mem_map.mp hletter
    have hdigit := Text.isDigit_of_mem_decimal (List.mem_of_mem_take hd)
    exact Ipv4.of_codes (P := fun c => Text.asciiLower c ≠ 'x') (Or.inr hdigit) (by decide) hx
  have hallowed : x.text.any Idna.forbidden = false := by
    rw [List.any_eq_false]
    exact fun c hc => Ipv4.of_codes (P := fun c => ¬ Idna.forbidden c = true) (Ipv4.mem_text hc)
      (by decide)
  have hlower : x.text.map Text.asciiLower = x.text := by
    conv_rhs => rw [← List.map_id x.text]
    refine List.map_congr_left fun c hc => ?_
    exact Ipv4.of_codes (P := fun c => Text.asciiLower c = id c) (Ipv4.mem_text hc) (by decide)
  rw [Idna.toAscii?, if_pos hplain, Idna.plain?, hallowed, hlower]
  rfl

/-- **Dotted decimal form is read as the address that it was made from.** -/
theorem special?_ipv4 [DomainNames] : special? x.text = .ok (.ipv4 x) := by
  have hopen : x.text.head? ≠ some '[' := fun h =>
    Ipv4.of_codes (P := fun c => c ≠ '[') (Ipv4.mem_text (List.mem_of_mem_head? h)) (by decide) rfl
  have hpercent : x.text.contains '%' = false := by
    rw [List.contains_eq_mem, decide_eq_false_iff_not]
    exact fun h => Ipv4.of_codes (P := fun c => c ≠ '%') (Ipv4.mem_text h) (by decide) rfl
  have hne : x.text.isEmpty = false := by
    cases htext : x.text with
    | nil =>
      have hpieces := Ipv4.pieces_text x
      rw [htext] at hpieces
      exact absurd (List.cons.inj hpieces).1.symm Nat.toDigits_ne_nil
    | cons c r => rfl
  rw [special?, if_neg hopen, unescaped?, hpercent]
  simp only [Bool.false_eq_true, if_false, Option.bind_some, toAscii?_text, hne, endsInNumber_text,
    if_true, ipv4?_text]

end Host

/-! ## Addresses of either kind -/

/-- A text between brackets is read as the IPv6 address that it is. -/
theorem Host.special?_ipv6 [DomainNames] {s : List Char} {ip : Ipv6} (h : Ipv6.parse? s = some ip) :
    special? ('[' :: (s ++ [']'])) = .ok (.ipv6 ip) := by
  have hopen : ('[' :: (s ++ [']'])).head? = some '[' := rfl
  have hlast : ('[' :: (s ++ [']'])).getLast? = some ']' := by
    rw [← List.cons_append, List.getLast?_concat]
  rw [special?, if_pos hopen, bracketed?, if_pos hlast, List.drop_one, List.tail_cons,
    List.dropLast_concat, h]

/-- The address as a host. -/
def Address.host : Address → Host
  | v4 ip => .ipv4 ip
  | v6 ip => .ipv6 ip

namespace Endpoint

theorem ofAddress_ipv4 (x : Ipv4) (p : Option UInt16) :
    (ofAddress (.v4 x) p).ColonsInAddress ∧ (ofAddress (.v4 x) p).urlHost.toList = x.text := by
  have hhost : (ofAddress (.v4 x) p).host.toList = x.text := String.toList_ofList
  have hcolon : ':' ∉ x.text := fun h =>
    Ipv4.of_codes (P := fun c => c ≠ ':') (Ipv4.mem_text h) (by decide) rfl
  have haddress : ¬ (Ipv6.parse? x.text).isSome := fun h => hcolon (Ipv6.colon_mem_of_parse? h)
  refine ⟨fun h => absurd (hhost ▸ h) hcolon, ?_⟩
  rw [toList_urlHost, hhost, if_neg haddress]

theorem ofAddress_ipv6 (x : Ipv6) (p : Option UInt16) :
    (ofAddress (.v6 x) p).ColonsInAddress ∧
      (ofAddress (.v6 x) p).urlHost.toList = '[' :: (x.text ++ [']']) := by
  have hhost : (ofAddress (.v6 x) p).host.toList = x.text := String.toList_ofList
  have haddress : (Ipv6.parse? x.text).isSome := by rw [Ipv6.parse?_text]; rfl
  refine ⟨fun _ => Or.inl (by rwa [hhost]), ?_⟩
  rw [toList_urlHost, hhost, if_pos haddress]

/-- **In a URL, the endpoint of an address is read as that address.** -/
theorem readHost_ofAddress [DomainNames] (ip : Address) (p : Option UInt16) :
    (ofAddress ip p).readHost = .ok ip.host := by
  cases ip with
  | v4 x =>
    obtain ⟨hcolons, htext⟩ := ofAddress_ipv4 x p
    rw [hcolons.readHost, htext]
    exact Host.special?_ipv4 x
  | v6 x =>
    obtain ⟨hcolons, htext⟩ := ofAddress_ipv6 x p
    rw [hcolons.readHost, htext]
    exact Host.special?_ipv6 (Ipv6.parse?_text x)

/-- Without its brackets, the host of a URL is written like the address. -/
theorem withoutBrackets_address (ip : Address) :
    String.ofList (withoutBrackets ip.host.text.toList) = ip.compressed := by
  cases ip with
  | v4 x =>
    have hplain : ∀ c ∈ x.text, c ≠ '[' ∧ c ≠ ']' := fun c hc =>
      Ipv4.of_codes (P := fun c => c ≠ '[' ∧ c ≠ ']') (Ipv4.mem_text hc) (by decide)
    show String.ofList (withoutBrackets (String.ofList x.text).toList) = _
    rw [String.toList_ofList, (withoutBrackets_of_plain hplain).1]
    rfl
  | v6 x =>
    have hread : (Ipv6.parse? x.compressed).isSome := by rw [Ipv6.parse?_compressed]; rfl
    have hplain : ∀ c ∈ x.compressed, c ≠ '[' ∧ c ≠ ']' := by
      intro c hc
      have honly := Ipv6.eq_colon_of_delimits hread hc
      constructor
      · rintro rfl
        exact absurd (honly (by decide)) (by decide)
      · rintro rfl
        exact absurd (honly (by decide)) (by decide)
    show String.ofList (withoutBrackets (String.ofList ('[' :: x.compressed ++ [']'])).toList) = _
    rw [String.toList_ofList, List.cons_append, (withoutBrackets_of_plain hplain).2]
    rfl

end Endpoint

namespace Request

/-- A request whose URL has an address for its host aims at the endpoint of that address. -/
theorem endpoint_of_address {r : Request} {ip : Address} (h : r.url.host? = some ip.host) :
    r.endpoint = .ok (.of ip.compressed r.url.port?) := by
  rw [endpoint, Endpoint.ofUrl, h]
  simp only [Endpoint.withoutBrackets_address]

/-- **A request that is aimed at an address goes to it.**  For every IP address, with a port or without,
    and every request to a URL with scheme `http` or `https`, aiming works.  The host of the URL is the
    address then, its port is the one that was given, unless the scheme implies it, and the endpoint
    that the request aims at has that port and a host that is read as the address. -/
theorem retarget_address [DomainNames] (ip : Address) (p : Option UInt16) :
    (∀ text u, Url.parse text = .ok u → u.scheme = "http" ∨ u.scheme = "https" → u.Web) ∧
      ∀ r : Request, r.url.Web → ∃ q e, r.retarget (.ofAddress ip p) = .ok q ∧
        q.url.host? = some ip.host ∧
        q.url.port? = (if p = Url.defaultPort? r.url.scheme then none else p) ∧
        q.endpoint = .ok e ∧ e.port = q.url.port? ∧ e.host = ip.compressed ∧
        Address.parse? e.host = some ip := by
  refine ⟨fun text u hu hscheme => (Url.normal_of_parse hu hscheme).toWeb, ?_⟩
  intro r hr
  obtain ⟨a, ha⟩ := hr.authority
  have hhost := hr.host?_aimedAt ip.host p
  have hport : (r.url.aimedAt ip.host p).port? =
      if p = Url.defaultPort? r.url.scheme then none else p := by
    simp [Url.aimedAt, Url.port?, ha]
  exact ⟨_, _, retarget_read hr (Endpoint.readHost_ofAddress ip p), hhost, hport,
    endpoint_of_address hhost, rfl, rfl, Address.parse?_compressed ip⟩

/-- A mapped address is written with a dotted end in its endpoint, and in groups in the URL. -/
theorem retarget_mapped : ∃ ip q e, (Rehearsal.request "GET").url.Web ∧
    Address.parse? "::ffff:1.2.3.4" = some ip ∧
      (Endpoint.ofAddress ip (some 80)).host = "::ffff:1.2.3.4" ∧
      (Rehearsal.request "GET").retarget (.ofAddress ip (some 80)) = .ok q ∧
      q.url.host? = some ip.host ∧ q.url.port? = none ∧ q.endpoint = .ok e ∧
      e.host = "::ffff:102:304" ∧ Address.parse? e.host = some ip := by
  have hweb : (Rehearsal.request "GET").url.Web := ⟨Or.inl rfl, rfl, _, rfl⟩
  obtain ⟨q, e, haimed, hhost, hport, hend, -, htext, hread⟩ :=
    (retarget_address (.v6 ⟨[0, 0, 0, 0, 0, 0xFFFF, 0x102, 0x304], rfl⟩) (some 80)).2 _ hweb
  exact ⟨_, q, e, hweb, by decide +kernel, by decide +kernel, haimed, hhost, hport, hend,
    htext.trans (by decide +kernel), hread⟩

end Request

end Failover
