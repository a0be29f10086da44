import Failover.Net.Address
import Failover.Proofs.Text
/-!
# Addresses as they are written

Every address is read back from its text.

* `Ipv4.parse?_text` : four octets between dots;
* `Ipv6.parse?_compressed` : eight groups, the first longest run of zeros left out.
  `Ipv6.parse?_text`: mapped addresses, which end in an IPv4 address, as well.
  `Ipv6.two_le_count_colon`: there are two colons in each of them;
* `Address.parse?_text` : an address of either kind.  `Address.parse?_compressed`: so the form that
  stands in URLs.
-/

set_option autoImplicit false

namespace Failover

open Text (decimal)

/-! ## Four octets -/

namespace Ipv4

theorem octet?_decimal (o : UInt8) : octet? (decimal o.toNat) = some o := by
  have hlt : o.toNat < 256 := o.toNat_lt
  have hlength : (decimal o.toNat).length ≤ 3 :=
    (Nat.length_toDigits_le_iff (by decide) (by decide)).mpr (Nat.lt_trans hlt (by decide))
  rw [octet?, if_pos ⟨hlength, Text.decimal_leading _⟩, Text.number?_decimal, Option.bind_some,
    if_pos hlt, UInt8.ofNat_toNat]

/-- The octets as they are written. -/
def octetTexts (x : Ipv4) : List (List Char) :=
  [x.a, x.b, x.c, x.d].map fun o => decimal o.toNat

theorem mem_text {x : Ipv4} {c : Char} (h : c ∈ x.text) : c = '.' ∨ c.isDigit = true := by
  obtain hdot | ⟨p, hp, hc⟩ := Text.mem_joined h
  · exact Or.inl (List.mem_singleton.mp hdot)
  · obtain ⟨o, -, rfl⟩ := List.mem_map.mp hp
    exact Or.inr (Text.isDigit_of_mem_decimal hc)

/-- The dots separate the octets. -/
theorem pieces_text (x : Ipv4) : Text.pieces '.' x.text = x.octetTexts := by
  refine Text.pieces_joined (List.cons_ne_nil _ _) fun p hp hdot => ?_
  obtain ⟨o, -, rfl⟩ := List.mem_map.mp hp
  exact absurd (Text.isDigit_of_mem_decimal hdot) (by decide)

/-- **An IPv4 address is read back from its text.** -/
theorem parse?_text (x : Ipv4) : parse? x.text = some x := by
  rw [parse?, pieces_text]
  simp only [octetTexts, List.map_cons, List.map_nil, octet?_decimal]
  rfl

theorem parse?_of_no_dot {s : List Char} (h : '.' ∉ s) : parse? s = none := by
  rw [parse?, Text.pieces_of_not_mem h]

/-- The octets of two groups are those that the groups are made of. -/
theorem groups_ofGroups (hi lo : UInt16) : (ofGroups hi lo).groups = [hi, lo] := by
  have hpair : ∀ g : UInt16,
      UInt16.ofNat ((UInt8.ofNat (g.toNat / 256)).toNat * 256 + (UInt8.ofNat g.toNat).toNat) = g := by
    intro g
    have hlt : g.toNat < 65536 := g.toNat_lt
    have hsum : (UInt8.ofNat (g.toNat / 256)).toNat * 256 + (UInt8.ofNat g.toNat).toNat =
        g.toNat := by
      rw [UInt8.toNat_ofNat', UInt8.toNat_ofNat']
      omega
    rw [hsum, UInt16.ofNat_toNat]
  rw [groups, ofGroups, hpair, hpair]

end Ipv4

/-! ## Eight groups -/

namespace Ipv6

theorem number?_groupText (g : UInt16) : Text.number? 16 (groupText g) = some g.toNat :=
  Text.number?_toDigits (by decide) (by decide) g.toNat

theorem group?_groupText (g : UInt16) : group? (groupText g) = some g := by
  have hlength : (groupText g).length ≤ 4 :=
    (Nat.length_toDigits_le_iff (by decide) (by decide)).mpr g.toNat_lt
  rw [group?, if_pos hlength, number?_groupText, Option.map_some, UInt16.ofNat_toNat]

/-- Neither colons nor dots are hexadecimal digits. -/
theorem mem_groupText {g : UInt16} {c : Char} (h : c ∈ groupText g) : c ≠ ':' ∧ c ≠ '.' := by
  have hdigit := Text.digit?_ne_none (number?_groupText g) h
  constructor
  · rintro rfl
    exact hdigit (by decide)
  · rintro rfl
    exact hdigit (by decide)

theorem groupText_ne_nil (g : UInt16) : groupText g ≠ [] := Nat.toDigits_ne_nil

theorem hexGroups?_map : ∀ gs : List UInt16, hexGroups? (gs.map groupText) = some gs
  | [] => rfl
  | g :: gs => by
    rw [List.map_cons, hexGroups?, group?_groupText, hexGroups?_map gs]
    rfl

theorem lastGroups?_map : ∀ gs : List UInt16, lastGroups? (gs.map groupText) = some gs
  | [] => rfl
  | [g] => by
    have hdot : '.' ∉ groupText g := fun h => (mem_groupText h).2 rfl
    rw [List.map_singleton, lastGroups?, Ipv4.parse?_of_no_dot hdot, group?_groupText]
    rfl
  | g :: k :: gs => by
    have ih := lastGroups?_map (k :: gs)
    rw [List.map_cons] at ih
    rw [List.map_cons, List.map_cons, lastGroups?, group?_groupText, ih]
    · rfl
    · simp

/-- Colons separate the groups. -/
theorem pieces_groupsText (gs : List UInt16) : pieces (groupsText gs) = gs.map groupText := by
  cases gs with
  | nil => rfl
  | cons g gs =>
    have hpieces : Text.pieces ':' (groupsText (g :: gs)) = (g :: gs).map groupText := by
      refine Text.pieces_joined (List.cons_ne_nil _ _) fun p hp hcolon => ?_
      obtain ⟨k, -, rfl⟩ := List.mem_map.mp hp
      exact (mem_groupText hcolon).1 rfl
    have hne : groupsText (g :: gs) ≠ [] := by
      intro hnil
      rw [hnil] at hpieces
      exact groupText_ne_nil g (List.cons.inj hpieces).1.symm
    rw [pieces, if_neg (by simpa using hne), hpieces]

/-! ### The gap -/

/-- A character that does not start a gap stands in front of it. -/
theorem cutGap_cons {c : Char} {s : List Char} (h : ∀ t, c = ':' → s = ':' :: t → False) :
    cutGap (c :: s) = (cutGap s).map fun x => (c :: x.1, x.2) := by
  rw [cutGap]
  exact h

/-- What stands in front of the first colon is no part of a gap. -/
theorem cutGap_append (r : List Char) : ∀ {p : List Char}, ':' ∉ p →
    cutGap (p ++ r) = (cutGap r).map fun x => (p ++ x.1, x.2)
  | [], _ => by simp
  | c :: p, h => by
    simp only [List.mem_cons, not_or] at h
    rw [List.cons_append, cutGap_cons fun t hc _ => h.1 hc.symm, cutGap_append r h.2, Option.map_map]
    rfl

/-- A gap behind a text that has none, and does not end in a colon, is found. -/
theorem cutGap_gap (r : List Char) : ∀ {s : List Char}, cutGap s = none → s.getLast? ≠ some ':' →
    cutGap (s ++ ':' :: ':' :: r) = some (s, r)
  | [], _, _ => rfl
  | c :: s, hgap, hlast => by
    -- A gap could start at `c` only together with the next character.
    have hnot : ∀ t, c = ':' → s = ':' :: t → False := by
      rintro t rfl rfl
      cases hgap
    rw [cutGap_cons hnot, Option.map_eq_none_iff] at hgap
    have hrest : s.getLast? ≠ some ':' := by
      cases s with
      | nil => nofun
      | cons d s => rwa [List.getLast?_cons_cons] at hlast
    rw [List.cons_append, cutGap_cons, cutGap_gap r hgap hrest]
    · rfl
    · intro t hc hs
      cases s with
      | nil => exact hlast (by rw [hc]; rfl)
      | cons d s => exact hnot s hc (by rw [(List.cons.inj hs).1])

theorem groupsText_cons_cons (g k : UInt16) (gs : List UInt16) :
    groupsText (g :: k :: gs) = groupText g ++ ':' :: groupsText (k :: gs) := by
  simp [groupsText, Text.joined]

/-- Neither end of a text of groups is a colon, and there is no gap in it. -/
theorem groupsText_closed : ∀ gs : List UInt16, cutGap (groupsText gs) = none ∧
    (groupsText gs).head? ≠ some ':' ∧ (groupsText gs).getLast? ≠ some ':'
  | [] => ⟨rfl, nofun, nofun⟩
  | [g] => by
    have hcolon : ':' ∉ groupText g := fun h => (mem_groupText h).1 rfl
    have hgap := cutGap_append [] hcolon
    rw [List.append_nil] at hgap
    exact ⟨hgap, fun h => hcolon (List.mem_of_mem_head? h),
      fun h => hcolon (List.mem_of_getLast? h)⟩
  | g :: k :: gs => by
    have hcolon : ':' ∉ groupText g := fun h => (mem_groupText h).1 rfl
    obtain ⟨hgap, hfirst, hlast⟩ := groupsText_closed (k :: gs)
    obtain ⟨c, p, hg⟩ := List.exists_cons_of_ne_nil (groupText_ne_nil g)
    rw [groupsText_cons_cons]
    refine ⟨?_, ?_, ?_⟩
    · -- The colon in between starts no gap, since no group is empty.
      rw [cutGap_append _ hcolon, cutGap_cons, hgap]
      · rfl
      · intro t _ ht
        rw [ht] at hfirst
        exact hfirst rfl
    · rw [hg, List.cons_append, List.head?_cons]
      intro hc
      rw [hg, Option.some.inj hc] at hcolon
      exact hcolon List.mem_cons_self
    · cases hrest : groupsText (k :: gs) with
      | nil =>
        have hpieces := pieces_groupsText (k :: gs)
        rw [hrest] at hpieces
        cases hpieces
      | cons d t =>
        rw [hrest] at hlast
        rwa [List.getLast?_append, List.getLast?_cons_cons, List.getLast?_cons,
          Option.some_or, ← List.getLast?_cons]

/-! ### The run of zeros -/

theorem leadingZeros_split : ∀ gs : List UInt16,
    gs = List.replicate (leadingZeros gs) 0 ++ gs.drop (leadingZeros gs)
  | [] => rfl
  | g :: gs => by
    rw [leadingZeros]
    split
    · rename_i hzero
      rw [List.replicate_succ, List.cons_append, List.drop_succ_cons, ← leadingZeros_split gs, hzero]
    · rfl

/-- The run that is left out consists of zeros. -/
theorem longestRun_split : ∀ gs : List UInt16, gs = gs.take (longestRun gs).1 ++
    (List.replicate (longestRun gs).2 0 ++ gs.drop ((longestRun gs).1 + (longestRun gs).2))
  | [] => rfl
  | g :: gs => by
    rw [longestRun]
    split
    · rw [List.take_zero, List.nil_append, Nat.zero_add]
      exact leadingZeros_split (g :: gs)
    · rw [List.take_succ_cons, List.cons_append, Nat.add_right_comm, List.drop_succ_cons,
        ← longestRun_split gs]

/-! ### Whole addresses -/

theorem ofGroups?_groups (x : Ipv6) : ofGroups? x.groups = some x := by
  rw [ofGroups?, dif_pos x.length_groups]

/-- A text with a gap is read as the groups around it, with zeros between them. -/
theorem parse?_of_gap {s : List Char} {x : Ipv6} {front back : List Char} {hs ts : List UInt16}
    {n : Nat} (hcut : cutGap s = some (front, back)) (hfront : hexGroups? (pieces front) = some hs)
    (hback : lastGroups? (pieces back) = some ts) (hn : 0 < n)
    (hx : x.groups = hs ++ (List.replicate n 0 ++ ts)) : parse? s = some x := by
  have hlength := congrArg List.length hx
  rw [x.length_groups, List.length_append, List.length_append, List.length_replicate] at hlength
  have hzeros : 8 - hs.length - ts.length = n := by omega
  have hroom : hs.length + ts.length ≤ 7 := by omega
  rw [parse?, hcut]
  simp only [hfront, hback, Option.bind_eq_bind, Option.bind_some, if_pos hroom, hzeros]
  rw [List.append_assoc, ← hx, ofGroups?_groups]

/-- **An IPv6 address is read back from its groups**, also where zeros are left out. -/
theorem parse?_compressed (x : Ipv6) : parse? x.compressed = some x := by
  rw [compressed]
  split
  · rename_i hrun
    obtain ⟨hgap, -, hlast⟩ := groupsText_closed (x.groups.take (longestRun x.groups).1)
    have hcut := cutGap_gap
      (groupsText (x.groups.drop ((longestRun x.groups).1 + (longestRun x.groups).2))) hgap hlast
    rw [List.append_assoc]
    refine parse?_of_gap (n := (longestRun x.groups).2) hcut ?_ ?_ (by omega)
      (longestRun_split x.groups)
    · rw [pieces_groupsText, hexGroups?_map]
    · rw [pieces_groupsText, lastGroups?_map]
  · rw [parse?, (groupsText_closed x.groups).1]
    simp only [pieces_groupsText, lastGroups?_map, Option.bind_some]
    exact ofGroups?_groups x

/-- The last two groups may be written as an IPv4 address. -/
theorem parse?_mapped {x : Ipv6} {hi lo : UInt16} (hx : x.groups = [0, 0, 0, 0, 0, 0xFFFF, hi, lo]) :
    parse? ("::ffff:".toList ++ (Ipv4.ofGroups hi lo).text) = some x := by
  have hcolon : ':' ∉ (Ipv4.ofGroups hi lo).text := by
    intro hin
    rcases Ipv4.mem_text hin with h | h
    · exact absurd h (by decide)
    · exact absurd h (by decide)
  have hpieces : pieces ("ffff".toList ++ ':' :: (Ipv4.ofGroups hi lo).text) =
      ["ffff".toList, (Ipv4.ofGroups hi lo).text] := by
    rw [pieces, if_neg (by simp), Text.pieces_append _ (by decide), Text.pieces_of_not_mem hcolon]
  have hcut : cutGap ("::ffff:".toList ++ (Ipv4.ofGroups hi lo).text) =
      some ([], "ffff".toList ++ ':' :: (Ipv4.ofGroups hi lo).text) := rfl
  have hfront : hexGroups? (pieces []) = some [] := rfl
  have hback : lastGroups? (pieces ("ffff".toList ++ ':' :: (Ipv4.ofGroups hi lo).text)) =
      some [0xFFFF, hi, lo] := by
    rw [hpieces, lastGroups?, lastGroups?, Ipv4.parse?_text]
    · simp only [Ipv4.groups_ofGroups]
      rfl
    · intro h
      cases h
  exact parse?_of_gap (n := 5) hcut hfront hback (by decide) hx

/-- **An IPv6 address is read back from its text**, also where the text ends in an IPv4 address. -/
theorem parse?_text (x : Ipv6) : parse? x.text = some x := by
  rw [text]
  split
  · rename_i v4 hmapped
    unfold mapped? at hmapped
    split at hmapped
    · rename_i hi lo hgroups
      obtain rfl : Ipv4.ofGroups hi lo = v4 := Option.some.inj hmapped
      exact parse?_mapped hgroups
    · cases hmapped
  · exact parse?_compressed x

/-! ### Colons -/

/-- A piece is a group, but the last may be two. -/
theorem length_lastGroups? : ∀ {ps : List (List Char)} {gs : List UInt16},
    lastGroups? ps = some gs → gs.length ≤ ps.length + 1
  | [], gs, h => by
    rw [lastGroups?] at h
    cases h
    exact Nat.zero_le _
  | [p], gs, h => by
    rw [lastGroups?] at h
    split at h
    · cases h
      exact Nat.le_refl 2
    · obtain ⟨g, -, rfl⟩ := Option.map_eq_some_iff.mp h
      exact Nat.le_succ 1
  | p :: q :: ps, gs, h => by
    rw [lastGroups?] at h
    · obtain ⟨g, -, h⟩ := Option.bind_eq_some_iff.mp h
      obtain ⟨rest, hrest, h⟩ := Option.bind_eq_some_iff.mp h
      cases h
      exact Nat.succ_le_succ (length_lastGroups? hrest)
    · simp

/-- **Every IPv6 address has two colons at least.** -/
theorem two_le_count_colon {s : List Char} (h : (parse? s).isSome) : 2 ≤ s.count ':' := by
  cases hcut : cutGap s with
  | some x =>
    rw [eq_of_cutGap hcut, List.count_append, List.count_cons_self, List.count_cons_self]
    omega
  | none =>
    obtain ⟨x, hx⟩ := Option.isSome_iff_exists.mp h
    rw [parse?, hcut] at hx
    obtain ⟨gs, hgs, hwhole⟩ := Option.bind_eq_some_iff.mp hx
    have hlength : gs.length = 8 := by
      unfold ofGroups? at hwhole
      split at hwhole
      · assumption
      · cases hwhole
    have hle := length_lastGroups? hgs
    unfold pieces at hle
    split at hle
    · rw [hlength] at hle
      exact absurd hle (by decide)
    · rw [Text.length_pieces, hlength] at hle
      omega

theorem colon_mem_of_parse? {s : List Char} (h : (parse? s).isSome) : ':' ∈ s :=
  List.count_pos_iff.mp (Nat.lt_of_lt_of_le Nat.zero_lt_two (two_le_count_colon h))

end Ipv6

/-! ## Either kind -/

namespace Address

/-- The form that stands in URLs, without brackets. -/
def compressed : Address → String
  | v4 ip => String.ofList ip.text
  | v6 ip => String.ofList ip.compressed

theorem parse?_of_ipv6 {s : List Char} {ip : Ipv6} (h : Ipv6.parse? s = some ip) :
    parse? (String.ofList s) = some (.v6 ip) := by
  have hcolon : ':' ∈ s := Ipv6.colon_mem_of_parse? (by rw [h]; rfl)
  rw [parse?, String.toList_ofList, Ipv4.parse?_eq_none (by decide) (by decide) hcolon, h]
  rfl

/-- **An address is read back from its text.** -/
theorem parse?_text (ip : Address) : parse? ip.text = some ip := by
  cases ip with
  | v4 ip => rw [text, parse?, String.toList_ofList, Ipv4.parse?_text]
  | v6 ip => exact parse?_of_ipv6 (Ipv6.parse?_text ip)

/-- So it is from the form that stands in URLs. -/
theorem parse?_compressed (ip : Address) : parse? ip.compressed = some ip := by
  cases ip with
  | v4 ip => exact parse?_text (.v4 ip)
  | v6 ip => exact parse?_of_ipv6 (Ipv6.parse?_compressed ip)

end Address

end Failover
