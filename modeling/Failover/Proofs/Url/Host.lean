import Failover.Url.Host
/-!
# What no host holds

A URL is cut at certain ASCII characters before its host is read.  No text that holds one of them is
read as a host: percent-decoding leaves these characters in the text, and a domain name with one of them
is refused.

* `Percent.mem_decode`, `Text.Utf8.mem_decode?` : percent-decoding leaves them in the text;
* `Idna.toAscii?_eq_none` : a name that holds one is not looked up;
* `Host.not_delimits_of_special?` : the hosts that are read hold none of them.
-/

set_option autoImplicit false

namespace Failover

namespace Host

/-- What holds of these codes holds of these characters. -/
theorem Delimits.of_codes {P : Char → Prop} {c : Char} (hc : Delimits c)
    (h : ∀ n ∈ delimiters, P (Char.ofNat n)) : P c := by
  have hp := h c.toNat hc
  rwa [Char.ofNat_toNat] at hp

theorem Delimits.toNat_lt {c : Char} (hc : Delimits c) : c.toNat < 0x80 := by
  have h : ∀ n ∈ delimiters, n < 0x80 := by decide
  exact h _ hc

theorem Delimits.forbidden {c : Char} (hc : Delimits c) : Idna.forbidden c = true :=
  hc.of_codes (P := fun c => Idna.forbidden c = true) (by decide)

end Host

open Host (Delimits delimiters)

/-! ## Percent-decoding -/

/-- The byte of an ASCII character is among those of a text that holds it. -/
theorem Text.Utf8.mem_encode {c : Char} {s : List Char} (hc : c.toNat < 0x80) (h : c ∈ s) :
    UInt8.ofNat c.toNat ∈ encode s := by
  refine List.mem_flatMap.mpr ⟨c, h, ?_⟩
  have hle : c.val.toNat ≤ 127 := Nat.le_of_lt_succ hc
  unfold String.utf8EncodeChar
  simp only [hle, if_true]
  exact List.mem_singleton_self _

/-- A byte that is no part of an encoded one stays. -/
theorem Percent.mem_decode {b : UInt8} (hpercent : b ≠ 0x25) (hhex : hexValue? b = none) :
    ∀ {bs : Bytes}, b ∈ bs → b ∈ decode bs := by
  intro bs
  fun_induction decode bs with
  | case1 => exact id
  | case2 h l r x y hl hh ih =>
    intro hb
    rcases List.mem_cons.mp hb with rfl | hb
    · exact absurd rfl hpercent
    · rcases List.mem_cons.mp hb with rfl | hb
      · cases hhex.symm.trans hh
      · rcases List.mem_cons.mp hb with rfl | hb
        · cases hhex.symm.trans hl
        · exact List.mem_cons_of_mem _ (ih hb)
  | case3 h l r hnot ih =>
    intro hb
    rcases List.mem_cons.mp hb with rfl | hb
    · exact List.mem_cons_self
    · exact List.mem_cons_of_mem _ (ih hb)
  | case4 a r hnot ih =>
    intro hb
    rcases List.mem_cons.mp hb with rfl | hb
    · exact List.mem_cons_self
    · exact List.mem_cons_of_mem _ (ih hb)

namespace Text.Utf8

/-- No byte that continues a character is ASCII. -/
def Partial.BeyondAscii (p : Partial) : Prop := 0x80 ≤ p.low

theorem start_of_ascii {b : UInt8} (hb : b.toNat < 0x80) :
    start b = .whole (Char.ofNat b.toNat) := by
  simp [start, hb]

theorem start_opening {b : UInt8} {p : Partial} (h : start b = .opening p) : p.BeyondAscii := by
  unfold start at h
  simp only [] at h
  repeat' split at h
  all_goals first
    | (cases h; exact Nat.le_of_ble_eq_true rfl)
    | cases h

/-- Bytes that go on with an ASCII byte where a character starts. -/
theorem decodeFrom_ascii {b : UInt8} (hb : b.toNat < 0x80) (bs : Bytes) :
    decodeFrom none (b :: bs) = some (Char.ofNat b.toNat) :: decodeFrom none bs := by
  rw [decodeFrom, start_of_ascii hb]

/-- An ASCII byte breaks a character off. -/
theorem decodeFrom_broken {b : UInt8} {p : Partial} (hb : b.toNat < 0x80) (hp : p.BeyondAscii)
    (bs : Bytes) : ∃ rest, decodeFrom (some p) (b :: bs) = none :: rest := by
  have hout : ¬ (p.low ≤ b.toNat ∧ b.toNat ≤ p.high) := by
    rintro ⟨hlow, -⟩
    exact absurd (Nat.le_trans hp hlow) (Nat.not_le.mpr hb)
  rw [decodeFrom]
  simp only [hout, if_false]
  exact ⟨_, rfl⟩

/-- What follows one byte: the characters behind it are those of the rest, from a state that is beyond
    ASCII again, or some byte was malformed. -/
theorem decodeFrom_cons (b : UInt8) (bs : Bytes) {p : Option Partial}
    (hp : ∀ q, p = some q → q.BeyondAscii) :
    (∃ rest, decodeFrom p (b :: bs) = none :: rest) ∨
    ∃ front p', decodeFrom p (b :: bs) = front ++ decodeFrom p' bs ∧
      ∀ q, p' = some q → q.BeyondAscii := by
  cases p with
  | none =>
    rw [decodeFrom]
    cases hs : start b with
    | whole c => exact Or.inr ⟨[some c], none, rfl, fun _ h => by cases h⟩
    | opening q =>
      refine Or.inr ⟨[], some q, rfl, fun q' h => ?_⟩
      cases h
      exact start_opening hs
    | malformed => exact Or.inl ⟨_, rfl⟩
  | some q =>
    rw [decodeFrom]
    by_cases hin : q.low ≤ b.toNat ∧ b.toNat ≤ q.high
    · by_cases hm : q.missing ≤ 1
      · simp only [hin, hm, and_self, if_true]
        exact Or.inr ⟨[_], none, rfl, fun _ h => by cases h⟩
      · simp only [hin, hm, and_self, if_true, if_false]
        refine Or.inr ⟨[], some _, rfl, fun q' h => ?_⟩
        cases h
        exact Nat.le_refl _
    · simp only [hin, if_false]
      exact Or.inl ⟨_, rfl⟩

/-- An ASCII byte among bytes that are well-formed is a character of its own. -/
theorem mem_decodeFrom {b : UInt8} (hb : b.toNat < 0x80) : ∀ {bs : Bytes} {p : Option Partial},
    (∀ q, p = some q → q.BeyondAscii) → (decodeFrom p bs).all Option.isSome = true → b ∈ bs →
      some (Char.ofNat b.toNat) ∈ decodeFrom p bs
  | [], _, _, _, h => by cases h
  | a :: bs, p, hp, hall, h => by
    rcases List.mem_cons.mp h with rfl | h
    · cases p with
      | none =>
        rw [decodeFrom_ascii hb]
        exact List.mem_cons_self
      | some q =>
        obtain ⟨rest, hrest⟩ := decodeFrom_broken hb (hp q rfl) bs
        rw [hrest] at hall
        simp at hall
    · obtain ⟨rest, hrest⟩ | ⟨front, p', hfront, hp'⟩ := decodeFrom_cons a bs hp
      · rw [hrest] at hall
        simp at hall
      · rw [hfront, List.all_append, Bool.and_eq_true] at hall
        rw [hfront]
        exact List.mem_append_right _ (mem_decodeFrom hb hp' hall.2 h)

/-- So it stands in the text of the bytes. -/
theorem mem_decode? {b : UInt8} (hb : b.toNat < 0x80) {bs : Bytes} {s : List Char} (h : b ∈ bs)
    (hs : decode? bs = some s) : Char.ofNat b.toNat ∈ s := by
  unfold decode? at hs
  simp only [] at hs
  split at hs
  · rename_i hall
    cases hs
    have hmem := mem_decodeFrom hb (p := none) (fun _ hq => by cases hq) hall h
    exact List.mem_filterMap.mpr ⟨_, hmem, rfl⟩
  · cases hs

end Text.Utf8

/-- The characters that delimit stay where percent-encoded bytes are put back. -/
theorem Host.mem_unescaped? {c : Char} (hc : Delimits c) {s t : List Char} (h : c ∈ s)
    (ht : unescaped? s = some t) : c ∈ t := by
  unfold unescaped? at ht
  split at ht
  · have hplain : ∀ n ∈ delimiters,
        UInt8.ofNat n ≠ 0x25 ∧ Percent.hexValue? (UInt8.ofNat n) = none := by decide
    obtain ⟨hpercent, hhex⟩ := hplain _ hc
    have hbyte := Percent.mem_decode hpercent hhex (Text.Utf8.mem_encode hc.toNat_lt h)
    have htoNat : (UInt8.ofNat c.toNat).toNat = c.toNat := by
      have := hc.toNat_lt
      rw [UInt8.toNat_ofNat']
      omega
    have hmem := Text.Utf8.mem_decode? (by rw [htoNat]; exact hc.toNat_lt) hbyte ht
    rwa [htoNat, Char.ofNat_toNat] at hmem
  · cases ht
    exact h

/-! ## Names -/

/-- A character other than the separator stands in one of the pieces. -/
theorem Text.mem_pieces {sep c : Char} (hc : c ≠ sep) : ∀ {s : List Char}, c ∈ s →
    ∃ p ∈ pieces sep s, c ∈ p
  | [], h => by cases h
  | d :: r, h => by
    unfold pieces
    rcases List.mem_cons.mp h with rfl | h
    · rw [if_neg hc]
      cases pieces sep r with
      | nil => exact ⟨[c], List.mem_cons_self, List.mem_cons_self⟩
      | cons p ps => exact ⟨c :: p, List.mem_cons_self, List.mem_cons_self⟩
    · obtain ⟨p, hp, hin⟩ := mem_pieces hc h
      split
      · exact ⟨p, List.mem_cons_of_mem _ hp, hin⟩
      · cases hps : pieces sep r with
        | nil =>
          rw [hps] at hp
          cases hp
        | cons q qs =>
          rw [hps] at hp
          rcases List.mem_cons.mp hp with rfl | hp
          · exact ⟨d :: p, List.mem_cons_self, List.mem_cons_of_mem d hin⟩
          · exact ⟨p, List.mem_cons_of_mem _ hp, hin⟩

/-- No name with a delimiter is looked up. -/
theorem Idna.toAscii?_eq_none [DomainNames] {c : Char} (hc : Delimits c) {s : List Char} (h : c ∈ s) :
    toAscii? s = none := by
  unfold toAscii?
  split
  · rw [plain?, if_pos (List.any_eq_true.mpr ⟨c, h, hc.forbidden⟩)]
  · exact DomainNames.encoded?_eq_none hc h

/-- **Hosts hold no delimiters**, other than the brackets and colons of an address between brackets. -/
theorem Host.not_delimits_of_special? [DomainNames] {s : List Char} {host : Host} (hs :
    special? s = .ok host)
    (hname : s.head? ≠ some '[') : ∀ c ∈ s, ¬ Delimits c := by
  intro c hin hc
  unfold special? at hs
  rw [if_neg hname] at hs
  cases ht : unescaped? s with
  | none =>
    rw [ht] at hs
    cases hs
  | some t =>
    rw [ht, Option.bind_some, Idna.toAscii?_eq_none hc (mem_unescaped? hc hin ht)] at hs
    cases hs

end Failover
