import Failover.Http.Header
/-!
# Texts from their bytes

Reading the bytes of a text gives the text.

* `Text.Utf8.start_two`, `Text.Utf8.start_three`, `Text.Utf8.start_four` : what the first byte of a
  character tells of the others, by the number of its bytes;
* `Text.Utf8.decodeFrom_char` : a character is read from its bytes, whatever follows;
* `Text.Utf8.decode_encode` : so is a whole text.  `HeaderValue.lossyText_of_ofText?`: a header value
  reads as the text that it was made of.
-/

set_option autoImplicit false

namespace Failover

namespace Text.Utf8

/-! ## First bytes -/

theorem toNat_byte {n : Nat} (h : n < 256) : (UInt8.ofNat n).toNat = n := by
  rw [UInt8.toNat_ofNat', Nat.mod_eq_of_lt h]

variable {v : Nat}

theorem start_one (h : v ≤ 0x7F) : start (UInt8.ofNat v) = .whole (Char.ofNat v) := by
  have hbyte : (UInt8.ofNat v).toNat = v := toNat_byte (by omega)
  simp only [start, hbyte]
  rw [if_pos (by omega)]

theorem start_two (hlow : 0x7F < v) (hhigh : v ≤ 0x7FF) :
    start (UInt8.ofNat (v / 64 % 32 + 192)) = .opening ⟨1, v / 64, 0x80, 0xBF⟩ := by
  have hbyte : (UInt8.ofNat (v / 64 % 32 + 192)).toNat = v / 64 + 192 := by
    rw [toNat_byte (by omega)]
    omega
  simp only [start, hbyte]
  rw [if_neg (by omega), if_neg (by omega), if_pos (by omega), Nat.add_sub_cancel]

/-- The second of three bytes is one that may follow the first: it makes the character neither too
    small for three bytes nor one of those that are left out. -/
theorem start_three (hlow : 0x7FF < v) (hhigh : v ≤ 0xFFFF) (hvalid : v < 0xD800 ∨ 0xDFFF < v) :
    ∃ low high, start (UInt8.ofNat (v / 4096 % 16 + 224)) = .opening ⟨2, v / 4096, low, high⟩ ∧
      low ≤ v / 64 % 64 + 128 ∧ v / 64 % 64 + 128 ≤ high := by
  have hbyte : (UInt8.ofNat (v / 4096 % 16 + 224)).toNat = v / 4096 + 224 := by
    rw [toNat_byte (by omega)]
    omega
  simp only [start, hbyte]
  rw [if_neg (by omega), if_neg (by omega), if_neg (by omega)]
  by_cases hsmall : v / 4096 = 0
  · rw [if_pos (by omega), hsmall]
    exact ⟨_, _, rfl, by omega, by omega⟩
  · rw [if_neg (by omega)]
    by_cases hgap : v / 4096 = 13
    · rw [if_pos (by omega), hgap]
      exact ⟨_, _, rfl, by omega, by omega⟩
    · rw [if_neg (by omega), if_pos (by omega), Nat.add_sub_cancel]
      exact ⟨_, _, rfl, by omega, by omega⟩

theorem start_four (hlow : 0xFFFF < v) (hhigh : v < 0x110000) :
    ∃ low high, start (UInt8.ofNat (v / 262144 % 8 + 240)) = .opening ⟨3, v / 262144, low, high⟩ ∧
      low ≤ v / 4096 % 64 + 128 ∧ v / 4096 % 64 + 128 ≤ high := by
  have hbyte : (UInt8.ofNat (v / 262144 % 8 + 240)).toNat = v / 262144 + 240 := by
    rw [toNat_byte (by omega)]
    omega
  simp only [start, hbyte]
  rw [if_neg (by omega), if_neg (by omega), if_neg (by omega), if_neg (by omega), if_neg (by omega),
    if_neg (by omega)]
  by_cases hsmall : v / 262144 = 0
  · rw [if_pos (by omega), hsmall]
    exact ⟨_, _, rfl, by omega, by omega⟩
  · rw [if_neg (by omega)]
    by_cases hlast : v / 262144 = 4
    · rw [if_neg (by omega), if_pos (by omega), hlast]
      exact ⟨_, _, rfl, by omega, by omega⟩
    · rw [if_pos (by omega), Nat.add_sub_cancel]
      exact ⟨_, _, rfl, by omega, by omega⟩

/-! ## Characters -/

theorem decodeFrom_whole {b : UInt8} {c : Char} (h : start b = .whole c) (bs : Bytes) :
    decodeFrom none (b :: bs) = some c :: decodeFrom none bs := by
  rw [decodeFrom, h]

theorem decodeFrom_opening {b : UInt8} {p : Partial} (h : start b = .opening p) (bs : Bytes) :
    decodeFrom none (b :: bs) = decodeFrom (some p) bs := by
  rw [decodeFrom, h]

/-- The last byte of a character. -/
theorem decodeFrom_last {bits low high n : Nat} (hlow : low ≤ n + 128) (hhigh : n + 128 ≤ high)
    (hn : n < 64) (bs : Bytes) :
    decodeFrom (some ⟨1, bits, low, high⟩) (UInt8.ofNat (n + 128) :: bs) =
      some (Char.ofNat (bits * 64 + n)) :: decodeFrom none bs := by
  have hbyte : (UInt8.ofNat (n + 128)).toNat = n + 128 := toNat_byte (by omega)
  rw [decodeFrom]
  simp only [hbyte, Nat.add_sub_cancel]
  rw [if_pos ⟨hlow, hhigh⟩, if_pos (Nat.le_refl 1)]

/-- A byte in the middle of one. -/
theorem decodeFrom_next {missing bits low high n : Nat} (hlow : low ≤ n + 128)
    (hhigh : n + 128 ≤ high) (hn : n < 64) (bs : Bytes) :
    decodeFrom (some ⟨missing + 2, bits, low, high⟩) (UInt8.ofNat (n + 128) :: bs) =
      decodeFrom (some ⟨missing + 1, bits * 64 + n, 0x80, 0xBF⟩) bs := by
  have hbyte : (UInt8.ofNat (n + 128)).toNat = n + 128 := toNat_byte (by omega)
  rw [decodeFrom]
  simp only [hbyte, Nat.add_sub_cancel]
  rw [if_pos ⟨hlow, hhigh⟩, if_neg (by omega)]
  rfl

/-- **A character is read from its bytes**, whatever follows them. -/
theorem decodeFrom_char (c : Char) (rest : Bytes) :
    decodeFrom none (String.utf8EncodeChar c ++ rest) = some c :: decodeFrom none rest := by
  have hvalid : c.toNat < 0xD800 ∨ 0xDFFF < c.toNat ∧ c.toNat < 0x110000 := c.valid
  have hchar : Char.ofNat c.toNat = c := Char.ofNat_toNat c
  have hv : c.val.toNat = c.toNat := rfl
  unfold String.utf8EncodeChar
  simp only [hv]
  generalize c.toNat = v at hvalid hchar ⊢
  subst hchar
  split
  · rename_i h
    exact decodeFrom_whole (start_one h) rest
  · split
    · rename_i hlow hhigh
      have hbits : v / 64 * 64 + v % 64 = v := by omega
      show decodeFrom none (_ :: _ :: rest) = _
      rw [decodeFrom_opening (start_two (by omega) hhigh), decodeFrom_last (by omega) (by omega)
        (by omega), hbits]
    · split
      · rename_i hlow hhigh
        have hbits : (v / 4096 * 64 + v / 64 % 64) * 64 + v % 64 = v := by omega
        obtain ⟨low, high, hstart, hle, hge⟩ := start_three (v := v) (by omega) hhigh (by omega)
        show decodeFrom none (_ :: _ :: _ :: rest) = _
        rw [decodeFrom_opening hstart, decodeFrom_next hle hge (by omega),
          decodeFrom_last (by omega) (by omega) (by omega), hbits]
      · rename_i hlow
        have hbits : ((v / 262144 * 64 + v / 4096 % 64) * 64 + v / 64 % 64) * 64 + v % 64 = v := by
          omega
        obtain ⟨low, high, hstart, hle, hge⟩ := start_four (v := v) (by omega) (by omega)
        show decodeFrom none (_ :: _ :: _ :: _ :: rest) = _
        rw [decodeFrom_opening hstart, decodeFrom_next hle hge (by omega),
          decodeFrom_next (by omega) (by omega) (by omega),
          decodeFrom_last (by omega) (by omega) (by omega), hbits]

/-! ## Texts -/

/-- **A text is read from its bytes.** -/
theorem decode_encode : ∀ s : List Char, decode (encode s) = s.map some
  | [] => rfl
  | c :: s => by
    have ih := decode_encode s
    unfold decode encode at ih ⊢
    rw [List.flatMap_cons, decodeFrom_char, ih]
    rfl

theorem decodeLossy_encode (s : List Char) : decodeLossy (encode s) = s := by
  rw [decodeLossy, decode_encode, List.map_map]
  exact List.map_id s

end Text.Utf8

/-- A header value reads as the text that it was made of. -/
theorem HeaderValue.lossyText_of_ofText? {s : String} {v : HeaderValue} (h : ofText? s = some v) :
    v.lossyText = s := by
  unfold ofText? at h
  simp only [] at h
  split at h
  · cases h
    rw [lossyText, Text.Utf8.decodeLossy_encode, String.ofList_toList]
  · cases h

end Failover
