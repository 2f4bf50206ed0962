import Timephrase.Text.Utf8

/-!
# Reading back the bytes of a text

## Main results

* `Utf8.length_encode`: the number of bytes of some characters
* `Utf8.decode_encode`: the bytes of some characters are read as these characters
-/

namespace Timephrase.Utf8

theorem encode_cons (c : Char) (cs : List Char) :
    encode (c :: cs) = String.utf8EncodeChar c ++ encode cs := rfl

theorem length_encode (cs : List Char) : (encode cs).length = size cs := by
  induction cs with
  | nil => rfl
  | cons c cs ih => rw [encode_cons, List.length_append, String.length_utf8EncodeChar, ih, size]

/-! ## The first byte of a character -/

theorem start_of_two : ∀ k < 32, 2 ≤ k → start (k + 0xC0) = ([], some ⟨1, k, 0x80, 0xBF⟩) := by
  decide

/-- The first of three bytes bounds the second: what two bytes hold is not written with three, and
no character stands for half of a pair. -/
theorem start_of_three : ∀ k < 16, start (k + 0xE0) =
    ([], some ⟨2, k, if k = 0 then 0xA0 else 0x80, if k = 13 then 0x9F else 0xBF⟩) := by
  decide

/-- The first of four bytes bounds the second: what three bytes hold is not written with four, and
there is a greatest character. -/
theorem start_of_four : ∀ k < 5, start (k + 0xF0) =
    ([], some ⟨3, k, if k = 0 then 0x90 else 0x80, if k = 4 then 0x8F else 0xBF⟩) := by
  decide

/-! ## One byte -/

variable {p : Pending} {bs : List UInt8} {k v : Nat}

/-- A byte that begins a character leaves it to be gone on with. -/
theorem decodeFrom_start (hk : k < 256) (h : start k = ([], some p)) :
    decodeFrom none (UInt8.ofNat k :: bs) = decodeFrom (some p) bs := by
  rw [decodeFrom, step, UInt8.toNat_ofNat_of_lt' hk, h]
  rfl

theorem toNat_tail (v : Nat) : (UInt8.ofNat (v % 64 + 0x80)).toNat = v % 64 + 0x80 :=
  UInt8.toNat_ofNat_of_lt' (show _ < 256 by omega)

/-- A byte that may come next in a character of which more is to come goes on with it. -/
theorem decodeFrom_tail (hleast : p.least ≤ v % 64 + 0x80) (hgreatest : v % 64 + 0x80 ≤ p.greatest)
    (hmissing : 1 < p.missing) :
    decodeFrom (some p) (UInt8.ofNat (v % 64 + 0x80) :: bs) =
      decodeFrom (some ⟨p.missing - 1, p.bits * 64 + v % 64, 0x80, 0xBF⟩) bs := by
  have hbits : (v % 64 + 0x80) % 64 = v % 64 := by omega
  rw [decodeFrom, step, toNat_tail, if_pos ⟨hleast, hgreatest⟩, hbits]
  simp only [if_neg (Nat.not_le.mpr hmissing), List.nil_append]

/-- A byte that may come last in a character completes it. -/
theorem decodeFrom_last (hleast : p.least ≤ v % 64 + 0x80) (hgreatest : v % 64 + 0x80 ≤ p.greatest)
    (hmissing : p.missing = 1) :
    decodeFrom (some p) (UInt8.ofNat (v % 64 + 0x80) :: bs) =
      Char.ofNat (p.bits * 64 + v % 64) :: decode bs := by
  have hbits : (v % 64 + 0x80) % 64 = v % 64 := by omega
  rw [decodeFrom, step, toNat_tail, if_pos ⟨hleast, hgreatest⟩, hbits]
  simp only [if_pos (Nat.le_of_eq hmissing), List.singleton_append, decode]

/-! ## One character -/

/-- **The bytes of a character are read as the character**, whatever follows. -/
theorem decode_encodeChar (c : Char) (bs : List UInt8) :
    decode (String.utf8EncodeChar c ++ bs) = c :: decode bs := by
  have hc : Char.ofNat c.val.toNat = c := Char.ofNat_toNat c
  have hvalid : c.val.toNat < 0xD800 ∨ 0xDFFF < c.val.toNat ∧ c.val.toNat < 0x110000 := c.valid
  rw [String.utf8EncodeChar]
  generalize c.val.toNat = v at hc hvalid
  subst hc
  -- By the number of bytes.
  split
  · next hone =>
    rw [List.singleton_append, decode, decodeFrom, step,
      UInt8.toNat_ofNat_of_lt' (show v < 256 by omega), start, if_pos (by omega)]
    rfl
  · next hone =>
    split
    · next htwo =>
      have hlead : v / 64 % 32 = v / 64 := by omega
      have hbits : v / 64 * 64 + v % 64 = v := by omega
      rw [hlead, List.cons_append, List.singleton_append, decode,
        decodeFrom_start (by omega) (start_of_two (v / 64) (by omega) (by omega)),
        decodeFrom_last (by dsimp only; omega) (by dsimp only; omega) rfl, hbits]
    · next htwo =>
      split
      · next hthree =>
        have hlead : v / 4096 % 16 = v / 4096 := by omega
        have hbits : (v / 4096 * 64 + v / 64 % 64) * 64 + v % 64 = v := by omega
        rw [hlead, List.cons_append, List.cons_append, List.singleton_append, decode,
          decodeFrom_start (by omega) (start_of_three (v / 4096) (by omega)),
          decodeFrom_tail (by dsimp only; split <;> omega) (by dsimp only; split <;> omega)
            Nat.one_lt_two,
          decodeFrom_last (by dsimp only; omega) (by dsimp only; omega) rfl, hbits]
      · next hthree =>
        have hlead : v / 262144 % 8 = v / 262144 := by omega
        have hbits : ((v / 262144 * 64 + v / 4096 % 64) * 64 + v / 64 % 64) * 64 + v % 64 = v := by
          omega
        rw [hlead, List.cons_append, List.cons_append, List.cons_append, List.singleton_append,
          decode, decodeFrom_start (by omega) (start_of_four (v / 262144) (by omega)),
          decodeFrom_tail (by dsimp only; split <;> omega) (by dsimp only; split <;> omega)
            (show 1 < 3 by decide),
          decodeFrom_tail (by dsimp only; omega) (by dsimp only; omega) Nat.one_lt_two,
          decodeFrom_last (by dsimp only; omega) (by dsimp only; omega) rfl, hbits]

/-- **The bytes of some characters are read as these characters.** -/
theorem decode_encode (cs : List Char) : decode (encode cs) = cs := by
  induction cs with
  | nil => rfl
  | cons c cs ih => rw [encode_cons, decode_encodeChar, ih]

end Timephrase.Utf8
