import Mathlib.Data.List.Infix
import Timephrase.Proofs.Text.Utf8

/-!
# Characters among bytes

Bytes that are no text are read all the same, and it can be told from the bytes which characters
come of them.  The first byte of a character goes on no other one, so that the bytes of a character
are read as this character wherever they stand next to each other.  No other bytes are read as it.

## Main definitions

* `Utf8.IsTail`: the bytes that go on a character
* `Utf8.width`: the number of bytes of a character, by its first byte
* `Utf8.Pending.Begun`: some bytes have begun a character

## Main results

* `Utf8.exists_encodeChar_eq`: the first byte of a character and the others
* `Utf8.decode_append_encodeChar`: the bytes of a character among others are read as the character
* `Utf8.mem_decode_iff`: the characters that some bytes are read as
-/

namespace Timephrase.Utf8

open String (utf8EncodeChar)

/-- A byte that goes on a character. -/
def IsTail (b : UInt8) : Prop := 0x80 ≤ b.toNat ∧ b.toNat ≤ 0xBF

instance (b : UInt8) : Decidable (IsTail b) := inferInstanceAs (Decidable (_ ∧ _))

/-- The number of bytes of a character, by its first byte. -/
def width (b : UInt8) : Nat :=
  if b.toNat < 0x80 then 1 else if b.toNat < 0xE0 then 2 else if b.toNat < 0xF0 then 3 else 4

/-! ## The bytes of a character -/

theorem isTail_ofNat (v : Nat) : IsTail (UInt8.ofNat (v % 64 + 0x80)) := by
  rw [IsTail, toNat_tail]
  omega

theorem ofNat_of_isTail {b : UInt8} (h : IsTail b) : UInt8.ofNat (b.toNat % 64 + 0x80) = b := by
  rw [IsTail] at h
  have htail : b.toNat % 64 + 0x80 = b.toNat := by omega
  rw [htail, UInt8.ofNat_toNat]

theorem toNat_lead {k : Nat} (h : k < 256) : (UInt8.ofNat k).toNat = k :=
  UInt8.toNat_ofNat_of_lt' h

/-- **The first byte of a character** tells how many there are, and goes on no character.  The
others do. -/
theorem exists_encodeChar_eq (c : Char) :
    ∃ lead tail, utf8EncodeChar c = lead :: tail ∧ ¬ IsTail lead ∧ (∀ b ∈ tail, IsTail b) ∧
      width lead = (utf8EncodeChar c).length := by
  have hvalid : c.val.toNat < 0xD800 ∨ 0xDFFF < c.val.toNat ∧ c.val.toNat < 0x110000 := c.valid
  rw [utf8EncodeChar]
  generalize c.val.toNat = v at hvalid
  -- By the number of bytes.
  split
  · have hlead := toNat_lead (k := v) (by omega)
    refine ⟨_, _, rfl, ?_, by simp, ?_⟩
    · rw [IsTail, hlead]
      omega
    · rw [width, hlead, if_pos (by omega)]
      rfl
  · split
    · have hlead := toNat_lead (k := v / 64 % 32 + 0xC0) (by omega)
      refine ⟨_, _, rfl, ?_, by simp only [List.forall_mem_cons, isTail_ofNat,
        List.not_mem_nil, false_imp_iff, implies_true, and_self], ?_⟩
      · rw [IsTail, hlead]
        omega
      · rw [width, hlead, if_neg (by omega), if_pos (by omega)]
        rfl
    · split
      · have hlead := toNat_lead (k := v / 4096 % 16 + 0xE0) (by omega)
        refine ⟨_, _, rfl, ?_, by simp only [List.forall_mem_cons, isTail_ofNat,
          List.not_mem_nil, false_imp_iff, implies_true, and_self], ?_⟩
        · rw [IsTail, hlead]
          omega
        · rw [width, hlead, if_neg (by omega), if_neg (by omega), if_pos (by omega)]
          rfl
      · have hlead := toNat_lead (k := v / 262144 % 8 + 0xF0) (by omega)
        refine ⟨_, _, rfl, ?_, by simp only [List.forall_mem_cons, isTail_ofNat,
          List.not_mem_nil, false_imp_iff, implies_true, and_self], ?_⟩
        · rw [IsTail, hlead]
          omega
        · rw [width, hlead, if_neg (by omega), if_neg (by omega), if_neg (by omega)]
          rfl

theorem val_ofNat {v : Nat} (h : v < 0xD800 ∨ 0xDFFF < v ∧ v < 0x110000) :
    (Char.ofNat v).val.toNat = v := by
  have hvalid : v.isValidChar := h
  rw [Char.ofNat, dif_pos hvalid]
  rfl

section Bytes

variable {k : Nat} {b b' b'' : UInt8} (hb : IsTail b)

include hb

theorem encodeChar_two (hk : 2 ≤ k) (hk' : k < 32) :
    utf8EncodeChar (.ofNat (k * 64 + b.toNat % 64)) = [UInt8.ofNat (k + 0xC0), b] := by
  have hlead : (k * 64 + b.toNat % 64) / 64 % 32 = k := by omega
  have hlast : (k * 64 + b.toNat % 64) % 64 = b.toNat % 64 := by omega
  rw [utf8EncodeChar, val_ofNat (by omega), if_neg (by omega), if_pos (by omega), hlead, hlast,
    ofNat_of_isTail hb]

theorem encodeChar_three (hb' : IsTail b') (hk : k < 16)
    (hleast : (if k = 0 then 0xA0 else 0x80) ≤ b.toNat)
    (hgreatest : b.toNat ≤ if k = 13 then 0x9F else 0xBF) :
    utf8EncodeChar (.ofNat ((k * 64 + b.toNat % 64) * 64 + b'.toNat % 64)) =
      [UInt8.ofNat (k + 0xE0), b, b'] := by
  have htail : 0x80 ≤ b.toNat ∧ b.toNat ≤ 0xBF := hb
  -- Neither what two bytes hold nor half of a pair.
  have hlow : 0x800 ≤ (k * 64 + b.toNat % 64) * 64 := by split at hleast <;> omega
  have hvalid : (k * 64 + b.toNat % 64) * 64 + b'.toNat % 64 < 0xD800 ∨
      0xDFFF < (k * 64 + b.toNat % 64) * 64 := by split at hgreatest <;> omega
  generalize hv : (k * 64 + b.toNat % 64) * 64 + b'.toNat % 64 = v at hvalid
  have hlead : v / 4096 % 16 = k := by omega
  have hmiddle : v / 64 % 64 = b.toNat % 64 := by omega
  have hlast : v % 64 = b'.toNat % 64 := by omega
  rw [utf8EncodeChar, val_ofNat (by omega), if_neg (by omega), if_neg (by omega),
    if_pos (by omega), hlead, hmiddle, hlast, ofNat_of_isTail hb, ofNat_of_isTail hb']

theorem encodeChar_four (hb' : IsTail b') (hb'' : IsTail b'') (hk : k < 5)
    (hleast : (if k = 0 then 0x90 else 0x80) ≤ b.toNat)
    (hgreatest : b.toNat ≤ if k = 4 then 0x8F else 0xBF) :
    utf8EncodeChar
        (.ofNat (((k * 64 + b.toNat % 64) * 64 + b'.toNat % 64) * 64 + b''.toNat % 64)) =
      [UInt8.ofNat (k + 0xF0), b, b', b''] := by
  have htail : 0x80 ≤ b.toNat ∧ b.toNat ≤ 0xBF := hb
  -- Neither what three bytes hold nor beyond the greatest character.
  have hlow : 0x10000 ≤ (k * 64 + b.toNat % 64) * 64 * 64 := by split at hleast <;> omega
  have hhigh : (k * 64 + b.toNat % 64) * 64 * 64 < 0x110000 := by split at hgreatest <;> omega
  generalize hv : ((k * 64 + b.toNat % 64) * 64 + b'.toNat % 64) * 64 + b''.toNat % 64 = v
  have hlead : v / 262144 % 8 = k := by omega
  have hsecond : v / 4096 % 64 = b.toNat % 64 := by omega
  have hthird : v / 64 % 64 = b'.toNat % 64 := by omega
  have hlast : v % 64 = b''.toNat % 64 := by omega
  rw [utf8EncodeChar, val_ofNat (by omega), if_neg (by omega), if_neg (by omega),
    if_neg (by omega), hlead, hsecond, hthird, hlast, ofNat_of_isTail hb, ofNat_of_isTail hb',
    ofNat_of_isTail hb'']

end Bytes

/-! ## Characters that are begun -/

/-- The character that a begun one becomes with some more bytes. -/
def Pending.completed (p : Pending) (tail : List UInt8) : Char :=
  Char.ofNat (tail.foldl (fun bits b => bits * 64 + b.toNat % 64) p.bits)

/-- The bytes `seen` have begun a character: with any bytes that may come next and complete it, they
are the bytes of what it becomes. -/
structure Pending.Begun (p : Pending) (seen : List UInt8) : Prop where
  missing : 0 < p.missing
  tail : 0x80 ≤ p.least ∧ p.greatest ≤ 0xBF
  completed : ∀ b tail, p.least ≤ b.toNat → b.toNat ≤ p.greatest → (∀ b ∈ tail, IsTail b) →
    tail.length + 1 = p.missing →
      utf8EncodeChar (p.completed (b :: tail)) = seen ++ b :: tail

namespace Pending.Begun

variable {p : Pending} {seen : List UInt8} {b : UInt8}

theorem isTail (h : p.Begun seen) (hleast : p.least ≤ b.toNat) (hgreatest : b.toNat ≤ p.greatest) :
    IsTail b :=
  ⟨h.tail.1.trans hleast, hgreatest.trans h.tail.2⟩

/-- The last byte completes the character. -/
theorem last (h : p.Begun seen) (hleast : p.least ≤ b.toNat) (hgreatest : b.toNat ≤ p.greatest)
    (hmissing : p.missing ≤ 1) :
    utf8EncodeChar (.ofNat (p.bits * 64 + b.toNat % 64)) = seen ++ [b] := by
  have hone : p.missing = 1 := Nat.le_antisymm hmissing h.missing
  exact h.completed b [] hleast hgreatest (by simp) hone.symm

/-- Any other byte goes on with it. -/
theorem next (h : p.Begun seen) (hleast : p.least ≤ b.toNat) (hgreatest : b.toNat ≤ p.greatest)
    (hmissing : 1 < p.missing) :
    Begun ⟨p.missing - 1, p.bits * 64 + b.toNat % 64, 0x80, 0xBF⟩ (seen ++ [b]) where
  missing := Nat.sub_pos_of_lt hmissing
  tail := ⟨Nat.le_refl _, Nat.le_refl _⟩
  completed b' tail hleast' hgreatest' htail hlength := by
    have hmore : ∀ b ∈ b' :: tail, IsTail b :=
      List.forall_mem_cons.mpr ⟨⟨hleast', hgreatest'⟩, htail⟩
    have hwhole := h.completed b (b' :: tail) hleast hgreatest hmore
      (by simp only [List.length_cons] at hlength ⊢; omega)
    rw [List.append_assoc]
    exact hwhole

end Pending.Begun

section First

variable {b : UInt8} {k : Nat}

/-- The first of two bytes has begun a character. -/
theorem begun_of_two (hk : b.toNat = k + 0xC0) (hlow : 2 ≤ k) (hhigh : k < 32) :
    ∃ p, start b.toNat = ([], some p) ∧ p.Begun [b] := by
  refine ⟨_, hk ▸ start_of_two k hhigh hlow, Nat.one_pos, by simp, ?_⟩
  intro b' tail hleast hgreatest _ hlength
  obtain rfl : tail = [] := List.length_eq_zero_iff.mp (Nat.succ.inj hlength)
  have hlead : UInt8.ofNat (k + 0xC0) = b := by rw [← hk, UInt8.ofNat_toNat]
  rw [← hlead]
  exact encodeChar_two (k := k) ⟨hleast, hgreatest⟩ hlow hhigh

/-- The first of three bytes has begun a character. -/
theorem begun_of_three (hk : b.toNat = k + 0xE0) (hhigh : k < 16) :
    ∃ p, start b.toNat = ([], some p) ∧ p.Begun [b] := by
  have hbounds : 0x80 ≤ (if k = 0 then 0xA0 else 0x80) ∧
      (if k = 13 then 0x9F else 0xBF) ≤ 0xBF := by
    constructor <;> split <;> omega
  refine ⟨_, hk ▸ start_of_three k hhigh, Nat.two_pos, hbounds, ?_⟩
  intro b' tail hleast hgreatest htail hlength
  obtain ⟨b'', rfl⟩ := List.length_eq_one_iff.mp (Nat.succ.inj hlength)
  have hlead : UInt8.ofNat (k + 0xE0) = b := by rw [← hk, UInt8.ofNat_toNat]
  rw [← hlead]
  exact encodeChar_three (k := k) ⟨hbounds.1.trans hleast, hgreatest.trans hbounds.2⟩
    (htail b'' (by simp)) hhigh hleast hgreatest

/-- The first of four bytes has begun a character. -/
theorem begun_of_four (hk : b.toNat = k + 0xF0) (hhigh : k < 5) :
    ∃ p, start b.toNat = ([], some p) ∧ p.Begun [b] := by
  have hbounds : 0x80 ≤ (if k = 0 then 0x90 else 0x80) ∧
      (if k = 4 then 0x8F else 0xBF) ≤ 0xBF := by
    constructor <;> split <;> omega
  refine ⟨_, hk ▸ start_of_four k hhigh, Nat.succ_pos 2, hbounds, ?_⟩
  intro b' tail hleast hgreatest htail hlength
  obtain ⟨b₂, b₃, rfl⟩ := List.length_eq_two.mp (Nat.succ.inj hlength)
  have hlead : UInt8.ofNat (k + 0xF0) = b := by rw [← hk, UInt8.ofNat_toNat]
  rw [← hlead]
  exact encodeChar_four (k := k) ⟨hbounds.1.trans hleast, hgreatest.trans hbounds.2⟩
    (htail b₂ (by simp)) (htail b₃ (by simp)) hhigh hleast hgreatest

end First

/-- **A first byte** is a character, or none begins with it, or it has begun one. -/
theorem start_cases (b : UInt8) :
    (start b.toNat = ([Char.ofNat b.toNat], none) ∧ utf8EncodeChar (.ofNat b.toNat) = [b]) ∨
      start b.toNat = ([replacement], none) ∨
        ∃ p, start b.toNat = ([], some p) ∧ p.Begun [b] := by
  have hb : b.toNat < 256 := b.toNat_lt
  by_cases hascii : b.toNat < 0x80
  · refine Or.inl ⟨if_pos hascii, ?_⟩
    rw [utf8EncodeChar, val_ofNat (by omega), if_pos (by omega), UInt8.ofNat_toNat]
  by_cases hnone : b.toNat < 0xC2 ∨ 0xF5 ≤ b.toNat
  · refine Or.inr (Or.inl ?_)
    rw [start, if_neg hascii]
    rcases hnone with hlow | hhigh
    · rw [if_pos hlow]
    · rw [if_neg (by omega), if_neg (by omega), if_neg (by omega), if_neg (by omega),
        if_neg (by omega), if_neg (by omega), if_neg (by omega), if_neg (by omega)]
  refine Or.inr (Or.inr ?_)
  -- Two, three and four bytes, by the bits that the first of them has.
  by_cases htwo : b.toNat < 0xE0
  · exact begun_of_two (k := b.toNat - 0xC0) (by omega) (by omega) (by omega)
  by_cases hthree : b.toNat < 0xF0
  · exact begun_of_three (k := b.toNat - 0xE0) (by omega) (by omega)
  · exact begun_of_four (k := b.toNat - 0xF0) (by omega) (by omega)

/-! ## Reading -/

/-- The bytes that have been read of a character that may be begun. -/
def Begins : Option Pending → List UInt8 → Prop
  | none, seen => seen = []
  | some p, seen => p.Begun seen

variable {q : Option Pending} {p : Pending} {seen bs : List UInt8} {b : UInt8} {c : Char}

/-- What a first byte completes and begins. -/
theorem begins_start (b : UInt8) : ∃ seen, Begins (start b.toNat).2 seen ∧ seen <:+ [b] ∧
    ∀ c ∈ (start b.toNat).1, c = replacement ∨ utf8EncodeChar c <:+ [b] := by
  rcases start_cases b with ⟨h, hbytes⟩ | h | ⟨p, h, hp⟩
  · rw [h]
    refine ⟨[], rfl, List.nil_suffix, fun c hc => Or.inr ?_⟩
    rw [List.mem_singleton.mp hc, hbytes]
  · rw [h]
    exact ⟨[], rfl, List.nil_suffix, fun c hc => Or.inl (List.mem_singleton.mp hc)⟩
  · rw [h]
    exact ⟨[b], hp, List.suffix_refl _, by simp⟩

/-- **One byte** completes characters whose bytes have just been read, and replacements. -/
theorem begins_step (h : Begins q seen) (b : UInt8) :
    ∃ seen', Begins (step q b.toNat).2 seen' ∧ seen' <:+ seen ++ [b] ∧
      ∀ c ∈ (step q b.toNat).1, c = replacement ∨ utf8EncodeChar c <:+ seen ++ [b] := by
  obtain ⟨fresh, hfresh, hsuffix, hchars⟩ := begins_start b
  have hlast : [b] <:+ seen ++ [b] := List.suffix_append _ _
  cases q with
  | none => exact ⟨fresh, hfresh, hsuffix.trans hlast, fun c hc =>
      (hchars c hc).imp_right fun h => h.trans hlast⟩
  | some p =>
    rw [step]
    split
    · next hb =>
      dsimp only
      split
      · next hmissing =>
        refine ⟨[], rfl, List.nil_suffix, fun c hc => Or.inr ?_⟩
        rw [List.mem_singleton.mp hc, Pending.Begun.last h hb.1 hb.2 hmissing]
      · next hmissing =>
        exact ⟨_, Pending.Begun.next h hb.1 hb.2 (Nat.lt_of_not_le hmissing), List.suffix_refl _,
          by simp⟩
    -- A byte that does not go on with the character is read as if nothing had been begun.
    · refine ⟨fresh, hfresh, hsuffix.trans hlast, fun c hc => ?_⟩
      rcases List.mem_cons.mp hc with rfl | hc
      · exact Or.inl rfl
      · exact (hchars c hc).imp_right fun h => h.trans hlast

/-- A character that is read has its bytes among those that are. -/
theorem infix_of_mem_decodeFrom (h : Begins q seen) (hc : c ∈ decodeFrom q bs)
    (hne : c ≠ replacement) : utf8EncodeChar c <:+: seen ++ bs := by
  -- On the bytes that are left, for whatever has been begun before them.
  induction bs generalizing q seen with
  | nil =>
    cases q with
    | none => cases hc
    | some p => exact absurd (List.mem_singleton.mp hc) hne
  | cons b bs ih =>
    obtain ⟨seen', hseen, hsuffix, hchars⟩ := begins_step h b
    have hsplit : seen ++ b :: bs = seen ++ [b] ++ bs := by simp
    rw [hsplit]
    rw [decodeFrom] at hc
    rcases List.mem_append.mp hc with hc | hc
    · have hbytes := (hchars c hc).resolve_left hne
      exact hbytes.isInfix.trans (List.prefix_append _ _).isInfix
    · obtain ⟨before, hbefore⟩ := hsuffix
      have hrest : seen' ++ bs <:+ seen ++ [b] ++ bs := ⟨before, by rw [← hbefore]; simp⟩
      exact (ih hseen hc).trans hrest.isInfix

/-- The first byte of a character ends what has been begun. -/
theorem decodeFrom_encodeChar (h : Begins q seen) (c : Char) (bs : List UInt8) :
    decodeFrom q (utf8EncodeChar c ++ bs) = decodeFrom q [] ++ c :: decode bs := by
  cases q with
  | none => exact decode_encodeChar c bs
  | some p =>
    obtain ⟨lead, tail, hbytes, hlead, -, -⟩ := exists_encodeChar_eq c
    -- No first byte goes on with another character.
    have hbounds : ¬ (p.least ≤ lead.toNat ∧ lead.toNat ≤ p.greatest) := fun hb =>
      hlead (Pending.Begun.isTail h hb.1 hb.2)
    have hafresh : decodeFrom (some p) (lead :: (tail ++ bs)) =
        replacement :: decode (lead :: (tail ++ bs)) := by
      rw [decodeFrom, step, if_neg hbounds]
      rfl
    rw [← decode_encodeChar, hbytes]
    exact hafresh

/-- **The bytes of a character among others** are read as the character, whatever stands before and
after them. -/
theorem decode_append_encodeChar (xs : List UInt8) (c : Char) (ys : List UInt8) :
    decode (xs ++ utf8EncodeChar c ++ ys) = decode xs ++ c :: decode ys := by
  have hall : ∀ q seen, Begins q seen →
      decodeFrom q (xs ++ utf8EncodeChar c ++ ys) = decodeFrom q xs ++ c :: decode ys := by
    induction xs with
    | nil => exact fun q seen h => decodeFrom_encodeChar h c ys
    | cons b xs ih =>
      intro q seen h
      obtain ⟨seen', hseen, -, -⟩ := begins_step h b
      rw [List.cons_append, List.cons_append, decodeFrom, decodeFrom]
      dsimp only
      rw [ih _ _ hseen, List.append_assoc]
  exact hall none [] rfl

/-- **The characters that some bytes are read as**, apart from the replacement character, are those
whose bytes stand next to each other among them. -/
theorem mem_decode_iff (hne : c ≠ replacement) : c ∈ decode bs ↔ utf8EncodeChar c <:+: bs := by
  constructor
  · exact fun hc => infix_of_mem_decodeFrom (show Begins none [] from rfl) hc hne
  · rintro ⟨xs, ys, rfl⟩
    rw [decode_append_encodeChar]
    exact List.mem_append_right _ List.mem_cons_self

end Timephrase.Utf8
