import VectorLint.Text.Utf8

/-!
# Reading back what is written in UTF-8

Every text is read back from its octets, and without a fault. There is one statement for each number
of octets that a character may take: the octets are known by their numbers, and what is asked of a
first, a second and any later octet then is linear arithmetic.
-/

namespace VectorLint.Text.Utf8

/-! ## Octets by their numbers -/

theorem isTail_iff {c : UInt8} : isTail c = true ↔ 0x80 ≤ c.toNat ∧ c.toNat < 0xC0 := by
  simp only [isTail, Bool.and_eq_true, decide_eq_true_eq, UInt8.le_iff_toNat_le,
    UInt8.lt_iff_toNat_lt, UInt8.reduceToNat]

theorem isSecond_iff {b c : UInt8} :
    isSecond b c = true ↔ (0x80 ≤ c.toNat ∧ c.toNat < 0xC0)
      ∧ (b.toNat = 0xE0 → 0xA0 ≤ c.toNat) ∧ (b.toNat = 0xED → c.toNat < 0xA0)
      ∧ (b.toNat = 0xF0 → 0x90 ≤ c.toNat) ∧ (b.toNat = 0xF4 → c.toNat < 0x90) := by
  simp only [isSecond, Bool.and_eq_true, isTail_iff, Bool.or_eq_true, bne_iff_ne, ne_eq,
    decide_eq_true_eq, ← UInt8.toNat_inj, UInt8.le_iff_toNat_le, UInt8.lt_iff_toNat_lt,
    UInt8.reduceToNat]
  omega

theorem continuationCount_eq (b : UInt8) :
    continuationCount b = if b.toNat < 0x80 then some 0 else if b.toNat < 0xC2 then none
      else if b.toNat < 0xE0 then some 1 else if b.toNat < 0xF0 then some 2
      else if b.toNat < 0xF5 then some 3 else none := by
  simp only [continuationCount, UInt8.lt_iff_toNat_lt, UInt8.reduceToNat]

private theorem toNat_ofNat_of_le {n : Nat} (h : n ≤ 0xFF) : (UInt8.ofNat n).toNat = n := by
  rw [UInt8.toNat_ofNat']
  omega

/-! ## One character -/

variable {a b c d : UInt8} {v : Nat} (offset : Nat) (bs : List UInt8)

/-- What is read of some octets with one more character before them. -/
private def behind (v : Nat) (read : List Char × Option Fault) : List Char × Option Fault :=
  (Char.ofNat v :: read.1, read.2)

private theorem decodeFrom_one (ha : a.toNat = v) (hv : v ≤ 0x7F) :
    decodeFrom offset (a :: bs) = behind v (decodeFrom (offset + 1) bs) := by
  have hfirst : a < 0x80 := by
    simp only [UInt8.lt_iff_toNat_lt, UInt8.reduceToNat]
    omega
  generalize hr : decodeFrom (offset + 1) bs = r
  unfold decodeFrom
  simp only [if_pos hfirst, hr, ha]
  rfl

private theorem decodeFrom_two (ha : a.toNat = v / 64 % 32 + 192) (hb : b.toNat = v % 64 + 128)
    (hv : 0x7F < v) (hv' : v ≤ 0x7FF) :
    decodeFrom offset (a :: b :: bs) = behind v (decodeFrom (offset + 2) bs) := by
  have hfirst : ¬ a < 0x80 := by
    simp only [UInt8.lt_iff_toNat_lt, UInt8.reduceToNat]
    omega
  have hcount : continuationCount a = some 1 := by
    rw [continuationCount_eq, ha, if_neg (by omega), if_neg (by omega), if_pos (by omega)]
  have hsecond : isSecond a b = true := by
    rw [isSecond_iff]
    omega
  have hvalue : (a.toNat - 0xC0) * 64 + (b.toNat - 0x80) = v := by omega
  generalize hr : decodeFrom (offset + 2) bs = r
  unfold decodeFrom
  simp only [if_neg hfirst, hcount, hsecond, Bool.not_true, Bool.false_eq_true, if_false,
    Nat.le_refl, if_true, hr]
  rw [← hvalue]
  rfl

private theorem decodeFrom_three (ha : a.toNat = v / 4096 % 16 + 224)
    (hb : b.toNat = v / 64 % 64 + 128) (hc : c.toNat = v % 64 + 128) (hv : 0x7FF < v)
    (hv' : v ≤ 0xFFFF) (hvalid : v.isValidChar) :
    decodeFrom offset (a :: b :: c :: bs) = behind v (decodeFrom (offset + 3) bs) := by
  have hfirst : ¬ a < 0x80 := by
    simp only [UInt8.lt_iff_toNat_lt, UInt8.reduceToNat]
    omega
  have hcount : continuationCount a = some 2 := by
    rw [continuationCount_eq, ha, if_neg (by omega), if_neg (by omega), if_neg (by omega),
      if_pos (by omega)]
  have hsecond : isSecond a b = true := by
    rw [Nat.isValidChar] at hvalid
    rw [isSecond_iff]
    omega
  have htail : isTail c = true := by
    rw [isTail_iff]
    omega
  have hvalue : ((a.toNat - 0xE0) * 64 + (b.toNat - 0x80)) * 64 + (c.toNat - 0x80) = v := by omega
  generalize hr : decodeFrom (offset + 3) bs = r
  unfold decodeFrom
  simp only [if_neg hfirst, hcount, hsecond, htail, Bool.not_true, Bool.false_eq_true, if_false,
    Nat.reduceLeDiff, if_true, hr]
  rw [← hvalue]
  rfl

private theorem decodeFrom_four (ha : a.toNat = v / 262144 % 8 + 240)
    (hb : b.toNat = v / 4096 % 64 + 128) (hc : c.toNat = v / 64 % 64 + 128)
    (hd : d.toNat = v % 64 + 128) (hv : 0xFFFF < v) (hvalid : v.isValidChar) :
    decodeFrom offset (a :: b :: c :: d :: bs) = behind v (decodeFrom (offset + 4) bs) := by
  rw [Nat.isValidChar] at hvalid
  have hfirst : ¬ a < 0x80 := by
    simp only [UInt8.lt_iff_toNat_lt, UInt8.reduceToNat]
    omega
  have hcount : continuationCount a = some 3 := by
    rw [continuationCount_eq, ha, if_neg (by omega), if_neg (by omega), if_neg (by omega),
      if_neg (by omega), if_pos (by omega)]
  have hsecond : isSecond a b = true := by
    rw [isSecond_iff]
    omega
  have htail : isTail c = true := by
    rw [isTail_iff]
    omega
  have htail' : isTail d = true := by
    rw [isTail_iff]
    omega
  have hvalue : (((a.toNat - 0xF0) * 64 + (b.toNat - 0x80)) * 64 + (c.toNat - 0x80)) * 64
      + (d.toNat - 0x80) = v := by omega
  generalize hr : decodeFrom (offset + 4) bs = r
  unfold decodeFrom
  simp only [if_neg hfirst, hcount, hsecond, htail, htail', Bool.not_true, Bool.false_eq_true,
    if_false, Nat.reduceLeDiff, Nat.reduceEqDiff, hr]
  rw [← hvalue]
  rfl

theorem decodeFrom_utf8EncodeChar (ch : Char) :
    decodeFrom offset (String.utf8EncodeChar ch ++ bs)
      = (ch :: (decodeFrom (offset + (String.utf8EncodeChar ch).length) bs).1,
        (decodeFrom (offset + (String.utf8EncodeChar ch).length) bs).2) := by
  have hvalid : ch.val.toNat.isValidChar := ch.valid
  have hch : Char.ofNat ch.val.toNat = ch := Char.ofNat_toNat ch
  rw [String.utf8EncodeChar]
  -- as the octets are written, with a larger first one the more there are
  split
  · refine (decodeFrom_one offset bs (toNat_ofNat_of_le (by omega)) ‹_›).trans ?_
    rw [behind, hch]
    rfl
  · split
    · refine (decodeFrom_two offset bs (toNat_ofNat_of_le (by omega))
        (toNat_ofNat_of_le (by omega)) (by omega) ‹_›).trans ?_
      rw [behind, hch]
      rfl
    · split
      · refine (decodeFrom_three offset bs (toNat_ofNat_of_le (by omega))
          (toNat_ofNat_of_le (by omega)) (toNat_ofNat_of_le (by omega)) (by omega) ‹_›
          hvalid).trans ?_
        rw [behind, hch]
        rfl
      · refine (decodeFrom_four offset bs (toNat_ofNat_of_le (by omega))
          (toNat_ofNat_of_le (by omega)) (toNat_ofNat_of_le (by omega))
          (toNat_ofNat_of_le (by omega)) (by omega) hvalid).trans ?_
        rw [behind, hch]
        rfl

/-! ## Texts -/

private theorem decodeFrom_encode (cs : List Char) :
    decodeFrom offset (encode cs) = (cs, none) := by
  induction cs generalizing offset with
  | nil => rfl
  | cons ch cs ih => rw [encode, List.flatMap_cons, decodeFrom_utf8EncodeChar, ← encode, ih]

/-- A text is read back from its octets. -/
@[simp] theorem decode_encode (cs : List Char) : decode (encode cs) = (cs, none) :=
  decodeFrom_encode 0 cs

theorem encode_injective {cs ds : List Char} (h : encode cs = encode ds) : cs = ds := by
  have hread : (decode (encode cs)).1 = (decode (encode ds)).1 := by rw [h]
  rwa [decode_encode, decode_encode] at hread

theorem eq_ofNat_of_encode_eq_cons {c : Char} {cs : List Char} {b : UInt8} {bs : List UInt8}
    (h : encode (c :: cs) = b :: bs) (hb : b < 0x80) : c = Char.ofNat b.toNat := by
  have hread : (decode (b :: bs)).1 = c :: cs := by rw [← h, decode_encode]
  have hb' : b.toNat ≤ 0x7F := by
    simp only [UInt8.lt_iff_toNat_lt, UInt8.reduceToNat] at hb
    omega
  rw [decode, decodeFrom_one 0 bs rfl hb'] at hread
  exact (List.cons.inj hread).1.symm

end VectorLint.Text.Utf8
