import VectorLint.Markup.Salvage
import VectorLint.Proofs.Markup.Pairs

/-!
# Markup in UTF-16

A text that is written in UTF-16 with a byte order mark is seen as what it is by the check and by
the reading for the tree: both look at the first two octets, and both find the characters that were
written, the check with the mark and the other reading without it. There is one statement for a
character of one unit and one for a pair, and the units are known by their numbers.
-/

namespace VectorLint.Markup

namespace Encoding

/-! ## Writing -/

/-- The octets of a 16-bit number. -/
def octetsOf (isBigEndian : Bool) (n : Nat) : List UInt8 :=
  let high := UInt8.ofNat (n / 256)
  let low := UInt8.ofNat (n % 256)
  if isBigEndian then [high, low] else [low, high]

/-- The octets of a character in UTF-16. -/
def encodeChar16 (isBigEndian : Bool) (c : Char) : List UInt8 :=
  if c.toNat < 0x10000 then octetsOf isBigEndian c.toNat
  else
    let n := c.toNat - 0x10000
    octetsOf isBigEndian (0xD800 + n / 0x400) ++ octetsOf isBigEndian (0xDC00 + n % 0x400)

/-- The octets of a text in UTF-16. -/
def encodeUtf16 (isBigEndian : Bool) (cs : List Char) : List UInt8 :=
  cs.flatMap (encodeChar16 isBigEndian)

/-! ## Reading what was written -/

variable (isStrict isBigEndian : Bool)

theorem exists_octetsOf_eq {n : Nat} (hn : n < 0x10000) :
    ∃ a b, octetsOf isBigEndian n = [a, b] ∧ unit isBigEndian a b = n := by
  have hbyte {m : Nat} (hm : m < 256) : (UInt8.ofNat m).toNat = m := by
    rw [UInt8.toNat_ofNat']
    omega
  cases isBigEndian with
  | true =>
    refine ⟨_, _, rfl, ?_⟩
    rw [unit, if_pos rfl, hbyte (by omega), hbyte (by omega)]
    omega
  | false =>
    refine ⟨_, _, rfl, ?_⟩
    rw [unit, if_neg Bool.false_ne_true, hbyte (by omega), hbyte (by omega)]
    omega

theorem decodeUtf16_encodeChar16 (c : Char) (bs : List UInt8) :
    decodeUtf16 isStrict isBigEndian (encodeChar16 isBigEndian c ++ bs)
      = { decodeUtf16 isStrict isBigEndian bs with
          chars := c :: (decodeUtf16 isStrict isBigEndian bs).chars } := by
  have hvalid : c.toNat.isValidChar := c.valid
  rw [Nat.isValidChar] at hvalid
  by_cases hsmall : c.toNat < 0x10000
  · obtain ⟨a, b, hoctets, hunit⟩ := exists_octetsOf_eq isBigEndian hsmall
    have hplain : (decide (c.toNat < 0xD800) || decide (0xE000 ≤ c.toNat)) = true := by
      simp only [Bool.or_eq_true, decide_eq_true_eq]
      omega
    rw [encodeChar16, if_pos hsmall, hoctets, List.cons_append, List.cons_append, List.nil_append,
      decodeUtf16.eq_def]
    simp only [hunit, hplain, if_true, Char.ofNat_toNat]
  · obtain ⟨a, b, hoctets, hhigh⟩ := exists_octetsOf_eq isBigEndian
      (n := 0xD800 + (c.toNat - 0x10000) / 0x400) (by omega)
    obtain ⟨a', b', hoctets', hlow⟩ := exists_octetsOf_eq isBigEndian
      (n := 0xDC00 + (c.toNat - 0x10000) % 0x400) (by omega)
    have hfirst : (decide (0xD800 + (c.toNat - 0x10000) / 0x400 < 0xD800)
        || decide (0xE000 ≤ 0xD800 + (c.toNat - 0x10000) / 0x400)) = false := by
      simp only [Bool.or_eq_false_iff, decide_eq_false_iff_not]
      omega
    have hlead : 0xD800 + (c.toNat - 0x10000) / 0x400 < 0xDC00 := by omega
    have hsecond : (isStrict && (decide (0xDC00 + (c.toNat - 0x10000) % 0x400 < 0xDC00)
        || decide (0xE000 ≤ 0xDC00 + (c.toNat - 0x10000) % 0x400))) = false := by
      simp only [Bool.and_eq_false_iff, Bool.or_eq_false_iff, decide_eq_false_iff_not]
      omega
    have hvalue : 0x10000 + (0xD800 + (c.toNat - 0x10000) / 0x400 - 0xD800) * 0x400
        + (0xDC00 + (c.toNat - 0x10000) % 0x400) % 0x400 = c.toNat := by omega
    rw [encodeChar16, if_neg hsmall]
    simp only [hoctets, hoctets', List.cons_append, List.nil_append]
    rw [decodeUtf16.eq_def]
    simp only [hhigh, hfirst, hlead, hlow, hsecond, hvalue, Bool.false_eq_true, if_false, if_true,
      Char.ofNat_toNat]

theorem decodeUtf16_encodeUtf16 (cs : List Char) :
    decodeUtf16 isStrict isBigEndian (encodeUtf16 isBigEndian cs) = ⟨cs, .complete⟩ := by
  induction cs with
  | nil => rw [encodeUtf16, List.flatMap_nil, decodeUtf16]
  | cons c cs ih =>
    rw [encodeUtf16, List.flatMap_cons, decodeUtf16_encodeChar16, ← encodeUtf16, ih]

theorem encodeUtf16_mark (cs : List Char) : encodeUtf16 isBigEndian ('\ufeff' :: cs)
    = (if isBigEndian then [0xFE, 0xFF] else [0xFF, 0xFE]) ++ encodeUtf16 isBigEndian cs := by
  cases isBigEndian <;> rfl

end Encoding

namespace Source

/-- A text in UTF-16 with a byte order mark. -/
def utf16 (isBigEndian : Bool) (cs : List Char) : Source :=
  .octets (Encoding.encodeUtf16 isBigEndian ('\ufeff' :: unmarked cs))

variable (isBigEndian : Bool) (cs : List Char)

theorem seen_utf16 :
    (utf16 isBigEndian cs).seen = ⟨⟨0, []⟩, '\ufeff' :: unmarked cs, .pairs, .complete⟩ := by
  have hdecode := Encoding.decodeUtf16_encodeUtf16 false isBigEndian ('\ufeff' :: unmarked cs)
  rw [Encoding.encodeUtf16_mark] at hdecode
  rw [utf16, seen, toOctets, Encoding.encodeUtf16_mark]
  -- two octets are enough to decide, and they are those of a mark
  have hundecided {a b : UInt8} (hb : b ≠ 0xBB) (bs : List UInt8) :
      Encoding.isUndecided (a :: b :: bs) = false := by
    simp [Encoding.isUndecided, hb]
  cases isBigEndian with
  | true =>
    simp only [if_true, List.cons_append, List.nil_append] at hdecode ⊢
    rw [hundecided (by decide), if_neg Bool.false_ne_true]
    simp only [Encoding.ofOctets, Encoding.decode, hdecode, Encoding.writing]
  | false =>
    simp only [if_false, List.cons_append, List.nil_append, Bool.false_eq_true] at hdecode ⊢
    rw [hundecided (by decide), if_neg Bool.false_ne_true]
    simp only [Encoding.ofOctets, Encoding.decode, hdecode, Encoding.writing]

/-- The tree is built from the characters alone. -/
theorem events_utf16 : (utf16 isBigEndian cs).events = (readPart (unmarked cs)).1 := by
  have hdecode := Encoding.decodeUtf16_encodeUtf16 true isBigEndian (unmarked cs)
  have hsalvage : Encoding.salvageUtf16 isBigEndian
      (Encoding.encodeUtf16 isBigEndian (unmarked cs)) = unmarked cs := by
    simp only [Encoding.salvageUtf16, hdecode, if_true]
  rw [utf16, Encoding.encodeUtf16_mark]
  cases isBigEndian with
  | true => exact congrArg (fun cs ↦ (readPart cs).1) hsalvage
  | false => exact congrArg (fun cs ↦ (readPart cs).1) hsalvage

end Source

/-! ## The declaration -/

namespace Declaration

theorem said_ofText?_mark {cs : List Char} (hcs : ∀ rest, cs ≠ '\ufeff' :: rest) :
    (ofText? ('\ufeff' :: cs)).map said = (ofText? cs).map said := by
  unfold ofText?
  simp only
  split
  · split
    · rfl
    · rename_i body _
      cases upToEnd body with
      | none => rfl
      | some text => exact said_read _ _ text
  · rfl

theorem encoding_ofText?_mark {cs : List Char} (h : (ofText? cs).bind (·.encoding) = none) :
    (ofText? ('\ufeff' :: unmarked cs)).bind (·.encoding) = none := by
  by_cases hmark : ∃ rest, cs = '\ufeff' :: rest
  · obtain ⟨rest, rfl⟩ := hmark
    exact h
  · rw [not_exists] at hmark
    have hsaid := said_ofText?_mark hmark
    rw [unmarked_eq_self hmark]
    cases hcs : ofText? cs with
    | none =>
      rw [hcs] at hsaid
      rw [Option.map_eq_none_iff.mp hsaid]
      rfl
    | some d =>
      rw [hcs] at h hsaid
      obtain ⟨d', hd', heq⟩ := Option.map_eq_some_iff.mp hsaid
      have hnone : d'.encoding.map (·.1) = none := by
        rw [show d'.encoding.map (·.1) = d.encoding.map (·.1) from congrArg Prod.fst heq]
        exact Option.map_eq_none_iff.mpr h
      rw [hd']
      exact Option.map_eq_none_iff.mp hnone

end Declaration

/-- The check reads the characters of a text in which no encoding is declared as they are. -/
theorem Source.forCheck_utf16 (isBigEndian : Bool) {cs : List Char}
    (h : (Declaration.ofText? cs).bind (·.encoding) = none) : (utf16 isBigEndian cs).forCheck
      = .ok ⟨⟨0, []⟩, '\ufeff' :: unmarked cs, .pairs, .complete⟩ := by
  have hseen := seen_utf16 isBigEndian cs
  rw [utf16] at hseen ⊢
  simp only [forCheck, hseen, Declaration.encoding_ofText?_mark h]

end VectorLint.Markup
