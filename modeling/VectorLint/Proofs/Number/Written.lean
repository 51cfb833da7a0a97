import VectorLint.Number.Written
import VectorLint.Proofs.Number.Shortest
import VectorLint.Proofs.Value.Numeral

/-!
# Numbers are read as they are written

The digits of a number, in place or with an exponent, are a numeral for a decimal in the interval of
the number, so reading them gives the number back. That holds for every number that rounding makes,
and for the three numbers that are written as words.
-/

namespace VectorLint

namespace Json

variable {digits : List Char}

theorem decimalValue_eq (digits : List Char) :
    decimalValue digits = Nat.ofDigitChars 10 digits 0 := by
  simp only [decimalValue, Nat.ofDigitChars, Nat.mul_comm]

theorem decimalValue_toDigits (n : ℕ) : decimalValue (Nat.toDigits 10 n) = n := by
  rw [decimalValue_eq, Nat.ofDigitChars_toDigits (by decide) (by decide)]

theorem decimalValue_zeros_append (zeros : ℕ) (digits : List Char) :
    decimalValue (List.replicate zeros '0' ++ digits) = decimalValue digits := by
  rw [decimalValue_eq, decimalValue_eq, Nat.ofDigitChars_append, Nat.ofDigitChars_replicate_zero,
    Nat.mul_zero]

theorem decimalValue_append_zeros (zeros : ℕ) (digits : List Char) :
    decimalValue (digits ++ List.replicate zeros '0') = 10 ^ zeros * decimalValue digits := by
  rw [decimalValue_eq, decimalValue_eq, Nat.ofDigitChars_append, Nat.ofDigitChars_replicate_zero]

theorem areDigits_toDigits (n : ℕ) : AreDigits (Nat.toDigits 10 n) := fun _ hc ↦
  Nat.isDigit_of_mem_toDigits (by decide) (by decide) hc

theorem areDigits_replicate (zeros : ℕ) : AreDigits (List.replicate zeros '0') := fun _ hc ↦ by
  rw [List.eq_of_mem_replicate hc]
  rfl

theorem AreDigits.append {more : List Char} (h : AreDigits digits) (hmore : AreDigits more) :
    AreDigits (digits ++ more) := fun c hc ↦ (List.mem_append.mp hc).elim (h c) (hmore c)

theorem head?_toDigits {n : ℕ} (h : 0 < n) : (Nat.toDigits 10 n).head? ≠ some '0' := by
  induction n using Nat.strong_induction_on with
  | _ n ih =>
    rw [Nat.toDigits_eq_if (by decide)]
    split
    · rename_i hlt
      have hdigit : ∀ k < 10, 0 < k → [Nat.digitChar k].head? ≠ some '0' := by decide
      exact hdigit n hlt h
    · rw [List.head?_append_of_ne_nil _ Nat.toDigits_ne_nil]
      exact ih (n / 10) (by omega) (by omega)

end Json

open Json

namespace Binary64

/-! ## Decimals as numerals -/

/-- What a decimal stands for. -/
def Decimal.toRat (d : Decimal) : ℚ := decimalValue d.digits * 10 ^ (d.point - d.digits.length)

/-- Whether a decimal has digits of which the first is no zero. -/
structure Decimal.IsNormal (d : Decimal) : Prop where
  ne_nil : d.digits ≠ []
  areDigits : AreDigits d.digits
  head?_ne : d.digits.head? ≠ some '0'

/-- Whether a numeral is one for a fraction and stands for the number `v`. -/
structure Stands (n : Numeral) (v : ℚ) : Prop where
  isValid : n.IsValid
  isFraction : n.fraction ≠ [] ∨ n.exponent ≠ []
  eq : (n.digits : ℚ) * 10 ^ n.scale = v

variable {d : Decimal}

theorem Decimal.IsNormal.exists_before (h : d.IsNormal) (hpoint : d.point ≤ 0) :
    ∃ n : Numeral, n.text false = d.positional ∧ Stands n d.toRat := by
  obtain ⟨hne, hdigits, -⟩ := h
  obtain ⟨k, hk⟩ : ∃ k : ℕ, d.point = -(k : ℤ) := ⟨(-d.point).toNat, by omega⟩
  have hfraction : List.replicate k '0' ++ d.digits ≠ [] := by simp [hne]
  refine ⟨⟨['0'], List.replicate k '0' ++ d.digits, false, []⟩, ?_, ⟨?_, .inl hfraction, ?_⟩⟩
  · simp [Numeral.text, Numeral.fractionText, Numeral.exponentText, Decimal.positional, hne, hk]
  · exact ⟨by simp, areDigits_replicate 1, by simp, (areDigits_replicate k).append hdigits,
      by simp [AreDigits], fun hnil ↦ absurd hnil hfraction⟩
  · have hzeros : ['0'] ++ (List.replicate k '0' ++ d.digits)
        = List.replicate (k + 1) '0' ++ d.digits := rfl
    rw [Numeral.digits, hzeros, decimalValue_zeros_append, Numeral.scale, Decimal.toRat, hk,
      List.length_append, List.length_replicate]
    congr 2
    simp only [Bool.false_eq_true, if_false, decimalValue, List.foldl_nil]
    omega

theorem Decimal.IsNormal.exists_behind (h : d.IsNormal) (hpoint : d.digits.length ≤ d.point.toNat)
    (hpos : 0 < d.point) : ∃ n : Numeral, n.text false = d.positional ∧ Stands n d.toRat := by
  obtain ⟨hne, hdigits, hhead⟩ := h
  obtain ⟨k, hk⟩ := Nat.exists_eq_add_of_le hpoint
  refine ⟨⟨d.digits ++ List.replicate k '0', ['0'], false, []⟩, ?_, ⟨?_, .inl (by simp), ?_⟩⟩
  · simp [Numeral.text, Numeral.fractionText, Numeral.exponentText, Decimal.positional, hpos, hk]
  · refine ⟨by simp [hne], hdigits.append (areDigits_replicate k), fun hzero ↦ ?_,
      areDigits_replicate 1, by simp [AreDigits], by simp⟩
    rw [List.head?_append_of_ne_nil _ hne] at hzero
    exact absurd hzero hhead
  · have hzeros : d.digits ++ List.replicate k '0' ++ ['0']
        = d.digits ++ List.replicate (k + 1) '0' := by
      rw [List.append_assoc, List.replicate_succ']
    have hplace : d.point - d.digits.length = k := by omega
    rw [Numeral.digits, hzeros, decimalValue_append_zeros, Numeral.scale, Decimal.toRat, hplace,
      zpow_natCast]
    simp [decimalValue, pow_succ]
    ring

theorem Decimal.IsNormal.exists_between (h : d.IsNormal) (hpoint : d.point.toNat < d.digits.length)
    (hpos : 0 < d.point) : ∃ n : Numeral, n.text false = d.positional ∧ Stands n d.toRat := by
  obtain ⟨hne, hdigits, hhead⟩ := h
  have hfraction : d.digits.drop d.point.toNat ≠ [] := by simpa using hpoint
  refine ⟨⟨d.digits.take d.point.toNat, d.digits.drop d.point.toNat, false, []⟩, ?_,
    ⟨?_, .inl hfraction, ?_⟩⟩
  · simp [Numeral.text, Numeral.fractionText, Numeral.exponentText, Decimal.positional,
      not_le.mpr hpos, not_le.mpr hpoint]
  · refine ⟨?_, fun c hc ↦ hdigits c (List.mem_of_mem_take hc), fun hzero ↦ ?_,
      fun c hc ↦ hdigits c (List.mem_of_mem_drop hc), by simp [AreDigits],
      fun hnil ↦ absurd hnil hfraction⟩
    · simp [hne]
      omega
    · rw [List.head?_take, if_neg (by omega)] at hzero
      exact absurd hzero hhead
  · rw [Numeral.digits, List.take_append_drop, Numeral.scale, Decimal.toRat, List.length_drop]
    congr 2
    simp only [Bool.false_eq_true, if_false, decimalValue, List.foldl_nil]
    omega

theorem Decimal.IsNormal.exists_scientific (h : d.IsNormal) :
    ∃ n : Numeral, n.text false = d.scientific ∧ Stands n d.toRat := by
  obtain ⟨hne, hdigits, hhead⟩ := h
  obtain ⟨ds, hds⟩ : ∃ ds, ds = Nat.toDigits 10 (d.point - 1).natAbs := ⟨_, rfl⟩
  have hexponent : List.replicate (2 - ds.length) '0' ++ ds ≠ [] := by
    simp [hds, Nat.toDigits_ne_nil]
  refine ⟨⟨d.digits.take 1, d.digits.drop 1, d.point - 1 < 0,
    List.replicate (2 - ds.length) '0' ++ ds⟩, ?_, ⟨?_, .inr hexponent, ?_⟩⟩
  · simp only [Numeral.text, Numeral.fractionText, Numeral.exponentText, Decimal.scientific,
      hexponent, if_false, ← hds]
    simp
  · refine ⟨by simp [hne], fun c hc ↦ hdigits c (List.mem_of_mem_take hc), fun hzero ↦ ?_,
      fun c hc ↦ hdigits c (List.mem_of_mem_drop hc), ?_, fun _ hnil ↦ absurd hnil hexponent⟩
    · rw [List.head?_take, if_neg (by omega)] at hzero
      exact absurd hzero hhead
    · exact (areDigits_replicate _).append (hds ▸ areDigits_toDigits _)
  · rw [Numeral.digits, List.take_append_drop, Numeral.scale, Decimal.toRat, List.length_drop,
      decimalValue_zeros_append, hds, decimalValue_toDigits]
    have hlength : 0 < d.digits.length := List.length_pos_iff.mpr hne
    congr 2
    simp only [decide_eq_true_eq]
    split <;> omega

theorem Decimal.IsNormal.exists_written (h : d.IsNormal) :
    ∃ n : Numeral, n.text false = d.written ∧ Stands n d.toRat := by
  rw [Decimal.written]
  split
  · by_cases hpos : 0 < d.point
    · by_cases hpoint : d.digits.length ≤ d.point.toNat
      · exact h.exists_behind hpoint hpos
      · exact h.exists_between (not_le.mp hpoint) hpos
    · exact h.exists_before (not_lt.mp hpos)
  · exact h.exists_scientific

/-! ## The digits of a number -/

variable {m : ℕ} {e : ℤ}

theorem exists_zeros (digits : List Char) :
    ∃ zeros, digits.rdropWhile (· == '0') ++ List.replicate zeros '0' = digits := by
  refine ⟨(digits.rtakeWhile (· == '0')).length, ?_⟩
  rw [← List.eq_replicate_of_mem fun c hc ↦ by simpa using List.mem_rtakeWhile_imp hc,
    List.rdropWhile_append_rtakeWhile]

theorem isNormal_shortest (hm : IsCanonical m e) (hpos : 0 < m) :
    (shortest m e).IsNormal ∧ Rounds m e (shortest m e).toRat := by
  obtain ⟨j, k, hrounds, heq⟩ := exists_shortest_eq hm hpos
  have hj : 0 < j := by
    by_contra hzero
    have hlt := hrounds.pos hpos
    rw [Nat.eq_zero_of_not_pos hzero] at hlt
    simp at hlt
  have hvalue := decimalValue_toDigits j
  have hdigits := areDigits_toDigits j
  have hhead := head?_toDigits hj
  obtain ⟨zeros, hzeros⟩ := exists_zeros (Nat.toDigits 10 j)
  rw [heq]
  generalize Nat.toDigits 10 j = all at *
  generalize all.rdropWhile (· == '0') = digits at *
  subst hzeros
  rw [decimalValue_append_zeros] at hvalue
  have hne : digits ≠ [] := by
    rintro rfl
    rw [decimalValue, List.foldl_nil, Nat.mul_zero] at hvalue
    omega
  rw [List.head?_append_of_ne_nil _ hne] at hhead
  refine ⟨⟨hne, fun c hc ↦ hdigits c (List.mem_append_left _ hc), hhead⟩, ?_⟩
  have hrat : Decimal.toRat ⟨digits, k + (digits ++ List.replicate zeros '0').length⟩
      = j * 10 ^ k := by
    have hplace : k + ((digits.length + zeros : ℕ) : ℤ) - digits.length = k + zeros := by omega
    rw [Decimal.toRat, ← hvalue, List.length_append, List.length_replicate, hplace,
      zpow_add₀ (by norm_num), zpow_natCast]
    push_cast
    ring
  rwa [hrat]

theorem exists_numeral (hm : IsCanonical m e) (negative : Bool) :
    ∃ n : Numeral, n.IsValid ∧ n.text false = (shortest m e).written
      ∧ n.value negative = .float (.finite negative m e) := by
  rcases Nat.eq_zero_or_pos m with rfl | hpos
  · have he : e = minExponent := hm.le_or_eq.resolve_left (by norm_num)
    rw [he]
    refine ⟨⟨['0'], ['0'], false, []⟩, ?_, rfl, rfl⟩
    exact ⟨by simp, areDigits_replicate 1, fun _ ↦ rfl, areDigits_replicate 1, by simp [AreDigits],
      by simp⟩
  · obtain ⟨hnormal, hrounds⟩ := isNormal_shortest hm hpos
    obtain ⟨n, htext, hn⟩ := hnormal.exists_written
    rw [← hn.eq] at hrounds
    refine ⟨n, hn.isValid, htext, ?_⟩
    rw [Numeral.value, if_neg (not_and_or.mpr hn.isFraction),
      ofDecimal_eq_of_rounds hm hpos hrounds]

/-- **A number is read as it is written**, and what follows it is left. -/
theorem value_written {x : Binary64} (hx : x.IsRounded) {rest : List Char} (hrest : Ends rest)
    (fuel depth : ℕ) :
    Json.value (fuel + 1) depth ((x.written .json).toList ++ rest) = .ok (.float x, rest) := by
  cases x with
  | nan => rfl
  | infinite negative => cases negative <;> rfl
  | finite negative m e =>
    obtain ⟨n, hn, htext, hvalue⟩ := exists_numeral hx negative
    have hwritten : ((finite negative m e).written .json).toList = n.text negative := by
      cases negative <;> simp [written, ← htext, Numeral.text]
    rw [hwritten, Numeral.value_text hn hrest, hvalue]

end Binary64

end VectorLint
