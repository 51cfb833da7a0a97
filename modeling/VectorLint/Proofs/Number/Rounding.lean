import Mathlib.Algebra.Order.Field.Power
import Mathlib.Data.Nat.Log
import Mathlib.Data.Rat.Cast.Order
import Mathlib.Tactic.FieldSimp
import Mathlib.Tactic.Linarith
import Mathlib.Tactic.NormNum
import Mathlib.Tactic.Positivity
import Mathlib.Tactic.Ring
import VectorLint.Number.Binary64

/-!
# Rounding

A quotient is rounded to the number of double precision next to it, a tie going to the even
significand. Seen from a number of double precision, the quotients that round to it are an interval
around it (`Rounds`), which reaches half a unit up and down; below a power of two the numbers are
twice as dense, and it reaches down only half as far.

The exponent of a quotient is that which leaves it 53 binary digits, and the interval of a number is
so small that all quotients in it have the exponent of the number, but for those below a power of
two. These are rounded up to that power.
-/

namespace VectorLint.Binary64

/-! ## Quotients of whole numbers -/

section

variable {num den : ℕ}

theorem div_add_mod_cast (num den : ℕ) :
    (num : ℚ) = den * (num / den : ℕ) + (num % den : ℕ) := by
  exact_mod_cast (Nat.div_add_mod num den).symm

theorem roundDiv_eq_of_mul_le (hden : 0 < den) {q : ℕ} (hlow : 2 * q * den ≤ 2 * num + den)
    (hhigh : 2 * num ≤ 2 * q * den + den)
    (hodd : q % 2 = 1 → 2 * q * den < 2 * num + den ∧ 2 * num < 2 * q * den + den) :
    roundDiv num den = q := by
  have hsplit := Nat.div_add_mod num den
  have hlt := Nat.mod_lt num hden
  rw [roundDiv]
  generalize num / den = Q at hsplit ⊢
  generalize num % den = R at hsplit hlt ⊢
  subst hsplit
  -- the whole number is the floor of the quotient or the one above it
  have hle : q ≤ Q + 1 := by
    by_contra h
    have hmul : (Q + 2) * den ≤ q * den := Nat.mul_le_mul_right den (by omega)
    nlinarith
  have hge : Q ≤ q := by
    by_contra h
    have hmul : (q + 1) * den ≤ Q * den := Nat.mul_le_mul_right den (by omega)
    nlinarith
  have hcases : q = Q ∨ q = Q + 1 := by omega
  rcases hcases with rfl | rfl
  · have hsmall : 2 * R ≤ den := by nlinarith
    have hstrict : q % 2 = 1 → 2 * R < den := fun h ↦ by nlinarith [(hodd h).2]
    rw [if_neg]
    simp only [Bool.or_eq_true, decide_eq_true_eq, Bool.and_eq_true, beq_iff_eq]
    omega
  · have hlarge : den ≤ 2 * R := by nlinarith
    have hstrict : (Q + 1) % 2 = 1 → den < 2 * R := fun h ↦ by nlinarith [(hodd h).1]
    rw [if_pos]
    simp only [Bool.or_eq_true, decide_eq_true_eq, Bool.and_eq_true, beq_iff_eq]
    omega

theorem roundDiv_eq_of_near (hden : 0 < den) {q : ℕ} (hlow : (q : ℚ) - 1 / 2 ≤ num / den)
    (hhigh : (num : ℚ) / den ≤ q + 1 / 2)
    (hodd : q % 2 = 1 → (q : ℚ) - 1 / 2 < num / den ∧ (num : ℚ) / den < q + 1 / 2) :
    roundDiv num den = q := by
  have hden' : (0 : ℚ) < den := by exact_mod_cast hden
  rw [le_div_iff₀ hden'] at hlow
  rw [div_le_iff₀ hden'] at hhigh
  rw [lt_div_iff₀ hden', div_lt_iff₀ hden'] at hodd
  refine roundDiv_eq_of_mul_le hden ?_ ?_ fun h ↦ ⟨?_, ?_⟩
  · have hle : (2 * q * den : ℚ) ≤ 2 * num + den := by linarith
    exact_mod_cast hle
  · have hle : (2 * num : ℚ) ≤ 2 * q * den + den := by linarith
    exact_mod_cast hle
  · have hlt : (2 * q * den : ℚ) < 2 * num + den := by linarith [(hodd h).1]
    exact_mod_cast hlt
  · have hlt : (2 * num : ℚ) < 2 * q * den + den := by linarith [(hodd h).2]
    exact_mod_cast hlt

theorem le_roundDiv (hden : 0 < den) {n : ℕ} (h : (n : ℚ) ≤ num / den) : n ≤ roundDiv num den := by
  have hn : n ≤ num / den := by
    rw [Nat.le_div_iff_mul_le hden]
    rw [le_div_iff₀ (by exact_mod_cast hden)] at h
    exact_mod_cast h
  rw [roundDiv]
  split <;> omega

theorem roundDiv_le (hden : 0 < den) {n : ℕ} (h : (num : ℚ) / den < n) : roundDiv num den ≤ n := by
  have hn : num / den < n := by
    rw [Nat.div_lt_iff_lt_mul hden]
    rw [div_lt_iff₀ (by exact_mod_cast hden)] at h
    exact_mod_cast h
  rw [roundDiv]
  split <;> omega

/-- A quotient in multiples of `2 ^ e`, as a quotient of whole numbers. -/
def ratioAt (num den : ℕ) (e : ℤ) : ℕ × ℕ :=
  if 0 ≤ e then (num, den * 2 ^ e.toNat) else (num * 2 ^ (-e).toNat, den)

theorem zpow_toNat {a : ℚ} {e : ℤ} (he : 0 ≤ e) : a ^ e.toNat = a ^ e := by
  rw [← zpow_natCast, Int.toNat_of_nonneg he]

theorem ratioAt_spec (num : ℕ) (hden : 0 < den) (e : ℤ) : 0 < (ratioAt num den e).2
    ∧ ((ratioAt num den e).1 : ℚ) / (ratioAt num den e).2 = num / den / 2 ^ e := by
  rw [ratioAt]
  split
  · rename_i he
    refine ⟨by positivity, ?_⟩
    push_cast
    rw [zpow_toNat he, div_div]
  · rename_i he
    refine ⟨hden, ?_⟩
    push_cast
    rw [zpow_toNat (by omega), zpow_neg]
    field_simp

theorem significandAt_eq (num den : ℕ) (e : ℤ) :
    significandAt num den e = roundDiv (ratioAt num den e).1 (ratioAt num den e).2 := by
  rw [significandAt, ratioAt]
  split <;> rfl

theorem significandFloor_eq (num den : ℕ) (e : ℤ) :
    exponentFor.significandFloor num den e = (ratioAt num den e).1 / (ratioAt num den e).2 := by
  rw [exponentFor.significandFloor, ratioAt]
  split <;> rfl

theorem two_zpow_pos (e : ℤ) : (0 : ℚ) < 2 ^ e := zpow_pos (by norm_num) e

theorem significandFloor_lt_iff (num : ℕ) (hden : 0 < den) (e : ℤ) :
    exponentFor.significandFloor num den e < 2 ^ 53 ↔ (num : ℚ) / den < 2 ^ (e + 53) := by
  obtain ⟨hpos, heq⟩ := ratioAt_spec num hden e
  have hscaled : (num : ℚ) / den < 2 ^ (e + 53) ↔ (num : ℚ) / den / 2 ^ e < (2 ^ 53 : ℕ) := by
    rw [div_lt_iff₀ (two_zpow_pos e), zpow_add₀ (by norm_num), mul_comm (2 ^ e : ℚ)]
    norm_cast
  rw [hscaled, ← heq, significandFloor_eq, Nat.div_lt_iff_lt_mul hpos,
    div_lt_iff₀ (by exact_mod_cast hpos)]
  exact_mod_cast Iff.rfl

theorem zpow_log2_le {n : ℕ} (hn : 0 < n) : (2 : ℚ) ^ (n.log2 : ℤ) ≤ n := by
  rw [zpow_natCast]
  exact_mod_cast Nat.log2_self_le hn.ne'

theorem lt_zpow_log2 (n : ℕ) : (n : ℚ) < 2 ^ ((n.log2 : ℤ) + 1) := by
  have h : n < 2 ^ (n.log2 + 1) := Nat.lt_log2_self
  exact_mod_cast h

theorem zpow_le_ratio (hnum : 0 < num) (hden : 0 < den) {k : ℤ}
    (hk : k = (num.log2 : ℤ) - den.log2) :
    (2 : ℚ) ^ (k - 1) ≤ num / den ∧ (num : ℚ) / den < 2 ^ (k + 1) := by
  have hden' : (0 : ℚ) < den := by exact_mod_cast hden
  constructor
  · rw [le_div_iff₀ hden']
    calc (2 : ℚ) ^ (k - 1) * den ≤ 2 ^ (k - 1) * 2 ^ ((den.log2 : ℤ) + 1) := by
          gcongr
          exact (lt_zpow_log2 den).le
      _ = 2 ^ (num.log2 : ℤ) := by
          rw [← zpow_add₀ (by norm_num)]
          congr 1
          omega
      _ ≤ num := zpow_log2_le hnum
  · rw [div_lt_iff₀ hden']
    calc (num : ℚ) < 2 ^ ((num.log2 : ℤ) + 1) := lt_zpow_log2 num
      _ = 2 ^ (k + 1) * 2 ^ (den.log2 : ℤ) := by
          rw [← zpow_add₀ (by norm_num)]
          congr 1
          omega
      _ ≤ 2 ^ (k + 1) * den := by
          gcongr
          exact zpow_log2_le hden

theorem exists_exponentFor_eq (hnum : 0 < num) (hden : 0 < den) :
    ∃ e : ℤ, exponentFor num den = max e minExponent ∧ (2 : ℚ) ^ (e + 52) ≤ num / den
      ∧ (num : ℚ) / den < 2 ^ (e + 53) := by
  obtain ⟨k, hk⟩ : ∃ k : ℤ, k = (num.log2 : ℤ) - den.log2 := ⟨_, rfl⟩
  obtain ⟨hlow, hhigh⟩ := zpow_le_ratio hnum hden hk
  have heq : exponentFor num den
      = max (if exponentFor.significandFloor num den (k - 53) < 2 ^ 53 then k - 53 else k - 53 + 1)
        minExponent := by
    rw [hk]
    rfl
  rw [heq]
  split
  · rename_i h
    refine ⟨k - 53, rfl, ?_, (significandFloor_lt_iff num hden (k - 53)).mp h⟩
    rwa [show k - 53 + 52 = k - 1 by omega]
  · rename_i h
    refine ⟨k - 53 + 1, rfl, ?_, ?_⟩
    · have hge := not_lt.mp (mt (significandFloor_lt_iff num hden (k - 53)).mpr h)
      rwa [show k - 53 + 1 + 52 = k - 53 + 53 by omega]
    · rwa [show k - 53 + 1 + 53 = k + 1 by omega]

end

/-! ## Numbers and their intervals -/

/-- Whether a significand and an exponent are as rounding makes them. -/
structure IsCanonical (m : ℕ) (e : ℤ) : Prop where
  lt_pow : m < 2 ^ 53
  min_le : minExponent ≤ e
  le_max : e ≤ maxExponent
  le_or_eq : 2 ^ 52 ≤ m ∨ e = minExponent

/-- Whether a number is as rounding makes it. -/
def IsRounded : Binary64 → Prop
  | finite _ m e => IsCanonical m e
  | _ => True

/-- How far the interval of a number reaches down, in its units. -/
def reach (m : ℕ) (e : ℤ) : ℚ := if m = 2 ^ 52 ∧ minExponent < e then 1 / 4 else 1 / 2

/-- Whether a quotient rounds to `m * 2 ^ e`. The ends of the interval do if `m` is even. -/
structure Rounds (m : ℕ) (e : ℤ) (v : ℚ) : Prop where
  low_le : (m - reach m e) * 2 ^ e ≤ v
  le_high : v ≤ (m + 1 / 2) * 2 ^ e
  lt_of_odd : m % 2 = 1 → (m - reach m e) * 2 ^ e < v ∧ v < (m + 1 / 2) * 2 ^ e

theorem reach_le (m : ℕ) (e : ℤ) : reach m e ≤ 1 / 2 := by
  rw [reach]
  split <;> norm_num

variable {m : ℕ} {e : ℤ} {v : ℚ}

theorem Rounds.half_le (h : Rounds m e v) (hm : 0 < m) : 1 / 2 * 2 ^ e ≤ v := by
  have hone : (1 : ℚ) ≤ m := by exact_mod_cast hm
  refine le_trans ?_ h.low_le
  gcongr
  linarith [reach_le m e]

theorem Rounds.pos (h : Rounds m e v) (hm : 0 < m) : 0 < v :=
  lt_of_lt_of_le (by have := two_zpow_pos e; positivity) (h.half_le hm)

theorem Rounds.lt_zpow (h : Rounds m e v) (hm : IsCanonical m e) : v < 2 ^ (e + 53) := by
  have hlt : (m : ℚ) + 1 ≤ 2 ^ 53 := by exact_mod_cast hm.lt_pow
  calc v ≤ (m + 1 / 2) * 2 ^ e := h.le_high
    _ < 2 ^ 53 * 2 ^ e := by
        have := two_zpow_pos e
        gcongr
        linarith
    _ = 2 ^ (e + 53) := by
        rw [zpow_add₀ (by norm_num), mul_comm]
        norm_cast

section

variable {num den : ℕ}

theorem Rounds.significandAt_eq (hden : 0 < den) (h : Rounds m e (num / den)) :
    significandAt num den e = m := by
  obtain ⟨hpos, heq⟩ := ratioAt_spec num hden e
  have htwo := two_zpow_pos e
  rw [Binary64.significandAt_eq]
  refine roundDiv_eq_of_near hpos ?_ ?_ fun hodd ↦ ?_
  · rw [heq, le_div_iff₀ htwo]
    refine le_trans ?_ h.low_le
    gcongr
    exact reach_le m e
  · rw [heq, div_le_iff₀ htwo]
    exact h.le_high
  · rw [heq, lt_div_iff₀ htwo, div_lt_iff₀ htwo]
    refine ⟨lt_of_le_of_lt ?_ (h.lt_of_odd hodd).1, (h.lt_of_odd hodd).2⟩
    gcongr
    exact reach_le m e

theorem Rounds.of_exponent_lt (hm : IsCanonical m e) (hden : 0 < den) (h : Rounds m e (num / den))
    {e' : ℤ} (hmin : minExponent ≤ e') (hlt : e' < e) (hv : (num : ℚ) / den < 2 ^ (e' + 53)) :
    m = 2 ^ 52 ∧ e' = e - 1 ∧ significandAt num den e' = 2 ^ 53 := by
  have htwo := two_zpow_pos e
  have hpow {k : ℤ} (hk : e' + 53 ≤ e + k) : (num : ℚ) / den < 2 ^ k * 2 ^ e := by
    refine lt_of_lt_of_le hv ?_
    rw [← zpow_add₀ (by norm_num), add_comm k e]
    exact zpow_le_zpow_right₀ (by norm_num) hk
  have hlarge : 2 ^ 52 ≤ m := hm.le_or_eq.resolve_right (by omega)
  have hlarge' : (2 ^ 52 : ℚ) ≤ m := by exact_mod_cast hlarge
  have hsmall : (num : ℚ) / den < 2 ^ 52 * 2 ^ e := hpow (k := 52) (by omega)
  have hpower : m = 2 ^ 52 := by
    by_contra hne
    have hnext : (2 ^ 52 + 1 : ℚ) ≤ m := by exact_mod_cast Nat.lt_of_le_of_ne hlarge (Ne.symm hne)
    have hle : 2 ^ 52 * 2 ^ e ≤ (num : ℚ) / den := by
      refine le_trans ?_ h.low_le
      gcongr
      linarith [reach_le m e]
    linarith
  have hreach : reach m e = 1 / 4 := if_pos ⟨hpower, by omega⟩
  have hlow : (2 ^ 52 - 1 / 4) * 2 ^ e ≤ (num : ℚ) / den := by
    have hle := h.low_le
    rwa [hreach, hpower, Nat.cast_pow, Nat.cast_ofNat] at hle
  have hnext : e' = e - 1 := by
    by_contra hne
    have hlt : (num : ℚ) / den < 2 ^ 51 * 2 ^ e := hpow (k := 51) (by omega)
    nlinarith
  refine ⟨hpower, hnext, ?_⟩
  obtain ⟨hpos, heq⟩ := ratioAt_spec num hden e'
  have hhalf : (2 : ℚ) ^ e = 2 * 2 ^ e' := by
    rw [hnext, zpow_sub_one₀ (by norm_num)]
    ring
  have htwo' := two_zpow_pos e'
  rw [hhalf] at hlow hsmall
  rw [Binary64.significandAt_eq]
  refine roundDiv_eq_of_near hpos ?_ ?_ fun hodd ↦ ?_
  · rw [heq, le_div_iff₀ htwo']
    push_cast
    linarith
  · rw [heq, div_le_iff₀ htwo']
    push_cast
    linarith
  · norm_num at hodd

/-- **Every quotient in the interval of a number is rounded to it.** -/
theorem ofRatio_eq_of_rounds (hm : IsCanonical m e) (hnum : 0 < num) (hden : 0 < den)
    (h : Rounds m e (num / den)) (negative : Bool) :
    ofRatio negative num den = .finite negative m e := by
  obtain ⟨E, hE, hlow, hhigh⟩ := exists_exponentFor_eq hnum hden
  have hmin := hm.min_le
  have hle : exponentFor num den ≤ e := by
    rw [hE]
    refine max_le ?_ hmin
    have hpow : (2 : ℚ) ^ (E + 52) < 2 ^ (e + 53) := lt_of_le_of_lt hlow (h.lt_zpow hm)
    have := (zpow_lt_zpow_iff_right₀ (by norm_num : (1 : ℚ) < 2)).mp hpow
    omega
  have hzero : (num = 0 || den = 0) = false := by
    simp only [Bool.or_eq_false_iff, decide_eq_false_iff_not]
    omega
  have hmax : ¬ e > maxExponent := not_lt.mpr hm.le_max
  rw [ofRatio, hzero, if_neg Bool.false_ne_true]
  rcases hle.lt_or_eq with hlt | heq
  · have hv : (num : ℚ) / den < 2 ^ (exponentFor num den + 53) := by
      refine lt_of_lt_of_le hhigh (zpow_le_zpow_right₀ (by norm_num) ?_)
      rw [hE]
      have := le_max_left E minExponent
      omega
    obtain ⟨rfl, hnext, hrounded⟩ := Rounds.of_exponent_lt hm hden h
      (hE ▸ le_max_right E minExponent) hlt hv
    have hsum : exponentFor num den + 1 = e := by omega
    simp only [hrounded, Nat.pow_eq, if_true, hsum, hmax, if_false]
  · have hrounded := Rounds.significandAt_eq hden h
    have hne : m ≠ 2 ^ 53 := hm.lt_pow.ne
    simp only [heq, hrounded, Nat.pow_eq, hne, if_false, hmax]

theorem isRounded_ofRatio (negative : Bool) (num den : ℕ) :
    (ofRatio negative num den).IsRounded := by
  rw [ofRatio]
  split
  · exact ⟨by norm_num, le_refl _, by decide, .inr rfl⟩
  · rename_i hzero
    simp only [Bool.or_eq_true, decide_eq_true_eq, not_or] at hzero
    have hden : 0 < den := Nat.pos_of_ne_zero hzero.2
    obtain ⟨E, hE, hlow, hhigh⟩ := exists_exponentFor_eq (Nat.pos_of_ne_zero hzero.1) hden
    obtain ⟨hpos, heq⟩ := ratioAt_spec num hden (exponentFor num den)
    have htwo := two_zpow_pos (exponentFor num den)
    have hle : significandAt num den (exponentFor num den) ≤ 2 ^ 53 := by
      rw [significandAt_eq]
      refine roundDiv_le hpos ?_
      rw [heq, div_lt_iff₀ htwo]
      refine lt_of_lt_of_le hhigh ?_
      rw [Nat.cast_pow, Nat.cast_ofNat, ← zpow_natCast, ← zpow_add₀ (by norm_num)]
      refine zpow_le_zpow_right₀ (by norm_num) ?_
      have := le_max_left E minExponent
      rw [hE]
      omega
    have hge : 2 ^ 52 ≤ significandAt num den (exponentFor num den)
        ∨ exponentFor num den = minExponent := by
      refine (le_total minExponent E).imp (fun hmin ↦ ?_) fun hmin ↦ hE.trans (max_eq_right hmin)
      rw [max_eq_left hmin] at hE
      rw [significandAt_eq]
      refine le_roundDiv hpos ?_
      rw [heq, le_div_iff₀ htwo, hE]
      refine le_trans (le_of_eq ?_) hlow
      rw [Nat.cast_pow, Nat.cast_ofNat, ← zpow_natCast, ← zpow_add₀ (by norm_num)]
      congr 1
      omega
    have hmin : minExponent ≤ exponentFor num den := hE ▸ le_max_right E minExponent
    simp only [Nat.pow_eq]
    by_cases hfull : significandAt num den (exponentFor num den) = 2 ^ 53
    · simp only [hfull, if_true]
      split
      · trivial
      · rename_i hmax
        exact ⟨by norm_num, by omega, by omega, .inl (le_refl _)⟩
    · simp only [hfull, if_false]
      split
      · trivial
      · rename_i hmax
        exact ⟨Nat.lt_of_le_of_ne hle hfull, hmin, by omega, hge⟩

end

/-! ## Decimals -/

theorem two_zpow_lt_ten_zpow : (2 : ℚ) ^ (1120 : ℤ) < 10 ^ (400 : ℤ) := by
  have hpow : ((2 : ℚ) ^ 140) ^ 8 < (10 ^ 50) ^ 8 :=
    pow_lt_pow_left₀ (by norm_num) (by norm_num) (by norm_num)
  rw [← pow_mul, ← pow_mul] at hpow
  rw [zpow_ofNat, zpow_ofNat]
  exact hpow

variable {digits : ℕ} {exponent : ℤ}

theorem digits_lt_pow (digits : ℕ) : digits < 10 ^ (Nat.toDigits 10 digits).length :=
  (Nat.length_toDigits_le_iff (by decide) Nat.length_toDigits_pos).mp (le_refl _)

theorem pow_le_digits (h : 0 < digits) : 10 ^ ((Nat.toDigits 10 digits).length - 1) ≤ digits := by
  rcases Nat.eq_zero_or_pos ((Nat.toDigits 10 digits).length - 1) with hzero | hpos
  · rw [hzero]
    exact h
  · by_contra hlt
    have hle := (Nat.length_toDigits_le_iff (by decide) hpos).mpr (not_le.mp hlt)
    omega

theorem Rounds.magnitude_le (hm : IsCanonical m e) (h : Rounds m e (digits * 10 ^ exponent))
    (hdigits : 0 < digits) : ((Nat.toDigits 10 digits).length : ℤ) + exponent ≤ 400 := by
  by_contra hlt
  have hpow : (10 : ℚ) ^ (400 : ℤ) < 2 ^ (1120 : ℤ) := by
    calc (10 : ℚ) ^ (400 : ℤ)
        ≤ 10 ^ ((((Nat.toDigits 10 digits).length - 1 : ℕ) : ℤ) + exponent) := by
          refine zpow_le_zpow_right₀ (by norm_num) ?_
          omega
      _ ≤ digits * 10 ^ exponent := by
          rw [zpow_add₀ (by norm_num), zpow_natCast]
          gcongr
          exact_mod_cast pow_le_digits hdigits
      _ < 2 ^ (e + 53) := h.lt_zpow hm
      _ ≤ 2 ^ (1120 : ℤ) := by
          refine zpow_le_zpow_right₀ (by norm_num) ?_
          have hmax : e ≤ 971 := hm.le_max
          omega
  exact lt_asymm hpow two_zpow_lt_ten_zpow

theorem Rounds.le_magnitude (hm : IsCanonical m e) (hpos : 0 < m)
    (h : Rounds m e (digits * 10 ^ exponent)) :
    -400 ≤ ((Nat.toDigits 10 digits).length : ℤ) + exponent := by
  by_contra hlt
  have hpow : (2 : ℚ) ^ (-1120 : ℤ) < 10 ^ (-400 : ℤ) := by
    calc (2 : ℚ) ^ (-1120 : ℤ) ≤ 2 ^ (e - 1) := by
          refine zpow_le_zpow_right₀ (by norm_num) ?_
          have hmin : -1074 ≤ e := hm.min_le
          omega
      _ = 1 / 2 * 2 ^ e := by
          rw [zpow_sub_one₀ (by norm_num)]
          ring
      _ ≤ digits * 10 ^ exponent := h.half_le hpos
      _ < 10 ^ (((Nat.toDigits 10 digits).length : ℤ) + exponent) := by
          rw [zpow_add₀ (by norm_num), zpow_natCast]
          gcongr
          exact_mod_cast digits_lt_pow digits
      _ ≤ 10 ^ (-400 : ℤ) := by
          refine zpow_le_zpow_right₀ (by norm_num) ?_
          omega
  rw [zpow_neg, zpow_neg] at hpow
  exact lt_asymm hpow (inv_strictAnti₀ (two_zpow_pos 1120) two_zpow_lt_ten_zpow)

/-- **Every decimal in the interval of a number is read as it.** -/
theorem ofDecimal_eq_of_rounds (hm : IsCanonical m e) (hpos : 0 < m)
    (h : Rounds m e (digits * 10 ^ exponent)) (negative : Bool) :
    ofDecimal negative digits exponent = .finite negative m e := by
  have hdigits : 0 < digits := by
    by_contra hzero
    have hlt := h.pos hpos
    rw [Nat.eq_zero_of_not_pos hzero] at hlt
    simp at hlt
  have hle := h.magnitude_le hm hdigits
  have hge := h.le_magnitude hm hpos
  rw [ofDecimal, if_neg hdigits.ne', if_neg (by omega), if_neg (by omega)]
  split
  · rename_i hexponent
    refine ofRatio_eq_of_rounds hm (Nat.mul_pos hdigits (Nat.pow_pos (by decide))) one_pos ?_ _
    rwa [Nat.cast_one, div_one, Nat.cast_mul, Nat.cast_pow, Nat.cast_ofNat,
      zpow_toNat hexponent]
  · rename_i hexponent
    refine ofRatio_eq_of_rounds hm hdigits (Nat.pow_pos (by decide)) ?_ _
    rwa [Nat.cast_pow, Nat.cast_ofNat, zpow_toNat (by omega), zpow_neg, div_inv_eq_mul]

theorem isRounded_ofDecimal (negative : Bool) (digits : ℕ) (exponent : ℤ) :
    (ofDecimal negative digits exponent).IsRounded := by
  have hzero : IsCanonical 0 minExponent := ⟨by norm_num, le_refl _, by decide, .inr rfl⟩
  rw [ofDecimal]
  split_ifs
  · exact hzero
  · trivial
  · exact hzero
  · exact isRounded_ofRatio _ _ _
  · exact isRounded_ofRatio _ _ _

end VectorLint.Binary64
