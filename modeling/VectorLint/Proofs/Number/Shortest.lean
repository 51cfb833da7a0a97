import Mathlib.Data.List.DropRight
import VectorLint.Number.Shortest
import VectorLint.Proofs.Number.Rounding

/-!
# The shortest decimal

The decimal with which a number is written lies in the interval of the number, since every grid that
is tried is tested against it, and seventeen digits are enough for a hit: a grid of so many digits
is finer than the interval reaches to either side. So the decimal is read as the number again.
-/

namespace VectorLint.Binary64

variable {m : ℕ} {e : ℤ}

/-! ## The interval in whole numbers -/

/-- How many multiples of `1 / unit` a quarter of a unit of the number is. -/
def quarter (e : ℤ) : ℕ := if 2 ≤ e then 2 ^ (e - 2).toNat else 1

theorem unit_pos (m : ℕ) (e : ℤ) : 0 < (Interval.of m e).unit := by
  simp only [Interval.of, Nat.pow_eq]
  split <;> positivity

theorem quarter_div_unit (m : ℕ) (e : ℤ) :
    (quarter e : ℚ) / (Interval.of m e).unit = 1 / 4 * 2 ^ e := by
  have hquarter : (1 / 4 * 2 ^ e : ℚ) = 2 ^ (e - 2) := by
    rw [zpow_sub₀ (by norm_num)]
    norm_num
    ring
  rw [hquarter]
  simp only [quarter, Interval.of, Nat.pow_eq]
  split
  · rename_i h
    push_cast
    rw [zpow_toNat (by omega), div_one]
  · rename_i h
    push_cast
    rw [zpow_toNat (by omega), one_div, ← zpow_neg, neg_sub]

theorem value_div_unit (m : ℕ) (e : ℤ) :
    ((Interval.of m e).value : ℚ) / (Interval.of m e).unit = m * 2 ^ e := by
  have hvalue : (Interval.of m e).value = 4 * m * quarter e := rfl
  rw [hvalue, Nat.cast_mul, mul_div_assoc, quarter_div_unit]
  push_cast
  ring

theorem high_div_unit (m : ℕ) (e : ℤ) :
    ((Interval.of m e).high : ℚ) / (Interval.of m e).unit = (m + 1 / 2) * 2 ^ e := by
  have hhigh : (Interval.of m e).high = (4 * m + 2) * quarter e := rfl
  rw [hhigh, Nat.cast_mul, mul_div_assoc, quarter_div_unit]
  push_cast
  ring

theorem low_div_unit (hm : 0 < m) :
    ((Interval.of m e).low : ℚ) / (Interval.of m e).unit = (m - reach m e) * 2 ^ e := by
  have hlow : (Interval.of m e).low
      = (if m = 2 ^ 52 ∧ minExponent < e then 4 * m - 1 else 4 * m - 2) * quarter e := by
    simp only [Interval.of, Nat.pow_eq, Bool.and_eq_true, decide_eq_true_eq, gt_iff_lt]
    rfl
  rw [hlow, Nat.cast_mul, mul_div_assoc, quarter_div_unit, reach]
  split
  · rw [Nat.cast_sub (by omega)]
    push_cast
    ring
  · rw [Nat.cast_sub (by omega)]
    push_cast
    ring

theorem exists_scale (unit d : ℕ) (k : ℤ) : ∃ x scale : ℕ, 0 < scale
    ∧ (x : ℚ) / scale = d * 10 ^ k * unit
    ∧ x = (if 0 ≤ k then d * Nat.pow 10 k.toNat * unit else d * unit)
    ∧ scale = if 0 ≤ k then 1 else Nat.pow 10 (-k).toNat := by
  by_cases hk : 0 ≤ k
  · refine ⟨d * 10 ^ k.toNat * unit, 1, one_pos, ?_, (if_pos hk).symm, (if_pos hk).symm⟩
    push_cast
    rw [zpow_toNat hk, div_one]
  · refine ⟨d * unit, 10 ^ (-k).toNat, by positivity, ?_, (if_neg hk).symm, (if_neg hk).symm⟩
    push_cast
    rw [zpow_toNat (by omega), zpow_neg, div_inv_eq_mul]
    ring

theorem holds_iff (hm : 0 < m) (d : ℕ) (k : ℤ) :
    (Interval.of m e).holds d k = true ↔ Rounds m e (d * 10 ^ k) := by
  have hunit : (0 : ℚ) < (Interval.of m e).unit := by exact_mod_cast unit_pos m e
  obtain ⟨x, scale, hscale, hx, hxeq, hscaleeq⟩ := exists_scale (Interval.of m e).unit d k
  have hscale' : (0 : ℚ) < scale := by exact_mod_cast hscale
  have hv : (d * 10 ^ k : ℚ) = x / scale / (Interval.of m e).unit := by
    rw [hx]
    field_simp
  -- both ends are compared with the point by whole numbers
  have hle (a : ℕ) : (a : ℚ) / (Interval.of m e).unit ≤ d * 10 ^ k ↔ a * scale ≤ x := by
    rw [hv, div_le_div_iff_of_pos_right hunit, le_div_iff₀ hscale']
    exact_mod_cast Iff.rfl
  have hge (a : ℕ) : (d * 10 ^ k : ℚ) ≤ a / (Interval.of m e).unit ↔ x ≤ a * scale := by
    rw [hv, div_le_div_iff_of_pos_right hunit, div_le_iff₀ hscale']
    exact_mod_cast Iff.rfl
  have hlt (a : ℕ) : (a : ℚ) / (Interval.of m e).unit < d * 10 ^ k ↔ a * scale < x := by
    rw [hv, div_lt_div_iff_of_pos_right hunit, lt_div_iff₀ hscale']
    exact_mod_cast Iff.rfl
  have hgt (a : ℕ) : (d * 10 ^ k : ℚ) < a / (Interval.of m e).unit ↔ x < a * scale := by
    rw [hv, div_lt_div_iff_of_pos_right hunit, div_lt_iff₀ hscale']
    exact_mod_cast Iff.rfl
  have hclosed : (Interval.of m e).closed = (m % 2 == 0) := rfl
  rw [Interval.holds, ← hxeq, ← hscaleeq, hclosed]
  rcases Nat.mod_two_eq_zero_or_one m with heven | hodd
  · simp only [heven, beq_self_eq_true, if_true, Bool.and_eq_true, decide_eq_true_eq]
    rw [← hle, ← hge, low_div_unit hm, high_div_unit]
    exact ⟨fun h ↦ ⟨h.1, h.2, fun hodd ↦ by omega⟩, fun h ↦ ⟨h.low_le, h.le_high⟩⟩
  · simp only [hodd, Nat.one_ne_zero, beq_iff_eq, if_false, Bool.and_eq_true, decide_eq_true_eq]
    rw [← hlt, ← hgt, low_div_unit hm, high_div_unit]
    exact ⟨fun h ↦ ⟨h.1.le, h.2.le, fun _ ↦ h⟩, fun h ↦ h.lt_of_odd hodd⟩

/-! ## The place of the point -/

theorem lt_div_one {a b : ℕ} (hb : 0 < b) : ((a : ℚ) / b < 1) ↔ a / b = 0 := by
  rw [div_lt_one (by exact_mod_cast hb), Nat.div_eq_zero_iff]
  constructor
  · exact fun h ↦ .inr (by exact_mod_cast h)
  · exact fun h ↦ by exact_mod_cast h.resolve_left hb.ne'

theorem zpow_le_of_whole {a b : ℕ} (hb : 0 < b) (h : 0 < a / b) :
    (10 : ℚ) ^ (((Nat.toDigits 10 (a / b)).length : ℤ) - 1) ≤ a / b
      ∧ (a : ℚ) / b < 10 ^ ((Nat.toDigits 10 (a / b)).length : ℤ) := by
  have hb' : (0 : ℚ) < b := by exact_mod_cast hb
  have hlength : 0 < (Nat.toDigits 10 (a / b)).length := Nat.length_toDigits_pos
  constructor
  · rw [show ((Nat.toDigits 10 (a / b)).length : ℤ) - 1
      = (((Nat.toDigits 10 (a / b)).length - 1 : ℕ) : ℤ) by omega, zpow_natCast, le_div_iff₀ hb']
    have hle := Nat.mul_le_mul_right b (pow_le_digits h)
    exact_mod_cast hle.trans (Nat.div_mul_le_self a b)
  · rw [zpow_natCast, div_lt_iff₀ hb']
    have hlt := (Nat.div_lt_iff_lt_mul hb).mp (digits_lt_pow (a / b))
    exact_mod_cast hlt

theorem le_mul_pow_iff {a b : ℕ} (hb : 0 < b) (k : ℕ) :
    b ≤ a * Nat.pow 10 k ↔ (10 : ℚ) ^ (-(k : ℤ)) ≤ a / b := by
  rw [zpow_neg, zpow_natCast, le_div_iff₀ (by exact_mod_cast hb), ← div_eq_inv_mul,
    div_le_iff₀ (by positivity), Nat.pow_eq]
  exact_mod_cast Iff.rfl

theorem two_zpow_neg_lt : (10 : ℚ) ^ (-(400 : ℤ)) < 2 ^ (-1120 : ℤ) := by
  rw [zpow_neg, zpow_neg]
  exact inv_strictAnti₀ (two_zpow_pos 1120) two_zpow_lt_ten_zpow

theorem point_spec (hm : IsCanonical m e) (hpos : 0 < m) :
    (10 : ℚ) ^ ((Interval.of m e).point - 1) ≤ m * 2 ^ e
      ∧ (m * 2 ^ e : ℚ) < 10 ^ (Interval.of m e).point := by
  have hunit := unit_pos m e
  have hvalue := value_div_unit m e
  rw [Interval.point]
  generalize (Interval.of m e).value = a at hvalue ⊢
  generalize (Interval.of m e).unit = b at hunit hvalue ⊢
  rw [← hvalue]
  simp only
  split
  · rename_i h
    exact zpow_le_of_whole hunit h
  · rename_i h
    have hlt : (a : ℚ) / b < 1 := (lt_div_one hunit).mpr (Nat.eq_zero_of_not_pos h)
    cases hfind : (List.range 400).find? fun k ↦ decide (b ≤ a * Nat.pow 10 (k + 1)) with
    | none =>
      obtain ⟨k, hk⟩ : ∃ k, k = 399 := ⟨_, rfl⟩
      have hnone := List.find?_eq_none.mp hfind k (List.mem_range.mpr (by omega))
      rw [decide_eq_true_eq, le_mul_pow_iff hunit, hvalue] at hnone
      have hone : (1 : ℚ) ≤ m := by exact_mod_cast hpos
      have hmin : -1074 ≤ e := hm.min_le
      refine absurd ?_ hnone
      calc (10 : ℚ) ^ (-((k + 1 : ℕ) : ℤ)) = 10 ^ (-(400 : ℤ)) := by rw [hk]; rfl
        _ ≤ 2 ^ (-1120 : ℤ) := two_zpow_neg_lt.le
        _ ≤ 2 ^ e := zpow_le_zpow_right₀ (by norm_num) (by omega)
        _ ≤ m * 2 ^ e := le_mul_of_one_le_left (two_zpow_pos e).le hone
    | some k =>
      obtain ⟨hk, -, hleast⟩ := List.find?_range_eq_some.mp hfind
      rw [decide_eq_true_eq, le_mul_pow_iff hunit] at hk
      have hpoint : Int.negOfNat ((some k).getD 0) = -(k : ℤ) := Int.negOfNat_eq
      rw [hpoint]
      constructor
      · rwa [show -(k : ℤ) - 1 = -((k + 1 : ℕ) : ℤ) by omega]
      · cases k with
        | zero => simpa using hlt
        | succ k =>
          have hbefore := hleast k (Nat.lt_succ_self k)
          rw [Bool.not_eq_true', decide_eq_false_iff_not, le_mul_pow_iff hunit, not_le] at hbefore
          exact hbefore

/-! ## Grids -/

theorem roundDiv_near (num : ℕ) {den : ℕ} (hden : 0 < den) :
    (roundDiv num den : ℚ) - 1 / 2 ≤ num / den ∧ (num : ℚ) / den ≤ roundDiv num den + 1 / 2 := by
  have hden' : (0 : ℚ) < den := by exact_mod_cast hden
  rw [le_div_iff₀ hden', div_le_iff₀ hden', div_add_mod_cast num den]
  have hlt : num % den < den := Nat.mod_lt num hden
  rw [roundDiv]
  generalize num / den = Q
  generalize num % den = R at hlt ⊢
  have hlt' : (R : ℚ) < den := by exact_mod_cast hlt
  have hR : (0 : ℚ) ≤ R := Nat.cast_nonneg R
  split
  · rename_i h
    simp only [Bool.or_eq_true, decide_eq_true_eq, Bool.and_eq_true, beq_iff_eq] at h
    have hge : (den : ℚ) ≤ 2 * R := by exact_mod_cast (by omega : den ≤ 2 * R)
    push_cast
    constructor <;> nlinarith
  · rename_i h
    simp only [Bool.or_eq_true, decide_eq_true_eq, Bool.and_eq_true, beq_iff_eq, not_or] at h
    have hle : (2 * R : ℚ) ≤ den := by exact_mod_cast (by omega : 2 * R ≤ den)
    constructor <;> nlinarith

/-- The number in multiples of a power of ten, as a quotient of whole numbers. -/
def onGridRatio (i : Interval) (k : ℤ) : ℕ × ℕ :=
  (if 0 ≤ k then i.value else i.value * Nat.pow 10 (-k).toNat,
    if 0 ≤ k then i.unit * Nat.pow 10 k.toNat else i.unit)

theorem onGridRatio_spec (m : ℕ) (e k : ℤ) : 0 < (onGridRatio (Interval.of m e) k).2
    ∧ ((onGridRatio (Interval.of m e) k).1 : ℚ) / (onGridRatio (Interval.of m e) k).2
      = m * 2 ^ e / 10 ^ k := by
  have hunit := unit_pos m e
  rw [← value_div_unit, onGridRatio]
  simp only [Nat.pow_eq]
  split
  · rename_i hk
    refine ⟨by positivity, ?_⟩
    push_cast
    rw [zpow_toNat hk, div_div]
  · rename_i hk
    refine ⟨hunit, ?_⟩
    push_cast
    rw [zpow_toNat (by omega), zpow_neg]
    field_simp

/-- Some decimal digits with the last place `10 ^ k`. -/
def decimalOf (d : ℕ) (k : ℤ) : Decimal :=
  ⟨Nat.toDigits 10 d, k + (Nat.toDigits 10 d).length⟩

theorem onGrid?_spec (i : Interval) (n : ℕ) :
    (∀ d, i.onGrid? n = some d →
      ∃ j : ℕ, i.holds j (i.point - n) = true ∧ d = decimalOf j (i.point - n))
    ∧ (i.holds (roundDiv (onGridRatio i (i.point - n)).1 (onGridRatio i (i.point - n)).2)
        (i.point - n) = true → (i.onGrid? n).isSome = true) := by
  have hgrid : ∃ other, i.onGrid? n
      = if i.holds (roundDiv (onGridRatio i (i.point - n)).1 (onGridRatio i (i.point - n)).2)
          (i.point - n) = true
        then some (decimalOf
          (roundDiv (onGridRatio i (i.point - n)).1 (onGridRatio i (i.point - n)).2) (i.point - n))
        else if i.holds other (i.point - n) = true then some (decimalOf other (i.point - n))
        else none := ⟨_, rfl⟩
  obtain ⟨other, hgrid⟩ := hgrid
  rw [hgrid]
  generalize roundDiv _ _ = nearer
  constructor
  · intro d hd
    split at hd
    · rename_i hholds
      exact ⟨_, hholds, (Option.some.inj hd).symm⟩
    · split at hd
      · rename_i hholds
        exact ⟨_, hholds, (Option.some.inj hd).symm⟩
      · cases hd
  · intro hholds
    rw [if_pos hholds]
    rfl

/-- **Seventeen digits are enough**: of the grid with so many digits, the point next to the number
lies in the interval. -/
theorem rounds_seventeen (hm : IsCanonical m e) (hpos : 0 < m) {k : ℤ}
    (hk : k = (Interval.of m e).point - 17) :
    Rounds m e (roundDiv (onGridRatio (Interval.of m e) k).1 (onGridRatio (Interval.of m e) k).2
      * 10 ^ k) := by
  obtain ⟨hratio, heq⟩ := onGridRatio_spec m e k
  obtain ⟨hlow, hhigh⟩ := roundDiv_near (onGridRatio (Interval.of m e) k).1 hratio
  generalize roundDiv _ _ = j at hlow hhigh ⊢
  rw [heq] at hlow hhigh
  have hten : (0 : ℚ) < 10 ^ k := zpow_pos (by norm_num) k
  rw [le_div_iff₀ hten] at hlow
  rw [div_le_iff₀ hten] at hhigh
  -- the distance of two points of the grid is small against the number
  have hgrid : (10 : ℚ) ^ k * 10 ^ 16 ≤ m * 2 ^ e := by
    refine le_trans (le_of_eq ?_) (point_spec hm hpos).1
    rw [← zpow_natCast, ← zpow_add₀ (by norm_num), hk]
    congr 1
    push_cast
    omega
  have htwo := two_zpow_pos e
  have hm' : (m : ℚ) < 2 ^ 53 := by exact_mod_cast hm.lt_pow
  have hhalf : (10 : ℚ) ^ k < 2 * reach m e * 2 ^ e := by
    rw [reach]
    split
    · rename_i h
      rw [h.1] at hgrid
      push_cast at hgrid
      nlinarith
    · nlinarith
  have hreach : 2 * reach m e * 2 ^ e ≤ 1 * 2 ^ e := by
    have := reach_le m e
    gcongr
    linarith
  have hlt : (m - reach m e) * 2 ^ e < (j * 10 ^ k : ℚ) := by nlinarith
  have hgt : (j * 10 ^ k : ℚ) < (m + 1 / 2) * 2 ^ e := by nlinarith
  exact ⟨hlt.le, hgt.le, fun _ ↦ ⟨hlt, hgt⟩⟩

/-- **The shortest decimal lies in the interval** of the number, but for the zeros at its end. -/
theorem exists_shortest_eq (hm : IsCanonical m e) (hpos : 0 < m) :
    ∃ (j : ℕ) (k : ℤ), Rounds m e (j * 10 ^ k)
      ∧ shortest m e
        = ⟨(Nat.toDigits 10 j).rdropWhile (· == '0'), k + (Nat.toDigits 10 j).length⟩ := by
  have hsome :
      ((List.range 17).findSome? fun n ↦ (Interval.of m e).onGrid? (n + 1)).isSome = true := by
    refine List.findSome?_isSome_iff.mpr ⟨16, List.mem_range.mpr (by decide), ?_⟩
    refine (onGrid?_spec (Interval.of m e) (16 + 1)).2 ((holds_iff hpos _ _).mpr ?_)
    exact rounds_seventeen hm hpos rfl
  obtain ⟨d, hd⟩ := Option.isSome_iff_exists.mp hsome
  obtain ⟨n, -, hn⟩ := List.exists_of_findSome?_eq_some hd
  obtain ⟨j, hholds, rfl⟩ := (onGrid?_spec (Interval.of m e) (n + 1)).1 d hn
  refine ⟨j, _, (holds_iff hpos _ _).mp hholds, ?_⟩
  rw [shortest, if_neg hpos.ne']
  simp only [hd]
  rfl

end VectorLint.Binary64
