import Mathlib.Data.Nat.Notation
import Mathlib.Tactic.SplitIfs
import VectorLint.Value.Json
import VectorLint.Value.Reader

/-!
# Strings are read as they are written

Every character of a JSON string is written as itself, as a short escape, or as the escapes of its
one or two UTF-16 units, and each of these forms is read as the character. A string is never cut
short: what stands in it is never its closing quote.
-/

namespace VectorLint.Json

/-! ## Numbered escapes -/

theorem hexDigits_succ {width : ℕ} (hwidth : 0 < width) (n : ℕ) :
    Text.hexDigits (width + 1) n = Text.hexDigits width (n / 16) ++ [Nat.digitChar (n % 16)] := by
  simp only [Text.hexDigits]
  rw [Nat.toDigits_eq_if (by decide)]
  split
  · rename_i hlt
    rw [Nat.div_eq_of_lt hlt, Nat.mod_eq_of_lt hlt]
    have hzero : Nat.toDigits 16 0 = ['0'] := rfl
    have hzeros : List.replicate (width - 1) '0' ++ ['0'] = List.replicate width '0' := by
      rw [← List.replicate_succ', Nat.sub_add_cancel hwidth]
    rw [hzero]
    simp only [List.length_singleton, Nat.add_sub_cancel]
    rw [hzeros]
  · rw [List.length_append, List.length_singleton, Nat.add_sub_add_right, List.append_assoc]

theorem hexValue?_digitChar : ∀ k < 16, hexValue? (Nat.digitChar k) = some k := by decide

theorem exists_hexDigits {n : ℕ} (h : n < 0x10000) :
    ∃ a b c d, Text.hexDigits 4 n = [a, b, c, d] ∧ hexNumber? a b c d = some n := by
  have hone : Text.hexDigits 1 (n / 16 / 16 / 16) = [Nat.digitChar (n / 16 / 16 / 16)] := by
    rw [Text.hexDigits, Nat.toDigits_of_lt_base (by omega)]
    rfl
  have hfour : Text.hexDigits 4 n = [Nat.digitChar (n / 16 / 16 / 16),
      Nat.digitChar (n / 16 / 16 % 16), Nat.digitChar (n / 16 % 16), Nat.digitChar (n % 16)] := by
    rw [hexDigits_succ (by decide), hexDigits_succ (by decide), hexDigits_succ (by decide), hone]
    rfl
  refine ⟨_, _, _, _, hfour, ?_⟩
  have hdigits := fun k ↦ hexValue?_digitChar (k % 16) (Nat.mod_lt k (by decide))
  rw [hexNumber?, hexValue?_digitChar _ (by omega), hdigits, hdigits, hdigits]
  simp only [Option.bind_eq_bind, Option.bind_some]
  have hsum :
      ((n / 16 / 16 / 16 * 16 + n / 16 / 16 % 16) * 16 + n / 16 % 16) * 16 + n % 16 = n := by
    omega
  rw [hsum]
  rfl

theorem length_hexDigits {n : ℕ} (h : n < 0x10000) : (Text.hexDigits 4 n).length = 4 := by
  obtain ⟨_, _, _, _, hdigits, -⟩ := exists_hexDigits h
  rw [hdigits]
  rfl

theorem numberedEscape_unit {n : ℕ} (h : n < 0x10000) (hhigh : isHighUnit n = false)
    (hlow : isLowUnit n = false) {more : List Char} (hmore : more ≠ []) :
    numberedEscape ('u' :: Text.hexDigits 4 n ++ more) = .ok (Char.ofNat n, 5) := by
  obtain ⟨a, b, c, d, hdigits, hnumber⟩ := exists_hexDigits h
  obtain ⟨next, rest, rfl⟩ := List.exists_cons_of_ne_nil hmore
  rw [hdigits]
  simp [numberedEscape, hnumber, hhigh, hlow]

theorem numberedEscape_pair {m : ℕ} (h : m < 0x100000) {more : List Char} (hmore : more ≠ []) :
    numberedEscape ('u' :: (Text.hexDigits 4 (0xD800 + m / 0x400)
        ++ '\\' :: 'u' :: Text.hexDigits 4 (0xDC00 + m % 0x400)) ++ more)
      = .ok (Char.ofNat (0x10000 + m), 11) := by
  obtain ⟨a, b, c, d, hdigits, hnumber⟩ := exists_hexDigits (n := 0xD800 + m / 0x400) (by omega)
  obtain ⟨a', b', c', d', hdigits', hnumber'⟩ :=
    exists_hexDigits (n := 0xDC00 + m % 0x400) (by omega)
  obtain ⟨next, rest, rfl⟩ := List.exists_cons_of_ne_nil hmore
  have hhigh : isHighUnit (0xD800 + m / 0x400) = true := by
    simp only [isHighUnit, Bool.and_eq_true, decide_eq_true_eq]
    omega
  have hlow : isLowUnit (0xDC00 + m % 0x400) = true := by
    simp only [isLowUnit, Bool.and_eq_true, decide_eq_true_eq]
    omega
  rw [hdigits, hdigits']
  simp [numberedEscape, hnumber, hnumber', hhigh, hlow]
  have hsum : 0x10000 + m / 0x400 * 0x400 + m % 0x400 = 0x10000 + m := by omega
  rw [hsum]

/-! ## Strings -/

theorem stringRest_skip (unread : ℕ) (skipped cs : List Char) :
    stringRest unread skipped.length (skipped ++ cs) = stringRest unread 0 cs := by
  induction skipped with
  | nil => rfl
  | cons c skipped ih => rw [← ih, List.length_cons, List.cons_append, stringRest]

/-- What a string says with `c` in front of it. -/
def consChar (c : Char) (read : Except Fault (List Char × List Char)) :
    Except Fault (List Char × List Char) :=
  read.map fun p ↦ (c :: p.1, p.2)

theorem stringRest_plain (unread : ℕ) {c : Char} (hquote : c ≠ '"') (hescape : c ≠ '\\')
    (hcontrol : 0x20 ≤ c.toNat) (more : List Char) :
    stringRest unread 0 (c :: more) = consChar c (stringRest unread 0 more) := by
  rw [stringRest.eq_def]
  simp only [hquote, hescape, Nat.not_lt.mpr hcontrol, if_false]
  cases stringRest unread 0 more <;> rfl

theorem stringRest_short (unread : ℕ) {c mark : Char} (h : shortEscape? mark = some c)
    (more : List Char) :
    stringRest unread 0 ('\\' :: mark :: more) = consChar c (stringRest unread 0 more) := by
  have hmark : mark ≠ 'u' := by
    rintro rfl
    cases h
  have hskip : stringRest unread 1 (mark :: more) = stringRest unread 0 more :=
    stringRest_skip unread [mark] more
  rw [stringRest.eq_def]
  simp only [Char.reduceEq, if_false, if_true, h, hskip]
  cases stringRest unread 0 more <;> rfl

theorem stringRest_numbered (unread : ℕ) {c : Char} (skipped more : List Char)
    (h : numberedEscape ('u' :: skipped ++ more) = .ok (c, skipped.length + 1)) :
    stringRest unread 0 ('\\' :: 'u' :: skipped ++ more)
      = consChar c (stringRest unread 0 more) := by
  have hskip : stringRest unread (skipped.length + 1) ('u' :: skipped ++ more)
      = stringRest unread 0 more := stringRest_skip unread ('u' :: skipped) more
  rw [List.cons_append] at h hskip
  rw [List.cons_append, List.cons_append, stringRest.eq_def]
  simp only [Char.reduceEq, if_false, if_true, h, hskip, bind, Except.bind]
  cases stringRest unread 0 more <;> rfl

theorem stringRest_unitEscape (unread : ℕ) {n : ℕ} (h : n < 0x10000) (hhigh : isHighUnit n = false)
    (hlow : isLowUnit n = false) {more : List Char} (hmore : more ≠ []) :
    stringRest unread 0 (Value.unitEscape n ++ more)
      = consChar (Char.ofNat n) (stringRest unread 0 more) := by
  refine stringRest_numbered unread _ _ ?_
  rw [numberedEscape_unit h hhigh hlow hmore, length_hexDigits h]

theorem stringRest_unitEscape_pair (unread : ℕ) {m : ℕ} (h : m < 0x100000) {more : List Char}
    (hmore : more ≠ []) :
    stringRest unread 0 (Value.unitEscape (0xD800 + m / 0x400)
        ++ Value.unitEscape (0xDC00 + m % 0x400) ++ more)
      = consChar (Char.ofNat (0x10000 + m)) (stringRest unread 0 more) := by
  have hread := stringRest_numbered unread (c := Char.ofNat (0x10000 + m))
    (Text.hexDigits 4 (0xD800 + m / 0x400)
      ++ '\\' :: 'u' :: Text.hexDigits 4 (0xDC00 + m % 0x400)) more
  rw [numberedEscape_pair h hmore, List.length_append, List.length_cons, List.length_cons,
    length_hexDigits (by omega), length_hexDigits (by omega)] at hread
  exact hread rfl

theorem stringRest_jsonChar (unread : ℕ) (c : Char) {more : List Char} (hmore : more ≠ []) :
    stringRest unread 0 (Value.jsonChar c ++ more) = consChar c (stringRest unread 0 more) := by
  have hvalid : c.toNat < 0xD800 ∨ 0xDFFF < c.toNat ∧ c.toNat < 0x110000 := c.valid
  have hofNat := Char.ofNat_toNat c
  rw [Value.jsonChar]
  split_ifs with hquote hescape hline hreturn htab hfeed hback
  · exact stringRest_short unread (by rw [hquote]; rfl) more
  · exact stringRest_short unread (by rw [hescape]; rfl) more
  · exact stringRest_short unread (by rw [hline]; rfl) more
  · exact stringRest_short unread (by rw [hreturn]; rfl) more
  · exact stringRest_short unread (by rw [htab]; rfl) more
  · exact stringRest_short unread (by rw [hfeed]; rfl) more
  · exact stringRest_short unread (by rw [hback]; rfl) more
  simp only
  split_ifs with hplain hunit
  · simp only [Bool.and_eq_true, decide_eq_true_eq] at hplain
    exact stringRest_plain unread hquote hescape hplain.1 more
  · have hhigh : isHighUnit c.toNat = false := by
      simp only [isHighUnit, Bool.and_eq_false_iff, decide_eq_false_iff_not]
      omega
    have hlow : isLowUnit c.toNat = false := by
      simp only [isLowUnit, Bool.and_eq_false_iff, decide_eq_false_iff_not]
      omega
    rw [stringRest_unitEscape unread hunit hhigh hlow hmore, hofNat]
  · have hsum : 0x10000 + (c.toNat - 0x10000) = c.toNat := by omega
    rw [stringRest_unitEscape_pair unread (by omega) hmore, hsum, hofNat]

/-- **A string is read as it is written**, up to the quote that closes it. -/
theorem stringRest_flatMap_jsonChar (unread : ℕ) (cs rest : List Char) :
    stringRest unread 0 (cs.flatMap Value.jsonChar ++ '"' :: rest) = .ok (cs, rest) := by
  induction cs with
  | nil => rfl
  | cons c cs ih =>
    rw [List.flatMap_cons, List.append_assoc, stringRest_jsonChar _ _ (by simp), ih]
    rfl

end VectorLint.Json
