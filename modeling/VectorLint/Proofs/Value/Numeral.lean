import Mathlib.Data.Nat.Notation
import VectorLint.Value.Reader

/-!
# Numerals

A number in JSON text is a numeral: digits, perhaps a point with more digits behind it, and perhaps
a signed exponent. A numeral that is followed by something that cannot be a part of it is read as
the number that it stands for, and the rest is left.
-/

namespace VectorLint.Json

/-- Whether some characters are decimal digits. -/
def AreDigits (cs : List Char) : Prop := ∀ c ∈ cs, c.isDigit = true

/-- Whether what follows a value cannot be taken for a part of it. -/
def Ends (rest : List Char) : Prop := ∀ c ∈ rest.head?, c = ',' ∨ c = '\n'

theorem Ends.not_isDigit {rest : List Char} (h : Ends rest) :
    ∀ c ∈ rest.head?, c.isDigit = false := by
  intro c hc
  rcases h c hc with rfl | rfl <;> rfl

/-- The parts of a written number without its sign. -/
structure Numeral where
  whole : List Char
  fraction : List Char
  down : Bool
  exponent : List Char

namespace Numeral

/-- The mark and the digits behind the point. -/
def fractionText (n : Numeral) : List Char := if n.fraction = [] then [] else '.' :: n.fraction

/-- The mark, the sign and the digits of the exponent. -/
def exponentText (n : Numeral) : List Char :=
  if n.exponent = [] then [] else 'e' :: (if n.down then '-' else '+') :: n.exponent

/-- A number as it is written. -/
def text (n : Numeral) (negative : Bool) : List Char :=
  (if negative then ['-'] else []) ++ n.whole ++ n.fractionText ++ n.exponentText

/-- All digits of a number in a row. -/
def digits (n : Numeral) : ℕ := decimalValue (n.whole ++ n.fraction)

/-- The place of the last digit. -/
def scale (n : Numeral) : Int :=
  (if n.down then -(decimalValue n.exponent : Int) else decimalValue n.exponent) - n.fraction.length

/-- What a written number stands for. -/
def value (n : Numeral) (negative : Bool) : Value :=
  if n.fraction = [] ∧ n.exponent = [] then
    .int (if negative then -(decimalValue n.whole : Int) else decimalValue n.whole)
  else .float (.ofDecimal negative n.digits n.scale)

/-- Whether the parts are those of a number: there are digits before the point, they start with a
zero only if it is the only one, and there are not more than are read. -/
structure IsValid (n : Numeral) : Prop where
  whole_ne_nil : n.whole ≠ []
  areDigits_whole : AreDigits n.whole
  whole_eq : n.whole.head? = some '0' → n.whole = ['0']
  areDigits_fraction : AreDigits n.fraction
  areDigits_exponent : AreDigits n.exponent
  length_le : n.fraction = [] → n.exponent = [] → n.whole.length ≤ maxDigits

end Numeral

/-! ## Reading the parts -/

variable {rest : List Char}

theorem takeWhile_digits {cs : List Char} (hcs : AreDigits cs)
    (hrest : ∀ c ∈ rest.head?, c.isDigit = false) :
    (cs ++ rest).takeWhile Char.isDigit = cs ∧ (cs ++ rest).dropWhile Char.isDigit = rest := by
  rw [List.takeWhile_append_of_pos hcs, List.dropWhile_append_of_pos hcs]
  cases rest with
  | nil => simp
  | cons c rest => simp [hrest c rfl]

theorem wholeDigits_append {whole : List Char} (hne : whole ≠ []) (hdigits : AreDigits whole)
    (hzero : whole.head? = some '0' → whole = ['0'])
    (hrest : ∀ c ∈ rest.head?, c.isDigit = false) :
    wholeDigits (whole ++ rest) = some (whole, rest) := by
  obtain ⟨htake, hdrop⟩ := takeWhile_digits hdigits hrest
  rw [wholeDigits.eq_def]
  split
  · rename_i more heq
    cases whole with
    | nil => exact absurd rfl hne
    | cons c whole =>
      rw [List.cons_append, List.cons.injEq] at heq
      obtain ⟨rfl, rfl⟩ := heq
      rw [List.cons.inj (hzero rfl) |>.2, List.nil_append]
  · simp only [htake, hdrop]
    rw [if_neg (by simpa using hne)]

theorem fractionDigits_cons {digits : List Char} (hne : digits ≠ []) (hdigits : AreDigits digits)
    (hrest : ∀ c ∈ rest.head?, c.isDigit = false) :
    fractionDigits ('.' :: digits ++ rest) = some (digits, rest) := by
  obtain ⟨htake, hdrop⟩ := takeWhile_digits hdigits hrest
  simp only [List.cons_append, fractionDigits, htake, hdrop]
  rw [if_neg (by simpa using hne)]

theorem fractionDigits_eq_none (hrest : ∀ c ∈ rest.head?, c ≠ '.') :
    fractionDigits rest = none := by
  rw [fractionDigits.eq_def]
  split
  · exact absurd rfl (hrest '.' rfl)
  · rfl

theorem exponentDigits_cons {digits : List Char} (hne : digits ≠ []) (hdigits : AreDigits digits)
    (hrest : ∀ c ∈ rest.head?, c.isDigit = false) (down : Bool) :
    exponentDigits ('e' :: (if down then '-' else '+') :: digits ++ rest)
      = some (if down then -(decimalValue digits : Int) else decimalValue digits, rest) := by
  obtain ⟨htake, hdrop⟩ := takeWhile_digits hdigits hrest
  have hempty : digits.isEmpty = false := by simpa using hne
  cases down <;> simp [exponentDigits, htake, hdrop, hempty]

theorem exponentDigits_eq_none (hrest : ∀ c ∈ rest.head?, c ≠ 'e' ∧ c ≠ 'E') :
    exponentDigits rest = none := by
  cases rest with
  | nil => rfl
  | cons c rest => simp [exponentDigits, hrest c rfl]

namespace Numeral

variable {n : Numeral}

theorem IsValid.exists_whole (h : n.IsValid) : ∃ c cs, n.whole = c :: cs ∧ c.isDigit = true := by
  cases hwhole : n.whole with
  | nil => exact absurd hwhole h.whole_ne_nil
  | cons c cs => exact ⟨c, cs, rfl, h.areDigits_whole c (hwhole ▸ List.mem_cons_self)⟩

theorem fractionDigits_fractionText (h : n.IsValid) (hrest : ∀ c ∈ rest.head?, c.isDigit = false)
    (hpoint : ∀ c ∈ rest.head?, c ≠ '.') :
    fractionDigits (n.fractionText ++ rest)
      = if n.fraction = [] then none else some (n.fraction, rest) := by
  rw [fractionText]
  split
  · exact fractionDigits_eq_none hpoint
  · rename_i hne
    exact fractionDigits_cons hne h.areDigits_fraction hrest

theorem exponentDigits_exponentText (h : n.IsValid) (hrest : Ends rest) :
    exponentDigits (n.exponentText ++ rest)
      = if n.exponent = [] then none
        else some (if n.down then -(decimalValue n.exponent : Int) else decimalValue n.exponent,
          rest) := by
  rw [exponentText]
  split
  · refine exponentDigits_eq_none fun c hc ↦ ?_
    rcases hrest c hc with rfl | rfl <;> decide
  · rename_i hne
    exact exponentDigits_cons hne h.areDigits_exponent hrest.not_isDigit n.down

theorem head?_exponentText (n : Numeral) (hrest : Ends rest) :
    ∀ c ∈ (n.exponentText ++ rest).head?, c.isDigit = false ∧ c ≠ '.' := by
  intro c hc
  rw [exponentText] at hc
  split at hc
  · rcases hrest c hc with rfl | rfl <;> decide
  · cases hc
    decide

theorem head?_fractionText (n : Numeral) (hrest : Ends rest) :
    ∀ c ∈ (n.fractionText ++ (n.exponentText ++ rest)).head?, c.isDigit = false := by
  intro c hc
  rw [fractionText] at hc
  split at hc
  · exact (n.head?_exponentText hrest c hc).1
  · cases hc
    rfl

/-- **A numeral is read as what it stands for.** -/
theorem number_text (h : n.IsValid) (hrest : Ends rest) (negative : Bool) :
    number (n.text negative ++ rest) = .ok (n.value negative, rest) := by
  have hwhole := wholeDigits_append h.whole_ne_nil h.areDigits_whole h.whole_eq
    (n.head?_fractionText hrest)
  have hfraction := fractionDigits_fractionText h
    (fun c hc ↦ (n.head?_exponentText hrest c hc).1) fun c hc ↦ (n.head?_exponentText hrest c hc).2
  have hexponent := exponentDigits_exponentText h hrest
  have hunsigned :
      ∀ more, n.whole ++ (n.fractionText ++ (n.exponentText ++ rest)) ≠ '-' :: more := by
    obtain ⟨c, cs, hcs, hc⟩ := h.exists_whole
    rw [hcs]
    rintro more heq
    rw [(List.cons.inj heq).1] at hc
    cases hc
  have hnone : n.fraction = [] →
      n.fractionText ++ (n.exponentText ++ rest) = n.exponentText ++ rest := fun hnil ↦ by
    rw [fractionText, if_pos hnil, List.nil_append]
  have hnone' : n.exponent = [] → n.exponentText ++ rest = rest :=
    fun hnil ↦ by rw [exponentText, if_pos hnil, List.nil_append]
  rw [text, List.append_assoc, List.append_assoc, List.append_assoc, value, digits, scale]
  generalize n.fractionText ++ (n.exponentText ++ rest) = cs at *
  generalize n.exponentText ++ rest = cs' at *
  -- with and without a point, with and without an exponent
  by_cases hpoint : n.fraction = []
  · obtain rfl := hnone hpoint
    by_cases hmark : n.exponent = []
    · obtain rfl := hnone' hmark
      have hlength : ¬ n.whole.length > maxDigits := Nat.not_lt.mpr (h.length_le hpoint hmark)
      cases negative <;> simp [number, hwhole, hfraction, hexponent, hpoint, hmark, hlength]
    · cases negative <;> simp [number, hwhole, hfraction, hexponent, hpoint, hmark]
  · by_cases hmark : n.exponent = []
    · obtain rfl := hnone' hmark
      have hzero : decimalValue [] = 0 := rfl
      cases negative <;> simp [number, hwhole, hfraction, hexponent, hpoint, hmark, hzero]
    · cases negative <;> simp [number, hwhole, hfraction, hexponent, hpoint, hmark]

theorem IsValid.exists_text (h : n.IsValid) (negative : Bool) (rest : List Char) :
    ∃ c cs, c.isDigit = true
      ∧ (n.text negative ++ rest = c :: cs ∨ n.text negative ++ rest = '-' :: c :: cs) := by
  obtain ⟨c, cs, hcs, hc⟩ := h.exists_whole
  refine ⟨c, cs ++ (n.fractionText ++ (n.exponentText ++ rest)), hc, ?_⟩
  cases negative <;> simp [text, hcs]

theorem value_text (h : n.IsValid) (hrest : Ends rest) (negative : Bool) (fuel depth : ℕ) :
    Json.value (fuel + 1) depth (n.text negative ++ rest) = .ok (n.value negative, rest) := by
  have hnumber := number_text h hrest negative
  obtain ⟨c, cs, hc, hhead⟩ := h.exists_text negative rest
  generalize n.text negative ++ rest = text at hnumber hhead ⊢
  have hword : word? text = none := by
    rw [word?.eq_def]
    rcases hhead with rfl | rfl
    all_goals split <;> simp_all
  rw [Json.value.eq_def]
  simp only
  rcases hhead with rfl | rfl
  all_goals split <;> simp_all

end Numeral

end VectorLint.Json
