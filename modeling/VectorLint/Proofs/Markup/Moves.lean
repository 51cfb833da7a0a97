import Mathlib.Data.List.Forall2
import VectorLint.Markup.Namespace
import VectorLint.Markup.Value
import VectorLint.Proofs.Markup.Draft

/-!
# Reading several characters

What is written of a draft is read in chunks: the name of an element, a reference, a value. A chunk
takes the state of a token to another one and ends no token, and chunks that follow one another are
read one after the other. The steps of names and references recur in the steps of the tokens around
them, and what a chunk does there is what it does by itself.
-/

namespace VectorLint.Markup

variable {σ τ α β : Type}

/-! ## Several characters of a token -/

/-- What a token that is being read becomes with some more characters, the first of which stands at
`offset`, if none of them ends it. -/
def Move.run (step : Nat → σ → Char → Move σ α) : Nat → σ → List Char → Option σ
  | _, s, [] => some s
  | offset, s, c :: cs =>
    match step offset s c with
    | .more s => Move.run step (offset + 1) s cs
    | _ => none

theorem Move.run_cons {step : Nat → σ → Char → Move σ α} {offset : Nat} {s s' : σ} {c : Char}
    (h : step offset s c = .more s') (cs : List Char) :
    Move.run step offset s (c :: cs) = Move.run step (offset + 1) s' cs := by
  rw [Move.run, h]

theorem Move.run_append {step : Nat → σ → Char → Move σ α} {offset : Nat} {s s' : σ}
    {cs : List Char} (h : Move.run step offset s cs = some s') (ds : List Char) :
    Move.run step offset s (cs ++ ds) = Move.run step (offset + cs.length) s' ds := by
  induction cs generalizing offset s with
  | nil =>
    rw [Move.run, Option.some_inj] at h
    rw [h]
    rfl
  | cons c cs ih =>
    rw [Move.run] at h
    split at h
    · rename_i t ht
      rw [List.cons_append, Move.run_cons ht, ih h, List.length_cons, Nat.add_assoc,
        Nat.add_comm 1]
    · cases h

theorem Move.run_inside {step : Nat → σ → Char → Move σ α} {step' : Nat → τ → Char → Move τ β}
    {f : σ → τ}
    (hf : ∀ offset s c s', step offset s c = .more s' → step' offset (f s) c = .more (f s'))
    {offset : Nat} {s s' : σ} {cs : List Char} (h : Move.run step offset s cs = some s') :
    Move.run step' offset (f s) cs = some (f s') := by
  induction cs generalizing offset s with
  | nil =>
    rw [Move.run, Option.some_inj] at h
    rw [h]
    rfl
  | cons c cs ih =>
    rw [Move.run] at h
    split at h
    · rename_i t ht
      rw [Move.run_cons (hf _ _ _ _ ht)]
      exact ih h
    · cases h

/-! ## Names -/

namespace Writing

@[simp] theorem isNameStart_octets (c : Char) : octets.isNameStart c = Markup.isNameStart c := by
  rw [isNameStart, hasLetterSigns, Bool.false_and, Bool.or_false]

@[simp] theorem isName_octets (c : Char) : octets.isName c = Markup.isName c := by
  rw [isName, hasLetterSigns, Bool.false_and, Bool.or_false]

end Writing

theorem run_name {step : Nat → σ → Char → Move σ α} {f : List Char → σ}
    (hf : ∀ offset read c, read ≠ [] → isName c = true →
      step offset (f read) c = .more (f (c :: read)))
    {read : List Char} (hread : read ≠ []) {cs : List Char} (hcs : ∀ c ∈ cs, isName c = true)
    (offset : Nat) :
    Move.run step offset (f read) cs = some (f (cs.reverse ++ read)) := by
  induction cs generalizing read offset with
  | nil => rfl
  | cons c cs ih =>
    rw [Move.run_cons (hf offset read c hread (hcs c List.mem_cons_self)),
      ih (List.cons_ne_nil _ _) fun c hc ↦ hcs c (List.mem_cons_of_mem _ hc), List.reverse_cons,
      List.append_assoc, List.singleton_append]

theorem NameStart.push?_isName {space : Option (List Char)} {read : List Char} (hread : read ≠ [])
    {c : Char} (hc : isName c = true) :
    NameStart.push? .octets ⟨space, read⟩ c = some ⟨space, c :: read⟩ := by
  rw [push?]
  split
  · rename_i h
    exact absurd h hread
  · rw [Writing.isName_octets, if_pos hc]

theorem NameStart.push?_eq_none {space : Option (List Char)} {read : List Char} (hread : read ≠ [])
    {c : Char} (hc : isName c = false) (hcolon : c ≠ ':') :
    NameStart.push? .octets ⟨space, read⟩ c = none := by
  rw [push?]
  split
  · rename_i h
    exact absurd h hread
  · rw [Writing.isName_octets, if_neg (by simp [hc]), if_neg (by simp [hcolon])]

/-- The characters of a name with the last one first, as a token keeps them. -/
def LocalName.read (n : LocalName) : List Char := n.rest.reverse ++ [n.first]

theorem LocalName.read_ne_nil (n : LocalName) : n.read ≠ [] :=
  List.append_ne_nil_of_right_ne_nil _ (List.cons_ne_nil _ _)

theorem LocalName.ofList_reverse_read (n : LocalName) : String.ofList n.read.reverse = n.text := by
  rw [read, List.reverse_append, List.reverse_reverse]
  rfl

theorem NameStart.finish?_read (n : LocalName) :
    NameStart.finish? ⟨none, n.read⟩ = some ⟨none, n.text⟩ := by
  rw [finish?]
  split
  · rename_i h
    exact absurd h n.read_ne_nil
  · rw [n.ofList_reverse_read]
    rfl

/-! ## References -/

theorem numbered?_toNat {c : Char} (hc : isLegal c = true) : numbered? c.toNat = some c := by
  rw [numbered?, dif_pos (show c.toNat.isValidChar from c.valid)]
  exact if_pos hc

theorem run_digits {cs : List Char} (h : ∀ c ∈ cs, c.isDigit = true) (offset n : Nat) :
    Move.run (fun _ ↦ Reference.Start.step .octets) offset (.decimal n) cs
      = some (.decimal (Nat.ofDigitChars 10 cs n)) := by
  induction cs generalizing offset n with
  | nil => rfl
  | cons c cs ih =>
    have hstep : Reference.Start.step .octets (.decimal n) c
        = .more (.decimal (10 * n + (c.toNat - '0'.toNat))) :=
      if_pos (h c List.mem_cons_self)
    rw [Move.run_cons hstep, ih (fun c hc ↦ h c (List.mem_cons_of_mem _ hc)),
      Nat.ofDigitChars_cons]

theorem run_referenceTo {c : Char} (hc : isLegal c = true) :
    ∃ s r, (∀ offset, Move.run (fun _ ↦ Reference.Start.step .octets) offset .empty (referenceTo c)
        = some s) ∧ s.step .octets ';' = .done r ∧ r.char? = some c := by
  unfold referenceTo
  split
  · exact ⟨.name ['p', 'm', 'a'], .entity "amp", fun _ ↦ rfl, rfl, rfl⟩
  · exact ⟨.name ['t', 'l'], .entity "lt", fun _ ↦ rfl, rfl, rfl⟩
  · exact ⟨.name ['t', 'g'], .entity "gt", fun _ ↦ rfl, rfl, rfl⟩
  · exact ⟨.name ['t', 'o', 'u', 'q'], .entity "quot", fun _ ↦ rfl, rfl, rfl⟩
  · exact ⟨.name ['s', 'o', 'p', 'a'], .entity "apos", fun _ ↦ rfl, rfl, rfl⟩
  · refine ⟨.decimal c.toNat, .number c.toNat, fun offset ↦ ?_, rfl, numbered?_toNat hc⟩
    have hdigits : ∀ d ∈ Nat.toDigits 10 c.toNat, d.isDigit = true := fun d hd ↦
      Nat.isDigit_of_mem_toDigits (by decide) (by decide) hd
    have hvalue := Nat.ofDigitChars_toDigits (n := c.toNat) (by decide : 1 < 10) (by decide)
    cases hds : Nat.toDigits 10 c.toNat with
    | nil => exact absurd hds Nat.toDigits_ne_nil
    | cons d ds =>
      rw [hds] at hdigits hvalue
      have hd : d.isDigit = true := hdigits d List.mem_cons_self
      have hx : d ≠ 'x' := fun h ↦ by rw [h] at hd; exact absurd hd (by decide)
      have hfirst : Reference.Start.step .octets .hash d
          = .more (.decimal (d.toNat - '0'.toNat)) := by
        simp only [Reference.Start.step, if_neg hx, if_pos hd]
      have hhash : Reference.Start.step .octets .empty '#' = .more .hash := rfl
      rw [Move.run_cons hhash, Move.run_cons hfirst,
        run_digits fun c hc ↦ hdigits c (List.mem_cons_of_mem _ hc)]
      rw [Nat.ofDigitChars_cons, Nat.mul_zero, Nat.zero_add] at hvalue
      rw [hvalue]

end VectorLint.Markup
