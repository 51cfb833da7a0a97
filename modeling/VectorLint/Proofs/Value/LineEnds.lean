import VectorLint.Proofs.Value.Reading
import VectorLint.Text.Pieces

/-!
# JSON text and line ends

Line ends are blanks between the parts of a JSON text, and never stand inside a part: a string that
holds one as it is has no value. So a text may be given with any line ends, and its value is the
same when all of them are made single line feeds before it is read.
-/

namespace VectorLint

open Text (plainLineEnds)

/-! ## Plain line ends -/

namespace Text

variable {c : Char} {cs ds : List Char}

@[simp] theorem plainLineEnds_nil : plainLineEnds [] = [] := rfl

@[simp] theorem plainLineEnds_cons (h : c ≠ '\r') :
    plainLineEnds (c :: cs) = c :: plainLineEnds cs := by
  rw [plainLineEnds]
  · exact fun _ hc ↦ absurd hc h
  · exact h

theorem exists_plainLineEnds_return (cs : List Char) :
    ∃ ds, plainLineEnds ('\r' :: cs) = '\n' :: ds := by
  rw [plainLineEnds.eq_def]
  split
  · exact ⟨_, rfl⟩
  · exact ⟨_, rfl⟩
  · rename_i hne heq
    exact absurd (List.cons.inj heq).1.symm hne
  · rename_i heq
    cases heq

theorem exists_of_plainLineEnds_eq_cons (h : plainLineEnds cs = c :: ds) (hc : c ≠ '\n') :
    ∃ more, cs = c :: more ∧ plainLineEnds more = ds := by
  cases cs with
  | nil => cases h
  | cons b cs =>
    by_cases hb : b = '\r'
    · obtain ⟨ds, hds⟩ := exists_plainLineEnds_return cs
      rw [hb, hds] at h
      exact absurd (List.cons.inj h).1.symm hc
    · rw [plainLineEnds_cons hb, List.cons.injEq] at h
      exact ⟨cs, by rw [h.1], h.2⟩

theorem length_plainLineEnds_le (cs : List Char) : (plainLineEnds cs).length ≤ cs.length := by
  induction cs using plainLineEnds.induct with
  | case1 cs ih =>
    rw [plainLineEnds, List.length_cons, List.length_cons, List.length_cons]
    omega
  | case2 cs hne ih =>
    rw [plainLineEnds, List.length_cons, List.length_cons]
    · omega
    · exact hne
  | case3 c cs hne hc ih =>
    rw [plainLineEnds_cons hc, List.length_cons, List.length_cons]
    omega
  | case4 => exact Nat.le_refl _

theorem plainLineEnds_eq_nil_iff : plainLineEnds cs = [] ↔ cs = [] := by
  refine ⟨fun h ↦ ?_, fun h ↦ by rw [h, plainLineEnds_nil]⟩
  cases cs with
  | nil => rfl
  | cons b cs =>
    by_cases hb : b = '\r'
    · obtain ⟨ds, hds⟩ := exists_plainLineEnds_return cs
      rw [hb, hds] at h
      cases h
    · rw [plainLineEnds_cons hb] at h
      cases h

theorem takeWhile_plainLineEnds {p : Char → Bool} (hreturn : p '\r' = false)
    (hfeed : p '\n' = false) (cs : List Char) :
    (plainLineEnds cs).takeWhile p = cs.takeWhile p
      ∧ (plainLineEnds cs).dropWhile p = plainLineEnds (cs.dropWhile p) := by
  induction cs with
  | nil => exact ⟨rfl, rfl⟩
  | cons c cs ih =>
    by_cases hc : c = '\r'
    · obtain ⟨ds, hds⟩ := exists_plainLineEnds_return cs
      subst hc
      simp [hds, hreturn, hfeed]
    · rw [plainLineEnds_cons hc]
      cases hp : p c <;> simp [hp, hc, ih]

end Text

namespace Json

open Attempt Text

variable {fuel depth : ℕ} {cs rest : List Char}

theorem skipSpace_plainLineEnds (cs : List Char) :
    skipSpace (plainLineEnds cs) = plainLineEnds (skipSpace cs) := by
  induction cs using plainLineEnds.induct with
  | case1 cs ih => exact ih
  | case2 cs hne ih =>
    rw [plainLineEnds]
    · exact ih
    · exact hne
  | case3 c cs hne hc ih =>
    rw [plainLineEnds_cons hc]
    cases hspace : isSpace c with
    | true => simpa [skipSpace, hspace] using ih
    | false => simp [skipSpace, hspace, plainLineEnds_cons hc]
  | case4 => rfl

/-! ## What is left -/

theorem suffix_of_wholeDigits {digits : List Char} (h : wholeDigits cs = some (digits, rest)) :
    rest <:+ cs := by
  rw [wholeDigits.eq_def] at h
  split at h
  · cases h
    exact List.suffix_cons _ _
  · simp only [Option.ite_none_left_eq_some, Option.some.injEq, Prod.mk.injEq] at h
    exact h.2.2 ▸ List.dropWhile_suffix _

theorem suffix_of_fractionDigits {digits : List Char}
    (h : fractionDigits cs = some (digits, rest)) : rest <:+ cs := by
  rw [fractionDigits.eq_def] at h
  split at h
  · simp only [Option.ite_none_left_eq_some, Option.some.injEq, Prod.mk.injEq] at h
    exact (h.2.2 ▸ List.dropWhile_suffix _).trans (List.suffix_cons _ _)
  · cases h

theorem suffix_of_exponentDigits {e : ℤ} (h : exponentDigits cs = some (e, rest)) :
    rest <:+ cs := by
  rw [exponentDigits.eq_def] at h
  split at h
  · simp only at h
    split at h
    · simp only [Option.ite_none_left_eq_some, Option.some.injEq, Prod.mk.injEq] at h
      refine ((h.2.2 ▸ List.dropWhile_suffix _).trans ?_).trans (List.suffix_cons _ _)
      split
      · exact List.suffix_cons _ _
      · exact List.suffix_cons _ _
      · exact List.suffix_refl _
    · cases h
  · cases h

theorem suffix_of_number {v : Value} (h : number cs = .ok (v, rest)) : rest <:+ cs := by
  rw [number.eq_def] at h
  simp only at h
  split at h
  · cases h
  rename_i whole more hwhole
  have hmore : more <:+ cs := by
    refine (suffix_of_wholeDigits hwhole).trans ?_
    split
    · exact List.suffix_cons _ _
    · exact List.suffix_refl _
  refine List.IsSuffix.trans ?_ hmore
  cases hfraction : fractionDigits more with
  | none =>
    simp only [hfraction] at h
    cases hexponent : exponentDigits more with
    | none =>
      simp only [hexponent] at h
      by_cases hlength : whole.length > maxDigits
      · rw [if_pos hlength] at h
        cases h
      · rw [if_neg hlength] at h
        cases h
        exact List.suffix_refl _
    | some q =>
      simp only [hexponent] at h
      cases h
      exact suffix_of_exponentDigits hexponent
  | some p =>
    simp only [hfraction] at h
    refine List.IsSuffix.trans ?_ (suffix_of_fractionDigits hfraction)
    cases hexponent : exponentDigits p.2 with
    | none =>
      simp only [hexponent] at h
      cases h
      exact List.suffix_refl _
    | some q =>
      simp only [hexponent] at h
      cases h
      exact suffix_of_exponentDigits hexponent

theorem suffix_of_word? {v : Value} (h : word? cs = some (v, rest)) : rest <:+ cs := by
  rw [word?.eq_def] at h
  split at h <;> cases h <;> simp [List.suffix_cons_iff]

/-! ## Numbers -/

/-- What is read at the head of a text, with plain line ends in the rest. -/
def plainRest {α : Type} (read : α × List Char) : α × List Char := (read.1, plainLineEnds read.2)

theorem wholeDigits_plainLineEnds (cs : List Char) :
    wholeDigits (plainLineEnds cs) = (wholeDigits cs).map plainRest := by
  obtain ⟨htake, hdrop⟩ := takeWhile_plainLineEnds (p := Char.isDigit) rfl rfl cs
  rw [wholeDigits.eq_def, wholeDigits.eq_def]
  split
  · rename_i ds heq
    obtain ⟨more, rfl, rfl⟩ := exists_of_plainLineEnds_eq_cons heq (by decide)
    rfl
  · rename_i hne
    split
    · exact absurd (plainLineEnds_cons (by decide)) (hne _)
    · simp only [htake, hdrop]
      split <;> rfl

theorem fractionDigits_plainLineEnds (cs : List Char) :
    fractionDigits (plainLineEnds cs) = (fractionDigits cs).map plainRest := by
  rw [fractionDigits.eq_def, fractionDigits.eq_def]
  split
  · rename_i ds heq
    obtain ⟨more, rfl, rfl⟩ := exists_of_plainLineEnds_eq_cons heq (by decide)
    obtain ⟨htake, hdrop⟩ := takeWhile_plainLineEnds (p := Char.isDigit) rfl rfl more
    simp only [htake, hdrop]
    split <;> rfl
  · rename_i hne
    split
    · exact absurd (plainLineEnds_cons (by decide)) (hne _)
    · rfl

theorem exponentDigits_plainLineEnds (cs : List Char) :
    exponentDigits (plainLineEnds cs) = (exponentDigits cs).map plainRest := by
  have hdigits (cs : List Char) :=
    takeWhile_plainLineEnds (p := Char.isDigit) rfl rfl cs
  cases cs with
  | nil => rfl
  | cons e cs =>
    by_cases he : e = '\r'
    · obtain ⟨ds, hds⟩ := exists_plainLineEnds_return cs
      rw [he, hds]
      rfl
    · rw [plainLineEnds_cons he, exponentDigits.eq_def, exponentDigits.eq_def]
      simp only
      split
      · -- with a sign and without
        split
        · rename_i heq
          obtain ⟨more, rfl, rfl⟩ := exists_of_plainLineEnds_eq_cons heq (by decide)
          simp only [hdigits]
          split <;> rfl
        · rename_i heq
          obtain ⟨more, rfl, rfl⟩ := exists_of_plainLineEnds_eq_cons heq (by decide)
          simp only [hdigits]
          split <;> rfl
        · rename_i hminus hplus
          have hminus' (more : List Char) : cs ≠ '-' :: more := fun h ↦
            hminus _ (h ▸ plainLineEnds_cons (by decide))
          have hplus' (more : List Char) : cs ≠ '+' :: more := fun h ↦
            hplus _ (h ▸ plainLineEnds_cons (by decide))
          simp only [hdigits]
          split <;> rfl
      · rfl

theorem toOption_number_plainLineEnds (cs : List Char) :
    (number (plainLineEnds cs)).toOption = (number cs).toOption.map plainRest := by
  have hsign : (∃ unsigned, '-' :: unsigned = cs)
      ∨ ∃ unsigned, unsigned = cs ∧ (∀ more, cs ≠ '-' :: more)
        ∧ ∀ more, plainLineEnds cs ≠ '-' :: more := by
    by_cases hcs : ∃ unsigned, '-' :: unsigned = cs
    · exact .inl hcs
    · refine .inr ⟨cs, rfl, fun more heq ↦ hcs ⟨more, heq.symm⟩, fun ds heq ↦ hcs ?_⟩
      obtain ⟨more, heq, -⟩ := exists_of_plainLineEnds_eq_cons heq (by decide)
      exact ⟨more, heq.symm⟩
  have hminus (more : List Char) : plainLineEnds ('-' :: more) = '-' :: plainLineEnds more :=
    plainLineEnds_cons (by decide)
  rw [number.eq_def, number.eq_def]
  -- with a sign and without
  rcases hsign with ⟨unsigned, rfl⟩ | ⟨unsigned, rfl, hne, hne'⟩
  all_goals
    simp only [hminus, wholeDigits_plainLineEnds]
    cases wholeDigits unsigned with
    | none => rfl
    | some p =>
      simp only [Option.map_some, plainRest, fractionDigits_plainLineEnds]
      cases fractionDigits p.2 with
      | none =>
        simp only [Option.map_none, exponentDigits_plainLineEnds]
        cases exponentDigits p.2 with
        | none =>
          simp only [Option.map_none]
          split <;> rfl
        | some q => rfl
      | some q =>
        simp only [Option.map_some, plainRest, exponentDigits_plainLineEnds]
        cases exponentDigits q.2 <;> rfl

theorem word?_plainLineEnds {v : Value} (h : word? cs = some (v, rest)) :
    word? (plainLineEnds cs) = some (v, plainLineEnds rest) := by
  rw [word?.eq_def] at h
  split at h <;> cases h <;> simp [word?]

/-! ## Strings -/

/-- Whether a text is the rest of a string and what stands behind its closing quote, once as many
characters are skipped as belong to an escape that has been read. -/
inductive IsString : ℕ → List Char → List Char → List Char → Prop
  | quote {cs : List Char} : IsString 0 ('"' :: cs) [] cs
  | skip {skip : ℕ} {c : Char} {cs s rest : List Char} (h : IsString skip cs s rest) :
    IsString (skip + 1) (c :: cs) s rest
  | numbered {c : Char} {taken : ℕ} {cs s rest : List Char}
    (hescape : numberedEscape ('u' :: cs) = .ok (c, taken))
    (h : IsString taken ('u' :: cs) s rest) : IsString 0 ('\\' :: 'u' :: cs) (c :: s) rest
  | short {mark c : Char} {cs s rest : List Char} (hescape : shortEscape? mark = some c)
    (h : IsString 1 (mark :: cs) s rest) : IsString 0 ('\\' :: mark :: cs) (c :: s) rest
  | plain {c : Char} {cs s rest : List Char} (hquote : c ≠ '"') (hslash : c ≠ '\\')
    (hcontrol : ¬ c.toNat < 0x20) (h : IsString 0 cs s rest) : IsString 0 (c :: cs) (c :: s) rest

section

variable {unread skip : ℕ} {s : List Char}

theorem isString_of_stringRest (h : stringRest unread skip cs = .ok (s, rest)) :
    IsString skip cs s rest := by
  induction cs generalizing skip s with
  | nil => cases h
  | cons c cs ih =>
    rw [stringRest.eq_def] at h
    simp only at h
    split at h
    · exact .skip (ih h)
    · split at h
      · subst c
        cases h
        exact .quote
      · rename_i hquote
        split at h
        · subst c
          split at h
          · cases h
          · obtain ⟨⟨c, taken⟩, hescape, h⟩ := exists_of_bind_eq_ok h
            obtain ⟨⟨s, left⟩, hleft, h⟩ := exists_of_bind_eq_ok h
            cases h
            exact .numbered hescape (ih hleft)
          · split at h
            · cases h
            · rename_i c hescape
              obtain ⟨⟨s, left⟩, hleft, h⟩ := exists_of_bind_eq_ok h
              cases h
              exact .short hescape (ih hleft)
        · rename_i hslash
          split at h
          · cases h
          · rename_i hcontrol
            obtain ⟨⟨s, left⟩, hleft, h⟩ := exists_of_bind_eq_ok h
            cases h
            exact .plain hquote hslash hcontrol (ih hleft)

theorem IsString.stringRest_eq_ok (h : IsString skip cs s rest) (unread : ℕ) :
    stringRest unread skip cs = .ok (s, rest) := by
  induction h with
  | quote => rfl
  | skip _ ih => exact ih
  | numbered hescape _ ih =>
    rw [stringRest.eq_def]
    simp only [hescape, ih, bind, Except.bind]
    rfl
  | short hescape _ ih =>
    rw [stringRest.eq_def]
    simp only [Char.reduceEq, reduceIte]
    split
    · rename_i heq
      cases heq
    · -- the mark of a numbered escape is none of a short one
      rename_i heq
      cases heq
      cases hescape
    · rename_i heq
      cases heq
      simp only [hescape, ih, bind, Except.bind]
      rfl
  | plain hquote hslash hcontrol _ ih =>
    rw [stringRest.eq_def]
    simp only [if_neg hquote, if_neg hslash, if_neg hcontrol, ih, bind, Except.bind]
    rfl

theorem IsString.suffix (h : IsString skip cs s rest) : rest <:+ cs := by
  induction h with
  | quote => exact List.suffix_cons _ _
  | skip _ ih => exact ih.trans (List.suffix_cons _ _)
  | numbered _ _ ih => exact ih.trans (List.suffix_cons _ _)
  | short _ _ ih => exact ih.trans (List.suffix_cons _ _)
  | plain _ _ _ _ ih => exact ih.trans (List.suffix_cons _ _)

end

theorem ne_return_of_hexValue? {c : Char} {n : ℕ} (h : hexValue? c = some n) : c ≠ '\r' := by
  rintro rfl
  cases h

theorem ne_return_of_hexNumber? {a b c d : Char} {n : ℕ} (h : hexNumber? a b c d = some n) :
    a ≠ '\r' ∧ b ≠ '\r' ∧ c ≠ '\r' ∧ d ≠ '\r' := by
  simp only [hexNumber?, Option.bind_eq_bind, Option.bind_eq_some_iff] at h
  obtain ⟨_, ha, _, hb, _, hc, _, hd, -⟩ := h
  exact ⟨ne_return_of_hexValue? ha, ne_return_of_hexValue? hb, ne_return_of_hexValue? hc,
    ne_return_of_hexValue? hd⟩

theorem ne_return_of_shortEscape? {c c' : Char} (h : shortEscape? c = some c') : c ≠ '\r' := by
  rintro rfl
  cases h

theorem stringRest_short_escape {unread : ℕ} {e f g h : Char} {p : List Char × List Char} :
    stringRest unread 0 ['\\', 'u', e, f, g, h] ≠ .ok p := by
  intro hread
  cases hread

theorem numberedEscape_plainLineEnds {first escaped : Char} {taken : ℕ} {s : List Char}
    (h : numberedEscape (first :: cs) = .ok (escaped, taken)) (hfirst : first ≠ '\r')
    (hread : IsString taken (first :: cs) s rest) :
    numberedEscape (first :: plainLineEnds cs) = .ok (escaped, taken)
      ∧ ∀ c ∈ (first :: cs).take taken, c ≠ '\r' := by
  rw [numberedEscape.eq_def] at h
  split at h
  · rename_i a b c d next tail heq
    obtain ⟨rfl, rfl⟩ := List.cons.inj heq
    split at h
    · cases h
    · rename_i high hhigh
      obtain ⟨ha, hb, hc, hd⟩ := ne_return_of_hexNumber? hhigh
      have hunit : ∀ x ∈ (first :: a :: b :: c :: d :: next :: tail).take 5, x ≠ '\r' := by
        simp only [List.take_succ_cons, List.take_zero, List.forall_mem_cons]
        exact ⟨hfirst, ha, hb, hc, hd, List.forall_mem_nil _⟩
      simp only [plainLineEnds_cons ha, plainLineEnds_cons hb, plainLineEnds_cons hc,
        plainLineEnds_cons hd]
      split at h
      · rename_i e f g k more hpair
        split at h
        · cases h
          exact absurd (hread.stringRest_eq_ok 0) stringRest_short_escape
        · cases h
        · rename_i low hmore hlow
          obtain ⟨he, hf, hg, hk⟩ := ne_return_of_hexNumber? hlow
          obtain ⟨next, tail, hnext⟩ :=
            List.exists_cons_of_ne_nil (plainLineEnds_eq_nil_iff.not.mpr hmore)
          rw [plainLineEnds_cons (by decide), plainLineEnds_cons (by decide),
            plainLineEnds_cons he, plainLineEnds_cons hf, plainLineEnds_cons hg,
            plainLineEnds_cons hk, hnext]
          simp only [numberedEscape, hhigh, hpair, hlow]
          refine ⟨h, ?_⟩
          split at h
          · simp only [Except.ok.injEq, Prod.mk.injEq] at h
            simp only [← h.2, List.take_succ_cons, List.take_zero, List.forall_mem_cons]
            exact ⟨hfirst, ha, hb, hc, hd, by decide, by decide, he, hf, hg, hk,
              List.forall_mem_nil _⟩
          · cases h
            exact hunit
      · rename_i next tail _ _ _ hne
        cases h
        refine ⟨?_, hunit⟩
        obtain ⟨next', tail', hnext⟩ := List.exists_cons_of_ne_nil
          (plainLineEnds_eq_nil_iff.not.mpr (List.cons_ne_nil next tail))
        rw [hnext]
        simp only [numberedEscape, hhigh]
        split
        · -- what is no pair does not become one, since the text gets no longer
          rename_i e f g k more hpair
          obtain ⟨_, heq, hmark⟩ := exists_of_plainLineEnds_eq_cons hnext (by decide)
          obtain ⟨behind, rfl, hbehind⟩ := exists_of_plainLineEnds_eq_cons hmark (by decide)
          obtain ⟨rfl, rfl⟩ := List.cons.inj heq
          have hlength : 4 ≤ behind.length := by
            refine Nat.le_trans ?_ (length_plainLineEnds_le behind)
            rw [hbehind]
            simp
          obtain _ | ⟨_, _ | ⟨_, _ | ⟨_, _ | ⟨_, _⟩⟩⟩⟩ := behind
          · simp at hlength
          · simp at hlength
          · simp at hlength
          · simp at hlength
          · exact (hne _ _ _ _ _ hpair rfl rfl).elim
        · rfl
  · cases h

theorem isString_plainLineEnds {skip : ℕ} {s : List Char} (h : IsString skip cs s rest)
    (hskip : ∀ c ∈ cs.take skip, c ≠ '\r') :
    IsString skip (plainLineEnds cs) s (plainLineEnds rest) := by
  induction h with
  | quote =>
    rw [plainLineEnds_cons (by decide)]
    exact .quote
  | skip _ ih =>
    rw [List.take_succ_cons, List.forall_mem_cons] at hskip
    rw [plainLineEnds_cons hskip.1]
    exact .skip (ih hskip.2)
  | numbered hescape h ih =>
    obtain ⟨hescape', htaken⟩ := numberedEscape_plainLineEnds hescape (by decide) h
    have hrest := ih htaken
    rw [plainLineEnds_cons (by decide)] at hrest
    rw [plainLineEnds_cons (by decide), plainLineEnds_cons (by decide)]
    exact .numbered hescape' hrest
  | short hescape _ ih =>
    have hmark := ne_return_of_shortEscape? hescape
    have hrest := ih (List.forall_mem_singleton.mpr hmark)
    rw [plainLineEnds_cons hmark] at hrest
    rw [plainLineEnds_cons (by decide), plainLineEnds_cons hmark]
    exact .short hescape hrest
  | @plain c _ _ _ hquote hslash hcontrol _ ih =>
    have hreturn : c ≠ '\r' := by
      rintro rfl
      exact hcontrol (by decide)
    rw [plainLineEnds_cons hreturn]
    exact .plain hquote hslash hcontrol (ih (List.forall_mem_nil _))

/-! ## Values -/

theorem number_ne_ok_of_word? {p q : Value × List Char} (h : word? cs = some q) :
    number cs ≠ .ok p := by
  rw [word?.eq_def] at h
  intro hnumber
  split at h
  on_goal 7 => cases h
  all_goals cases hnumber

theorem number_plainLineEnds {v : Value} (h : number cs = .ok (v, rest)) :
    number (plainLineEnds cs) = .ok (v, plainLineEnds rest) := by
  have hplain := toOption_number_plainLineEnds cs
  rw [h] at hplain
  cases hnumber : number (plainLineEnds cs) with
  | error fault =>
    rw [hnumber] at hplain
    cases hplain
  | ok p =>
    rw [hnumber] at hplain
    exact congrArg _ (Option.some.inj hplain)

/-- Whether what is read of a text is also read of it with plain line ends, with so much fuel more
than two for each character. -/
def IsReadPlain {α : Type} (read : ℕ → List Char → Except Fault (α × List Char)) (extra : ℕ)
    (cs : List Char) (a : α) (rest : List Char) : Prop :=
  (plainLineEnds rest).length ≤ (plainLineEnds cs).length
    ∧ ∀ fuel, 2 * (plainLineEnds cs).length + extra ≤ fuel →
      read fuel (plainLineEnds cs) = .ok (a, plainLineEnds rest)

/-- Whether all that is read with some fuel is read with plain line ends. -/
structure ReadsPlain (fuel : ℕ) : Prop where
  value : ∀ {depth cs v rest}, Json.value fuel depth cs = .ok (v, rest) →
    IsReadPlain (Json.value · depth) 0 cs v rest
  items : ∀ {depth cs vs rest}, Json.items fuel depth cs = .ok (vs, rest) →
    IsReadPlain (Json.items · depth) 1 cs vs rest
  fields : ∀ {depth read cs fs rest}, Json.fields fuel depth read cs = .ok (fs, rest) →
    IsReadPlain (Json.fields · depth read) 1 cs fs rest

theorem skipSpace_plainLineEnds_eq_cons {c : Char} (h : skipSpace cs = c :: rest) (hc : c ≠ '\r') :
    skipSpace (plainLineEnds cs) = c :: plainLineEnds rest
      ∧ (plainLineEnds rest).length < (plainLineEnds cs).length := by
  have hcs : skipSpace (plainLineEnds cs) = c :: plainLineEnds rest := by
    rw [skipSpace_plainLineEnds, h, plainLineEnds_cons hc]
  have hle : (skipSpace (plainLineEnds cs)).length ≤ (plainLineEnds cs).length :=
    (List.dropWhile_suffix isSpace).length_le
  exact ⟨hcs, by rwa [hcs] at hle⟩

theorem skipSpace_plainLineEnds_ne_cons {c : Char} (h : ∀ more, skipSpace cs = c :: more → False)
    (hc : c ≠ '\n') (more : List Char) : skipSpace (plainLineEnds cs) ≠ c :: more := by
  intro heq
  rw [skipSpace_plainLineEnds] at heq
  obtain ⟨more, heq, -⟩ := exists_of_plainLineEnds_eq_cons heq hc
  exact h more heq

section

variable {α β : Type} {inner : ℕ → List Char → Except Fault (α × List Char)}
  {outer : ℕ → List Char → Except Fault (β × List Char)} {a : α} {b : β} {c : Char} {extra : ℕ}

theorem IsReadPlain.skip (h : IsReadPlain inner extra (skipSpace cs) a rest) :
    (plainLineEnds rest).length ≤ (plainLineEnds cs).length
      ∧ ∀ fuel, 2 * (plainLineEnds cs).length + extra ≤ fuel →
        inner fuel (skipSpace (plainLineEnds cs)) = .ok (a, plainLineEnds rest) := by
  obtain ⟨hle, hread⟩ := h
  rw [← skipSpace_plainLineEnds] at hle hread
  have hskip : (skipSpace (plainLineEnds cs)).length ≤ (plainLineEnds cs).length :=
    (List.dropWhile_suffix isSpace).length_le
  exact ⟨by omega, fun fuel hfuel ↦ hread fuel (by omega)⟩

theorem IsReadPlain.behind (h : IsReadPlain inner 1 (skipSpace cs) a rest) (hc : c ≠ '\r')
    (hstep : ∀ fuel, inner fuel (skipSpace (plainLineEnds cs)) = .ok (a, plainLineEnds rest) →
      outer (fuel + 1) (c :: plainLineEnds cs) = .ok (b, plainLineEnds rest)) :
    IsReadPlain outer 0 (c :: cs) b rest := by
  obtain ⟨hle, hread⟩ := h.skip
  rw [IsReadPlain, plainLineEnds_cons hc, List.length_cons]
  refine ⟨by omega, fun fuel hfuel ↦ ?_⟩
  obtain ⟨fuel, rfl⟩ := Nat.exists_eq_add_one.mpr (show 0 < fuel by omega)
  exact hstep fuel (hread fuel (by omega))

theorem IsReadPlain.empty {close : Char} (h : skipSpace cs = close :: rest) (hclose : close ≠ '\r')
    (hc : c ≠ '\r')
    (hstep : ∀ fuel, skipSpace (plainLineEnds cs) = close :: plainLineEnds rest →
      outer (fuel + 1) (c :: plainLineEnds cs) = .ok (b, plainLineEnds rest)) :
    IsReadPlain outer 0 (c :: cs) b rest := by
  obtain ⟨hskip, hlt⟩ := skipSpace_plainLineEnds_eq_cons h hclose
  rw [IsReadPlain, plainLineEnds_cons hc, List.length_cons]
  refine ⟨by omega, fun fuel hfuel ↦ ?_⟩
  obtain ⟨fuel, rfl⟩ := Nat.exists_eq_add_one.mpr (show 0 < fuel by omega)
  exact hstep fuel hskip

end

namespace ReadsPlain

theorem isReadPlain_of_plain {v : Value}
    (h : ∀ fuel, Json.value (fuel + 1) depth (plainLineEnds cs) = .ok (v, plainLineEnds rest))
    (hrest : plainLineEnds rest <:+ plainLineEnds cs) :
    IsReadPlain (Json.value · depth) 0 cs v rest := by
  refine ⟨hrest.length_le, fun fuel hfuel ↦ ?_⟩
  have hne : plainLineEnds cs ≠ [] := by
    intro heq
    have hread := h 0
    rw [heq] at hread
    cases hread
  have hpos := List.length_pos_iff.mpr hne
  obtain ⟨fuel, rfl⟩ := Nat.exists_eq_add_one.mpr (show 0 < fuel by omega)
  exact h fuel

theorem value_succ (h : ReadsPlain fuel) {v : Value}
    (hread : Json.value (fuel + 1) depth cs = .ok (v, rest)) :
    IsReadPlain (Json.value · depth) 0 cs v rest := by
  rw [Json.value.eq_def] at hread
  simp only at hread
  split at hread
  · rename_i cs
    obtain ⟨p, hs, hp⟩ := exists_of_map_eq_ok hread
    cases hp
    have hs' := isString_plainLineEnds (isString_of_stringRest hs) (List.forall_mem_nil _)
    refine isReadPlain_of_plain (fun fuel ↦ ?_) ?_
    · rw [plainLineEnds_cons (by decide), Json.value.eq_def]
      simp only [hs'.stringRest_eq_ok, Except.map]
    · rw [plainLineEnds_cons (by decide)]
      exact hs'.suffix.trans (List.suffix_cons _ _)
  · rename_i cs
    split at hread
    · cases hread
    · split at hread
      · rename_i hclose
        cases hread
        refine .empty hclose (by decide) (by decide) fun fuel hclose' ↦ ?_
        rw [Json.value.eq_def]
        simp only [hclose']
      · rename_i hne
        obtain ⟨p, hitems, hp⟩ := exists_of_map_eq_ok hread
        cases hp
        exact (h.items hitems).behind (by decide) fun fuel hitems' ↦
          value_list hitems' (skipSpace_plainLineEnds_ne_cons hne (by decide))
  · rename_i cs
    split at hread
    · cases hread
    · split at hread
      · rename_i hclose
        cases hread
        refine .empty hclose (by decide) (by decide) fun fuel hclose' ↦ ?_
        rw [Json.value.eq_def]
        simp only [hclose']
      · rename_i hne
        obtain ⟨p, hfields, hp⟩ := exists_of_map_eq_ok hread
        cases hp
        exact (h.fields hfields).behind (by decide) fun fuel hfields' ↦
          value_object hfields' (skipSpace_plainLineEnds_ne_cons hne (by decide))
  · rename_i hquote hlist hobject
    have hhead {c : Char} (hc : c ≠ '\n') (hne : ∀ more, cs = c :: more → False) (ds : List Char)
        (heq : plainLineEnds cs = c :: ds) : False := by
      obtain ⟨more, heq, -⟩ := exists_of_plainLineEnds_eq_cons heq hc
      exact hne more heq
    refine isReadPlain_of_plain (fun fuel ↦ ?_) ?_
    · rw [Json.value.eq_def]
      simp only
      split
      · rename_i heq
        exact (hhead (by decide) hquote _ heq).elim
      · rename_i heq
        exact (hhead (by decide) hlist _ heq).elim
      · rename_i heq
        exact (hhead (by decide) hobject _ heq).elim
      · split at hread
        · rename_i hword
          cases hread
          rw [word?_plainLineEnds hword]
        · have hnumber := number_plainLineEnds hread
          split
          · rename_i hword
            exact absurd hnumber (number_ne_ok_of_word? hword)
          · exact hnumber
    · split at hread
      · rename_i hword
        cases hread
        exact suffix_of_word? (word?_plainLineEnds hword)
      · exact suffix_of_number (number_plainLineEnds hread)

theorem items_succ (h : ReadsPlain fuel) {vs : List Value}
    (hread : Json.items (fuel + 1) depth cs = .ok (vs, rest)) :
    IsReadPlain (Json.items · depth) 1 cs vs rest := by
  obtain ⟨⟨v, more⟩, hvalue, hread⟩ := exists_of_bind_eq_ok hread
  obtain ⟨hle, hvalue'⟩ := h.value hvalue
  simp only at hread
  split at hread
  · rename_i hmore
    cases hread
    obtain ⟨hmore', hlt⟩ := skipSpace_plainLineEnds_eq_cons hmore (by decide)
    refine ⟨by omega, fun fuel hfuel ↦ ?_⟩
    obtain ⟨fuel, rfl⟩ := Nat.exists_eq_add_one.mpr (show 0 < fuel by omega)
    exact items_last (hvalue' fuel (by omega)) hmore'
  · rename_i hmore
    obtain ⟨p, hitems, hp⟩ := exists_of_map_eq_ok hread
    cases hp
    obtain ⟨hmore', hlt⟩ := skipSpace_plainLineEnds_eq_cons hmore (by decide)
    obtain ⟨hle', hitems'⟩ := (h.items hitems).skip
    refine ⟨by omega, fun fuel hfuel ↦ ?_⟩
    obtain ⟨fuel, rfl⟩ := Nat.exists_eq_add_one.mpr (show 0 < fuel by omega)
    exact items_cons (hvalue' fuel (by omega)) hmore' (hitems' fuel (by omega))
  · cases hread

theorem fields_succ (h : ReadsPlain fuel) {read fs : List (String × Value)}
    (hread : Json.fields (fuel + 1) depth read cs = .ok (fs, rest)) :
    IsReadPlain (Json.fields · depth read) 1 cs fs rest := by
  rw [Json.fields.eq_def] at hread
  simp only at hread
  split at hread
  · obtain ⟨⟨name, more⟩, hname, hread⟩ := exists_of_bind_eq_ok hread
    have hstring := isString_plainLineEnds (isString_of_stringRest hname) (List.forall_mem_nil _)
    have hlength := hstring.suffix.length_le
    have hname' := hstring.stringRest_eq_ok
    rw [IsReadPlain, plainLineEnds_cons (by decide), List.length_cons]
    simp only at hread
    split at hread
    · rename_i hcolon
      obtain ⟨hcolon', hlt⟩ := skipSpace_plainLineEnds_eq_cons hcolon (by decide)
      obtain ⟨⟨v, more⟩, hvalue, hread⟩ := exists_of_bind_eq_ok hread
      obtain ⟨hle, hvalue'⟩ := (h.value hvalue).skip
      simp only at hread
      split at hread
      · rename_i hmore
        cases hread
        obtain ⟨hmore', hlt'⟩ := skipSpace_plainLineEnds_eq_cons hmore (by decide)
        refine ⟨by omega, fun fuel hfuel ↦ ?_⟩
        obtain ⟨fuel, rfl⟩ := Nat.exists_eq_add_one.mpr (show 0 < fuel by omega)
        simp only [Json.fields, hname', hcolon', hvalue' fuel (by omega), hmore', bind, Except.bind]
      · rename_i hmore
        obtain ⟨hmore', hlt'⟩ := skipSpace_plainLineEnds_eq_cons hmore (by decide)
        obtain ⟨hle', hfields'⟩ := (h.fields hread).skip
        refine ⟨by omega, fun fuel hfuel ↦ ?_⟩
        obtain ⟨fuel, rfl⟩ := Nat.exists_eq_add_one.mpr (show 0 < fuel by omega)
        simp only [Json.fields, hname', hcolon', hvalue' fuel (by omega), hmore',
          hfields' fuel (by omega), bind, Except.bind]
      · cases hread
    · cases hread
  · cases hread

end ReadsPlain

theorem readsPlain (fuel : ℕ) : ReadsPlain fuel := by
  induction fuel with
  | zero => exact ⟨fun h ↦ (by cases h), fun h ↦ (by cases h), fun h ↦ (by cases h)⟩
  | succ fuel ih => exact ⟨ih.value_succ, ih.items_succ, ih.fields_succ⟩

/-- **Line ends do not matter to what a JSON text says.** -/
theorem read_plainLineEnds {v : Value} (h : read depth cs = .ok v) :
    read depth (plainLineEnds cs) = .ok v := by
  rw [read.eq_def] at h
  split at h
  · cases h
  · rename_i hmark
    obtain ⟨⟨w, more⟩, hvalue, h⟩ := exists_of_bind_eq_ok h
    obtain ⟨-, hvalue'⟩ := ((readsPlain _).value hvalue).skip
    simp only at h
    split at h
    · rename_i hmore
      cases h
      have hmore' : skipSpace (plainLineEnds more) = [] := by
        rw [skipSpace_plainLineEnds, hmore, plainLineEnds_nil]
      rw [read.eq_def]
      split
      · rename_i heq
        obtain ⟨more, heq, -⟩ := exists_of_plainLineEnds_eq_cons heq (by decide)
        exact (hmark more heq).elim
      · have hvalue := hvalue' (2 * (plainLineEnds cs).length + 2) (by omega)
        simp only [hvalue, hmore', bind, Except.bind]
    · cases h

end Json

end VectorLint
