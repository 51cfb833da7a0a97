import VectorLint.Proofs.Attempt
import VectorLint.Proofs.Value.RoundTrip

/-!
# What is read from JSON text

Every value that is read is one that JSON has, so it can be written and read again without loss.
-/

namespace VectorLint

namespace Json

open Attempt

variable {fuel depth : ℕ} {cs rest : List Char}

/-! ## Numbers -/

theorem decimalValue_lt {digits : List Char} (h : AreDigits digits) :
    decimalValue digits < 10 ^ digits.length := by
  induction digits using List.reverseRecOn with
  | nil => exact Nat.one_pos
  | append_singleton digits c ih =>
    have hc := h c (by simp)
    have hlt := ih fun d hd ↦ h d (List.mem_append_left _ hd)
    rw [decimalValue, List.foldl_append, ← decimalValue, List.length_append, List.length_singleton,
      pow_succ]
    simp only [Char.isDigit, Bool.and_eq_true, decide_eq_true_eq] at hc
    have hle : c.toNat ≤ 57 := hc.2
    simp only [List.foldl_cons, List.foldl_nil, Char.reduceToNat]
    omega

theorem wholeDigits_eq_some {whole : List Char} (h : wholeDigits cs = some (whole, rest)) :
    whole ≠ [] ∧ AreDigits whole := by
  rw [wholeDigits.eq_def] at h
  split at h
  · cases h
    exact ⟨by simp, areDigits_replicate 1⟩
  · simp only [Option.ite_none_left_eq_some, Option.some.injEq, Prod.mk.injEq] at h
    obtain ⟨hne, rfl, -⟩ := h
    exact ⟨by simpa using hne, fun c hc ↦ List.mem_takeWhile_imp hc⟩

theorem length_toDigits_decimalValue_le {digits : List Char} (hne : digits ≠ [])
    (h : AreDigits digits) : (Nat.toDigits 10 (decimalValue digits)).length ≤ digits.length :=
  (Nat.length_toDigits_le_iff (by decide) (List.length_pos_iff.mpr hne)).mpr (decimalValue_lt h)

theorem isJson_of_number {v : Value} (h : number cs = .ok (v, rest)) : v.IsJson depth := by
  rw [number.eq_def] at h
  simp only at h
  split at h
  · cases h
  rename_i whole more hwhole
  obtain ⟨hne, hdigits⟩ := wholeDigits_eq_some hwhole
  split at h
  · split at h
    · cases h
    · rename_i hlength
      cases h
      refine .int ?_
      rw [apply_ite Int.natAbs, Int.natAbs_neg, Int.natAbs_natCast, ite_self]
      exact (length_toDigits_decimalValue_le hne hdigits).trans (Nat.not_lt.mp hlength)
  all_goals
    cases h
    exact .float (Binary64.isRounded_ofDecimal _ _ _)

theorem isJson_of_word? {v : Value} (h : word? cs = some (v, rest)) : v.IsJson depth := by
  rw [word?.eq_def] at h
  split at h
  · cases h
    exact .null
  · cases h
    exact .bool true
  · cases h
    exact .bool false
  · cases h
    exact .float trivial
  · cases h
    exact .float trivial
  · cases h
    exact .float trivial
  · cases h

/-! ## Lists and objects -/

section

variable {name : String} {v : Value} {fs : List (String × Value)}

theorem map_put_of_mem (h : name ∈ fs.map (·.1)) :
    (Fields.put name v fs).map (·.1) = fs.map (·.1) := by
  induction fs with
  | nil => cases h
  | cons f fs ih =>
    rw [Fields.put]
    split
    · rfl
    · rename_i hne
      rw [List.map_cons, List.map_cons, ih ((List.mem_cons.mp h).resolve_left (Ne.symm hne))]

theorem mem_put {f : String × Value} (h : f ∈ Fields.put name v fs) : f = (name, v) ∨ f ∈ fs := by
  induction fs with
  | nil => exact .inl (List.mem_singleton.mp h)
  | cons g fs ih =>
    rw [Fields.put] at h
    split at h
    · rename_i heq
      rcases List.mem_cons.mp h with rfl | h
      · exact .inl (by rw [heq])
      · exact .inr (List.mem_cons_of_mem _ h)
    · rcases List.mem_cons.mp h with rfl | h
      · exact .inr List.mem_cons_self
      · exact (ih h).imp_right (List.mem_cons_of_mem _)

end

/-- Whether fields are those of an object that JSON has. -/
structure AreFields (depth : ℕ) (fs : List (String × Value)) : Prop where
  nodup : (fs.map (·.1)).Nodup
  isJson : ∀ f ∈ fs, f.2.IsJson depth

theorem AreFields.put {v : Value} {fs : List (String × Value)} (h : AreFields depth fs)
    (name : String) (hv : v.IsJson depth) : AreFields depth (Fields.put name v fs) := by
  refine ⟨?_, fun f hf ↦ ?_⟩
  · by_cases hname : name ∈ fs.map (·.1)
    · rw [map_put_of_mem hname]
      exact h.nodup
    · rw [put_eq_append hname, List.map_append]
      exact List.nodup_append.mpr ⟨h.nodup, List.nodup_singleton name, fun a ha b hb ↦ by
        rw [List.mem_singleton.mp hb]
        exact ne_of_mem_of_not_mem ha hname⟩
  · rcases mem_put hf with rfl | hf
    · exact hv
    · exact h.isJson f hf

/-- Whether all that is read with some fuel are values that JSON has. -/
structure ReadsJson (fuel : ℕ) : Prop where
  value : ∀ {depth cs v rest}, Json.value fuel depth cs = .ok (v, rest) → v.IsJson depth
  items : ∀ {depth cs vs rest}, Json.items fuel depth cs = .ok (vs, rest) → ∀ v ∈ vs, v.IsJson depth
  fields : ∀ {depth read cs fs rest}, Json.fields fuel depth read cs = .ok (fs, rest) →
    AreFields depth read → AreFields depth fs

namespace ReadsJson

theorem value_succ (h : ReadsJson fuel) {v : Value}
    (hread : Json.value (fuel + 1) depth cs = .ok (v, rest)) : v.IsJson depth := by
  rw [Json.value.eq_def] at hread
  simp only at hread
  split at hread
  · obtain ⟨p, -, hp⟩ := exists_of_map_eq_ok hread
    cases hp
    exact .text _
  · split at hread
    · cases hread
    · split at hread
      · cases hread
        exact .list fun v hv ↦ absurd hv List.not_mem_nil
      · obtain ⟨p, hitems, hp⟩ := exists_of_map_eq_ok hread
        cases hp
        exact .list (h.items hitems)
  · split at hread
    · cases hread
    · split at hread
      · cases hread
        exact .object List.nodup_nil fun v hv ↦ absurd hv List.not_mem_nil
      · obtain ⟨p, hfields, hp⟩ := exists_of_map_eq_ok hread
        cases hp
        have hfs := h.fields hfields ⟨List.nodup_nil, fun v hv ↦ absurd hv List.not_mem_nil⟩
        exact .object hfs.nodup hfs.isJson
  · split at hread
    · rename_i hword
      cases hread
      exact isJson_of_word? hword
    · exact isJson_of_number hread

theorem items_succ (h : ReadsJson fuel) {vs : List Value}
    (hread : Json.items (fuel + 1) depth cs = .ok (vs, rest)) : ∀ v ∈ vs, v.IsJson depth := by
  obtain ⟨⟨v, more⟩, hvalue, hread⟩ := exists_of_bind_eq_ok hread
  have hv := h.value hvalue
  simp only at hread
  split at hread
  · cases hread
    exact fun w hw ↦ List.mem_singleton.mp hw ▸ hv
  · obtain ⟨q, hitems, hq⟩ := exists_of_map_eq_ok hread
    cases hq
    intro w hw
    rcases List.mem_cons.mp hw with rfl | hw
    · exact hv
    · exact h.items hitems w hw
  · cases hread

theorem fields_succ (h : ReadsJson fuel) {read fs : List (String × Value)}
    (hread : Json.fields (fuel + 1) depth read cs = .ok (fs, rest)) (hfs : AreFields depth read) :
    AreFields depth fs := by
  rw [Json.fields.eq_def] at hread
  simp only at hread
  split at hread
  · obtain ⟨⟨name, more⟩, hname, hread⟩ := exists_of_bind_eq_ok hread
    simp only at hread
    split at hread
    · obtain ⟨⟨v, more⟩, hvalue, hread⟩ := exists_of_bind_eq_ok hread
      have hput := hfs.put (String.ofList name) (h.value hvalue)
      simp only at hread
      split at hread
      · cases hread
        exact hput
      · exact h.fields hread hput
      · cases hread
    · cases hread
  · cases hread

end ReadsJson

theorem readsJson (fuel : ℕ) : ReadsJson fuel := by
  induction fuel with
  | zero => exact ⟨fun h ↦ (by cases h), fun h ↦ (by cases h), fun h ↦ (by cases h)⟩
  | succ fuel ih => exact ⟨ih.value_succ, ih.items_succ, ih.fields_succ⟩

/-- **What is read is a value that JSON has.** -/
theorem isJson_of_read {v : Value} (h : read depth cs = .ok v) : v.IsJson depth := by
  rw [read.eq_def] at h
  split at h
  · cases h
  · obtain ⟨⟨w, more⟩, hvalue, h⟩ := exists_of_bind_eq_ok h
    simp only at h
    split at h
    · cases h
      exact (readsJson _).value hvalue
    · cases h

end Json

end VectorLint
