import VectorLint.Proofs.Attempt
import VectorLint.Proofs.Value.RoundTrip
import VectorLint.Value.Limits

/-!
# Which values are written

Whether a value is written depends on two things alone: how long its whole numbers are, and how many
levels it takes. The writer stops at the first obstacle, so the two are mixed in it; here they are
told apart. A value that was read from JSON text is written, if there is one level more than there
were for reading: a number has no more digits than are written, and in a message the innermost value
takes a level of its own.
-/

namespace VectorLint

namespace Value

variable {limits : Limits} {w : Writing}

mutual

/-- The levels that a value takes. -/
def levels (w : Writing) : Value → ℕ
  | .list items => levelsOfItems w items + 1
  | .tuple items => levelsOfItems w items + 1
  | .object fields => levelsOfFields w fields + 1
  | .script _ _ => 1
  | _ => if w = .shown then 1 else 0

/-- The levels that the items of a sequence take. -/
def levelsOfItems (w : Writing) : List Value → ℕ
  | [] => 0
  | item :: items => max (item.levels w) (levelsOfItems w items)

/-- The levels that the fields of an object take. -/
def levelsOfFields (w : Writing) : List (String × Value) → ℕ
  | [] => 0
  | (_, v) :: fields => max (v.levels w) (levelsOfFields w fields)

end

mutual

/-- The whole numbers in a value. -/
def integers : Value → List ℤ
  | .int i => [i]
  | .list items => integersOfItems items
  | .tuple items => integersOfItems items
  | .object fields => integersOfFields fields
  | _ => []

/-- The whole numbers in the items of a sequence. -/
def integersOfItems : List Value → List ℤ
  | [] => []
  | item :: items => item.integers ++ integersOfItems items

/-- The whole numbers in the fields of an object. -/
def integersOfFields : List (String × Value) → List ℤ
  | [] => []
  | (_, v) :: fields => v.integers ++ integersOfFields fields

end

/-! ## Obstacles -/

/-- A value that does not nest needs a level in a message only, and is short enough unless it is a
whole number. -/
theorem obstacle?_of_flat {v : Value} (hv : v.nests = false) (depth : ℕ) :
    v.obstacle? limits w depth = none
      ↔ v.levels w ≤ depth ∧ ∀ i ∈ v.integers, i.natAbs < Nat.pow 10 limits.digits := by
  have hlevels : v.levels w ≤ depth ↔ ¬(depth = 0 ∧ w = .shown) := by
    have heq : v.levels w = if w = .shown then 1 else 0 := by cases v <;> first | rfl | cases hv
    rw [heq]
    split <;> simp_all [Nat.one_le_iff_ne_zero]
  rw [hlevels, obstacle?.eq_def, hv]
  by_cases hfull : depth = 0 ∧ w = .shown
  · simp [hfull]
  · rw [if_neg (by simpa using hfull)]
    cases v with
    | int i => simp [integers, hfull]
    | list | tuple | object | script => cases hv
    | _ => simp [integers, hfull]

mutual

/-- **Obstacles.** Nothing keeps a value from being written exactly if it takes no more levels than
are left, and no whole number in it has too many digits. -/
theorem obstacle?_eq_none_iff : ∀ (v : Value) (depth : ℕ), v.obstacle? limits w depth = none
    ↔ v.levels w ≤ depth ∧ ∀ i ∈ v.integers, i.natAbs < Nat.pow 10 limits.digits
  | .list items, depth => by
    rw [obstacle?, levels, integers]
    cases depth with
    | zero => simp [nests]
    | succ depth => simpa using itemsObstacle?_eq_none_iff items depth
  | .tuple items, depth => by
    rw [obstacle?, levels, integers]
    cases depth with
    | zero => simp [nests]
    | succ depth => simpa using itemsObstacle?_eq_none_iff items depth
  | .object fields, depth => by
    rw [obstacle?, levels, integers]
    cases depth with
    | zero => simp [nests]
    | succ depth => simpa using fieldsObstacle?_eq_none_iff fields depth
  | .script _ _, depth => by
    rw [obstacle?.eq_def]
    cases depth <;> simp [nests, levels, integers]
  | .null, depth => obstacle?_of_flat rfl depth
  | .bool _, depth => obstacle?_of_flat rfl depth
  | .int _, depth => obstacle?_of_flat rfl depth
  | .float _, depth => obstacle?_of_flat rfl depth
  | .text _, depth => obstacle?_of_flat rfl depth

theorem itemsObstacle?_eq_none_iff : ∀ (items : List Value) (depth : ℕ),
    itemsObstacle? limits w depth items = none
      ↔ levelsOfItems w items ≤ depth
        ∧ ∀ i ∈ integersOfItems items, i.natAbs < Nat.pow 10 limits.digits
  | [], depth => by simp [itemsObstacle?, levelsOfItems, integersOfItems]
  | item :: items, depth => by
    rw [itemsObstacle?, Option.or_eq_none_iff, obstacle?_eq_none_iff item depth,
      itemsObstacle?_eq_none_iff items depth, levelsOfItems, integersOfItems, max_le_iff,
      List.forall_mem_append]
    exact and_and_and_comm

theorem fieldsObstacle?_eq_none_iff : ∀ (fields : List (String × Value)) (depth : ℕ),
    fieldsObstacle? limits w depth fields = none
      ↔ levelsOfFields w fields ≤ depth
        ∧ ∀ i ∈ integersOfFields fields, i.natAbs < Nat.pow 10 limits.digits
  | [], depth => by simp [fieldsObstacle?, levelsOfFields, integersOfFields]
  | (_, v) :: fields, depth => by
    rw [fieldsObstacle?, Option.or_eq_none_iff, obstacle?_eq_none_iff v depth,
      fieldsObstacle?_eq_none_iff fields depth, levelsOfFields, integersOfFields, max_le_iff,
      List.forall_mem_append]
    exact and_and_and_comm

end

mutual

theorem kind_of_obstacle? : ∀ {v : Value} {depth : ℕ} {f : Failure},
    v.obstacle? limits w depth = some f → f.kind = .value ∨ f.kind = .recursion
  | v, depth, f, h => by
    rw [obstacle?.eq_def] at h
    split at h
    · cases h
      exact .inr rfl
    · cases v with
      | int i =>
        simp only at h
        split at h <;> cases h
        exact .inl rfl
      | list items | tuple items => exact kind_of_itemsObstacle? h
      | object fields => exact kind_of_fieldsObstacle? h
      | _ => cases h

theorem kind_of_itemsObstacle? : ∀ {items : List Value} {depth : ℕ} {f : Failure},
    itemsObstacle? limits w depth items = some f → f.kind = .value ∨ f.kind = .recursion
  | [], _, _, h => by cases h
  | item :: items, _, _, h => by
    rw [itemsObstacle?, Option.or_eq_some_iff] at h
    rcases h with h | ⟨-, h⟩
    · exact kind_of_obstacle? h
    · exact kind_of_itemsObstacle? h

theorem kind_of_fieldsObstacle? : ∀ {fields : List (String × Value)} {depth : ℕ} {f : Failure},
    fieldsObstacle? limits w depth fields = some f → f.kind = .value ∨ f.kind = .recursion
  | [], _, _, h => by cases h
  | (_, v) :: fields, _, _, h => by
    rw [fieldsObstacle?, Option.or_eq_some_iff] at h
    rcases h with h | ⟨-, h⟩
    · exact kind_of_obstacle? h
    · exact kind_of_fieldsObstacle? h

end

theorem kind_ne_of_obstacle? {v : Value} {depth : ℕ} {f : Failure}
    (h : v.obstacle? limits w depth = some f) : f.kind ≠ .configuration := by
  intro heq
  rcases kind_of_obstacle? h with hkind | hkind <;> cases heq.symm.trans hkind

theorem kind_ne_of_ite {v : Value} {depth : ℕ} {f : Failure} {accepted : Bool}
    (h : (if accepted then none else v.obstacle? limits w depth) = some f) :
    f.kind ≠ .configuration := by
  split at h
  · cases h
  · exact kind_ne_of_obstacle? h

/-! ## Refusals and texts -/

theorem comesTo_spoken (v : Value) :
    ComesTo (· = v.plain) (v.spoken limits) (v.unspoken? limits) := by
  rw [spoken]
  cases v.unspoken? limits with
  | none => exact .done _ rfl
  | some f => exact .failed f

/-- A refusal fails with its message, or with what keeps the value from being written. -/
theorem refused_eq {α : Type} (v : Value) (message : String → String) :
    (v.refused limits w message : Except Failure α) = .error
      ((v.obstacle? limits w limits.depth).getD ⟨.configuration, message (w.write v)⟩) := by
  rw [refused, written]
  cases v.obstacle? limits w limits.depth <;> rfl

/-- A refusal that is kept fails only with what keeps the value from being written. -/
theorem comesTo_kept_refused {α : Type} (v : Value) (message : String → String) :
    ComesTo (· = (v.refused limits w message : Except Failure α))
      (Failure.kept (v.refused limits w message)) (v.obstacle? limits w limits.depth) := by
  rw [refused_eq]
  exact Failure.comesTo_kept_error rfl fun f ↦ kind_ne_of_obstacle?

/-! ## What was read -/

theorem itemsObstacle?_eq (items : List Value) (depth : ℕ) :
    itemsObstacle? limits w depth items = items.findSome? (obstacle? limits w depth) := by
  induction items with
  | nil => rfl
  | cons item items ih =>
    rw [itemsObstacle?, ih, List.findSome?_cons]
    cases item.obstacle? limits w depth <;> rfl

theorem fieldsObstacle?_eq (fields : List (String × Value)) (depth : ℕ) :
    fieldsObstacle? limits w depth fields
      = fields.findSome? fun f ↦ f.2.obstacle? limits w depth := by
  induction fields with
  | nil => rfl
  | cons field fields ih =>
    rw [fieldsObstacle?, ih, List.findSome?_cons]
    cases field.2.obstacle? limits w depth <;> rfl

/-- **What was read is written**, with one level more. -/
theorem IsJson.obstacle?_eq_none {depth depth' : ℕ} {v : Value} (h : v.IsJson depth)
    (hdepth : depth < depth') (hdigits : Json.maxDigits ≤ limits.digits) :
    v.obstacle? limits w depth' = none := by
  induction h generalizing depth' with
  | int hint =>
    have hshort : _ < Nat.pow 10 limits.digits :=
      ((Nat.length_toDigits_le_iff (by decide) (by decide)).mp hint).trans_le
        (Nat.pow_le_pow_right (by decide) hdigits)
    rw [obstacle?, if_neg (by simp; omega), if_neg (Nat.not_le.mpr hshort)]
  | list _ ih =>
    rw [obstacle?, if_neg (by simp; omega), itemsObstacle?_eq, List.findSome?_eq_none_iff]
    exact fun v hv ↦ ih v hv (by omega)
  | object _ _ ih =>
    rw [obstacle?, if_neg (by simp; omega), fieldsObstacle?_eq, List.findSome?_eq_none_iff]
    exact fun f hf ↦ ih f hf (by omega)
  | _ => rw [obstacle?.eq_def, if_neg (by simp; omega)]

theorem IsJson.ite_eq_none {depth depth' : ℕ} {v : Value} {accepted : Bool} (h : v.IsJson depth)
    (hdepth : depth < depth') (hdigits : Json.maxDigits ≤ limits.digits) :
    (if accepted then none else v.obstacle? limits w depth') = none := by
  split
  · rfl
  · exact h.obstacle?_eq_none hdepth hdigits

end Value

end VectorLint
