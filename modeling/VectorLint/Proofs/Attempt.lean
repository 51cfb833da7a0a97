import Mathlib.Data.List.Forall2
import VectorLint.Report.Failure

/-!
# Attempts

How attempts that may fail end when they are put together: if the whole succeeds, then so does each
part, and a failure is one of a part. Where the failure can be told beforehand, a single relation
says both how an attempt fails and what it results in. This is how it is said of an attempt to
configure something which of its failures are kept as what came of it.
-/

namespace VectorLint

namespace Attempt

variable {ε ε' α β : Type} {x : Except ε α}

theorem exists_of_map_eq_ok {f : α → β} {b : β} (h : x.map f = .ok b) :
    ∃ a, x = .ok a ∧ f a = b := by
  cases x with
  | error e => cases h
  | ok a => exact ⟨a, rfl, Except.ok.inj h⟩

theorem exists_of_bind_eq_ok {f : α → Except ε β} {b : β} (h : x >>= f = .ok b) :
    ∃ a, x = .ok a ∧ f a = .ok b := by
  cases x with
  | error e => cases h
  | ok a => exact ⟨a, rfl, h⟩

theorem eq_error_of_map_eq_error {f : α → β} {e : ε} (h : x.map f = .error e) : x = .error e := by
  cases x with
  | error e' => exact congrArg _ (Except.error.inj h)
  | ok a => cases h

theorem eq_ok_of_mapError_eq_ok {f : ε → ε'} {a : α} (h : x.mapError f = .ok a) : x = .ok a := by
  cases x with
  | error e => cases h
  | ok a' => exact congrArg _ (Except.ok.inj h)

theorem exists_of_toOption_map_eq_some {f : α → β} {b : β} (h : x.toOption.map f = some b) :
    ∃ a, x = .ok a ∧ f a = b := by
  cases x with
  | error e => cases h
  | ok a => exact ⟨a, rfl, Option.some.inj h⟩

theorem mapM_eq_ok_of_forall₂ {f : α → Except ε β} {xs : List α} {ys : List β}
    (h : List.Forall₂ (fun x y ↦ f x = .ok y) xs ys) : xs.mapM f = .ok ys := by
  induction h with
  | nil => rfl
  | cons hx _ ih =>
    rw [List.mapM_cons, hx, ih]
    rfl

theorem mapM_eq_ok {f : α → Except ε β} {g : α → β} {xs : List α}
    (h : ∀ x ∈ xs, f x = .ok (g x)) : xs.mapM f = .ok (xs.map g) := by
  refine mapM_eq_ok_of_forall₂ ?_
  rw [List.forall₂_map_right_iff, List.forall₂_same]
  exact h

theorem exists_of_mem_mapM {f : α → Except ε β} {xs : List α} {ys : List β}
    (h : xs.mapM f = .ok ys) {y : β} (hy : y ∈ ys) : ∃ x ∈ xs, f x = .ok y := by
  induction xs generalizing ys with
  | nil =>
    cases h
    cases hy
  | cons x xs ih =>
    rw [List.mapM_cons] at h
    obtain ⟨y', hx, h⟩ := exists_of_bind_eq_ok h
    obtain ⟨ys', hxs, h⟩ := exists_of_bind_eq_ok h
    cases h
    rcases List.mem_cons.mp hy with rfl | hy
    · exact ⟨x, List.mem_cons_self, hx⟩
    · obtain ⟨x', hx', heq⟩ := ih hxs hy
      exact ⟨x', List.mem_cons_of_mem x hx', heq⟩

end Attempt

section Told

variable {α β ε : Type} {P : β → Prop} {x : Except ε β} {failure? : Option ε}

/-- What an attempt comes to: it fails as told, or it has a result with a property if no failure is
told. -/
inductive ComesTo (P : β → Prop) : Except ε β → Option ε → Prop where
  | failed (e : ε) : ComesTo P (.error e) (some e)
  | done (b : β) (h : P b) : ComesTo P (.ok b) none

namespace ComesTo

theorem exists_eq_ok (h : ComesTo P x failure?) (hnone : failure? = none) :
    ∃ b, x = .ok b ∧ P b := by
  cases h with
  | failed e => cases hnone
  | done b h => exact ⟨b, rfl, h⟩

theorem eq_error (h : ComesTo P x failure?) {e : ε} (hsome : failure? = some e) :
    x = .error e := by
  cases h with
  | failed e' => exact congrArg _ (Option.some.inj hsome)
  | done b h => cases hsome

theorem imp {Q : β → Prop} (h : ComesTo P x failure?) (himp : ∀ b, P b → Q b) :
    ComesTo Q x failure? := by
  cases h with
  | failed e => exact .failed e
  | done b h => exact .done b (himp b h)

theorem map {Q : α → Prop} {f : β → α} (h : ComesTo P x failure?) (himp : ∀ b, P b → Q (f b)) :
    ComesTo Q (x.map f) failure? := by
  cases h with
  | failed e => exact .failed e
  | done b h => exact .done (f b) (himp b h)

theorem bind {Q : α → Prop} {f : β → Except ε α} {behind? : Option ε} (h : ComesTo P x failure?)
    (hbehind : ∀ b, P b → ComesTo Q (f b) behind?) :
    ComesTo Q (x >>= f) (failure?.or behind?) := by
  cases h with
  | failed e => exact .failed e
  | done b h => exact hbehind b h

end ComesTo

/-- **Attempts one after the other.** They fail with the failure of the first one that fails. -/
theorem comesTo_mapM {f : α → Except ε β} {failure? : α → Option ε} {P : α → β → Prop} {l : List α}
    (h : ∀ a ∈ l, ComesTo (P a) (f a) (failure? a)) :
    ComesTo (List.Forall₂ P l) (l.mapM f) (l.findSome? failure?) := by
  induction l with
  | nil => exact .done [] .nil
  | cons a l ih =>
    have hhead := h a List.mem_cons_self
    have htail := ih fun a ha ↦ h a (List.mem_cons_of_mem _ ha)
    rw [List.findSome?_cons, List.mapM_cons]
    generalize f a = x, failure? a = told at hhead
    generalize l.mapM f = xs, l.findSome? failure? = toldBehind at htail
    cases hhead with
    | failed e => exact .failed e
    | done b hb =>
      cases htail with
      | failed e => exact .failed e
      | done bs hbs => exact .done (b :: bs) (.cons hb hbs)

theorem comesTo_mapM_eq {f : α → Except ε β} {failure? : α → Option ε} {g : α → β} {l : List α}
    (h : ∀ a ∈ l, ComesTo (· = g a) (f a) (failure? a)) :
    ComesTo (· = l.map g) (l.mapM f) (l.findSome? failure?) := by
  refine (comesTo_mapM h).imp fun bs hbs ↦ ?_
  have hsame : List.Forall₂ (· = ·) bs (l.map g) :=
    List.Forall₂.flip (List.forall₂_map_left_iff.mpr hbs)
  rwa [List.forall₂_eq_eq_eq] at hsame

theorem forall_mem_of_forall₂ {l : List α} {bs : List β}
    (h : List.Forall₂ (fun _ b ↦ P b) l bs) : ∀ b ∈ bs, P b := by
  induction h with
  | nil => exact fun b hb ↦ absurd hb List.not_mem_nil
  | cons hb _ ih => exact List.forall_mem_cons.mpr ⟨hb, ih⟩

theorem exists_mapM_eq_ok {f : α → Except ε β} {l : List α} (h : ∀ a ∈ l, ∃ b, f a = .ok b) :
    ∃ bs, l.mapM f = .ok bs := by
  have hparts : ∀ a ∈ l, ComesTo (fun _ ↦ True) (f a) none := by
    intro a ha
    obtain ⟨b, hb⟩ := h a ha
    rw [hb]
    exact .done b trivial
  obtain ⟨bs, hbs, -⟩ := (comesTo_mapM hparts).exists_eq_ok (by simp)
  exact ⟨bs, hbs⟩

end Told

/-! ## Attempts that are kept -/

namespace Failure

variable {α β : Type} {f : Failure} {told : Option Failure}

theorem kept_of_kind (h : f.kind = .configuration) :
    kept (.error f : Except Failure α) = .ok (.error f) :=
  if_pos h

theorem kept_of_kind_ne (h : f.kind ≠ .configuration) :
    kept (.error f : Except Failure α) = .error f :=
  if_neg h

theorem comesTo_kept {P : α → Prop} {x : Except Failure α} (h : ComesTo P x told)
    (htold : ∀ g, told = some g → g.kind ≠ .configuration) : ComesTo (· = x) (kept x) told := by
  cases h with
  | failed g =>
    rw [kept_of_kind_ne (htold g rfl)]
    exact .failed g
  | done b _ => exact .done _ rfl

theorem comesTo_kept_error (hf : f.kind = .configuration)
    (htold : ∀ g, told = some g → g.kind ≠ .configuration) :
    ComesTo (· = (.error (told.getD f) : Except Failure α)) (kept (.error (told.getD f))) told := by
  cases told with
  | none =>
    rw [Option.getD_none, kept_of_kind hf]
    exact .done _ rfl
  | some g =>
    rw [Option.getD_some, kept_of_kind_ne (htold g rfl)]
    exact .failed g

/-- How an attempt that is kept ended, if it is known what it comes to. -/
theorem cases_of_comesTo_kept {x : Except Failure α} (h : ComesTo (· = x) (kept x) told) :
    (∃ a, x = .ok a ∧ told = none) ∨ (∃ f, x = .error f ∧ f.kind = .configuration ∧ told = none)
      ∨ ∃ f, x = .error f ∧ f.kind ≠ .configuration ∧ told = some f := by
  cases x with
  | ok a =>
    rw [kept] at h
    cases h
    exact .inl ⟨a, rfl, rfl⟩
  | error f =>
    by_cases hf : f.kind = .configuration
    · rw [kept_of_kind hf] at h
      cases h
      exact .inr (.inl ⟨f, rfl, hf, rfl⟩)
    · rw [kept_of_kind_ne hf] at h
      cases h
      exact .inr (.inr ⟨f, rfl, hf, rfl⟩)

theorem comesTo_kept_map {x : Except Failure α} (g : α → β)
    (h : ComesTo (· = x) (kept x) told) : ComesTo (· = x.map g) (kept (x.map g)) told := by
  rcases cases_of_comesTo_kept h with ⟨a, rfl, rfl⟩ | ⟨f, rfl, hf, rfl⟩ | ⟨f, rfl, hf, rfl⟩
  · exact .done _ rfl
  · rw [Except.map, kept_of_kind hf]
    exact .done _ rfl
  · exact comesTo_kept (P := fun _ ↦ True) (.failed f) fun _ heq ↦ Option.some.inj heq ▸ hf

end Failure

end VectorLint
