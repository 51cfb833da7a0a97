import Mathlib.Tactic.SplitIfs
import VectorLint.Run.Basic

/-!
# The verdict of a run

The state in which a run ends depends on its findings only through which severities occur among
them, so it is the same for findings in another order, and the worse of two for two lists of
findings one after the other.

Ending a run derives the state, closes the report and calls the callbacks. Callbacks may fail or
register others, but all they change is the list of calls and the list of callbacks; what is said
here about the end of a run is therefore said of `settle` and carried over to `complete` by one
equation.
-/

namespace VectorLint.Run

namespace State

/-! ## Which severities occur -/

variable {xs ys : List Severity}

theorem ofSeverities_eq_ite :
    ofSeverities xs = if Severity.error ∈ xs ∨ Severity.exception ∈ xs then error
      else if Severity.warning ∈ xs then warning else success := by
  simp [ofSeverities]

theorem ofSeverities_eq_error_iff :
    ofSeverities xs = error ↔ Severity.error ∈ xs ∨ Severity.exception ∈ xs := by
  rw [ofSeverities_eq_ite]
  split_ifs <;> simp [*]

theorem ofSeverities_eq_warning_iff :
    ofSeverities xs = warning
      ↔ Severity.error ∉ xs ∧ Severity.exception ∉ xs ∧ Severity.warning ∈ xs := by
  rw [ofSeverities_eq_ite, ← and_assoc, ← not_or]
  split_ifs <;> simp [*]

theorem ofSeverities_eq_success_iff :
    ofSeverities xs = success
      ↔ Severity.error ∉ xs ∧ Severity.exception ∉ xs ∧ Severity.warning ∉ xs := by
  rw [ofSeverities_eq_ite, ← and_assoc, ← not_or]
  split_ifs <;> simp [*]

theorem ofSeverities_congr (h : ∀ s, s ∈ xs ↔ s ∈ ys) : ofSeverities xs = ofSeverities ys := by
  have hcontains : ∀ s, xs.contains s = ys.contains s := fun s ↦ by
    rw [Bool.eq_iff_iff, List.contains_iff_mem, List.contains_iff_mem, h]
  rw [ofSeverities, ofSeverities, hcontains, hcontains, hcontains]

/-! ## Two lists of findings -/

/-- How bad a state is. -/
def rank : State → Nat
  | pending => 0
  | success => 1
  | warning => 2
  | error => 3

/-- The worse of two states. -/
def worse (a b : State) : State := if a.rank ≤ b.rank then b else a

theorem ofSeverities_append :
    ofSeverities (xs ++ ys) = (ofSeverities xs).worse (ofSeverities ys) := by
  simp only [ofSeverities, List.contains_append]
  cases xs.contains .error <;> cases xs.contains .exception <;> cases xs.contains .warning <;>
    cases ys.contains .error <;> cases ys.contains .exception <;> cases ys.contains .warning <;>
    rfl

theorem exitCode_eq_one_iff {s : State} : s.exitCode = 1 ↔ s = error := by
  cases s <;> simp [exitCode]

end State

/-! ## The end of a run -/

variable (r : Run)

@[simp] theorem diagnostics_settle : r.settle.diagnostics = r.diagnostics := rfl

theorem state_settle : r.settle.state = State.ofSeverities (r.diagnostics.map (·.severity)) := rfl

@[simp] theorem isClosed_settle : r.settle.report.isClosed = true := rfl

@[simp] theorem isDone_settle : r.settle.isDone = true := by
  rw [isDone, state_settle]
  exact decide_eq_true (State.ofSeverities_ne_pending _)

mutual

theorem call_eq (r : Run) :
    ∀ c : Callback, ∃ calls callbacks, (r.call c).1 = { r with calls, callbacks }
  | ⟨label, next, failure⟩ => by
    obtain ⟨calls, callbacks, h⟩ :=
      registerAll_eq { r with calls := r.calls ++ [(label, r.state)] } next
    rw [call]
    split <;> rename_i heq <;> exact ⟨calls, callbacks, by rw [← h, heq]⟩

theorem registerAll_eq (r : Run) :
    ∀ cs : List Callback, ∃ calls callbacks, (r.registerAll cs).1 = { r with calls, callbacks }
  | [] => ⟨r.calls, r.callbacks, rfl⟩
  | c :: cs => by
    have hc : ∃ calls callbacks, (if r.isDone then r.call c else (r.register c, none)).1
        = { r with calls, callbacks } := by
      split
      · exact call_eq r c
      · exact ⟨r.calls, r.callbacks ++ [c], rfl⟩
    obtain ⟨calls, callbacks, hc⟩ := hc
    rw [registerAll]
    split
    · rename_i r' hr
      obtain rfl : r' = { r with calls, callbacks } := by rw [← hc, hr]
      exact registerAll_eq { r with calls, callbacks } cs
    · rename_i r' f hr
      exact ⟨calls, callbacks, by rw [← hc, hr]⟩

end

theorem callAll_eq (cs : List Callback) :
    ∃ calls callbacks, (r.callAll cs).1 = { r with calls, callbacks } := by
  induction cs generalizing r with
  | nil => exact ⟨r.calls, r.callbacks, rfl⟩
  | cons c cs ih =>
    obtain ⟨calls, callbacks, hc⟩ := call_eq r c
    rw [callAll]
    split
    · rename_i r' hr
      obtain rfl : r' = { r with calls, callbacks } := by rw [← hc, hr]
      exact ih { r with calls, callbacks }
    · rename_i r' f hr
      exact ⟨calls, callbacks, by rw [← hc, hr]⟩

theorem complete_eq : ∃ calls callbacks, r.complete.1 = { r.settle with calls, callbacks } :=
  callAll_eq { r.settle with callbacks := [] } r.settle.callbacks

theorem diagnostics_complete : r.complete.1.diagnostics = r.diagnostics := by
  obtain ⟨calls, callbacks, h⟩ := complete_eq r
  rw [h]
  rfl

theorem state_complete :
    r.complete.1.state = State.ofSeverities (r.diagnostics.map (·.severity)) := by
  obtain ⟨calls, callbacks, h⟩ := complete_eq r
  rw [h]
  rfl

/-- A run that is started once, with nobody waiting in the end and no callback to be called, ends
settled. -/
theorem run_of_finish {r : Run} (hs : r.isStarted = false) (hc : r.callbacks = [])
    (hw : r.begun.turns.finish.waiting = []) :
    r.run = ({ r.begun with turns := r.begun.turns.finish }.settle,
      .ok { r.begun with turns := r.begun.turns.finish }.settle.state) := by
  have hsettle : { r.begun with turns := r.begun.turns.finish }.settle.callbacks = [] := hc
  have hcomplete : { r.begun with turns := r.begun.turns.finish }.complete
      = ({ r.begun with turns := r.begun.turns.finish }.settle, none) := by
    rw [complete, hsettle, callAll, ← hsettle]
  rw [run, start, if_neg (by simp [hs])]
  simp only [hw, List.isEmpty_nil, if_true, hcomplete]

end VectorLint.Run
