import Mathlib.Data.List.Induction
import VectorLint.Proofs.Run.Notification

/-!
# Operations on a run

What is done with a run from outside is a list of operations: it is run in one go, or started,
given turns in any order, and completed; callbacks are registered, somebody waits, and reports are
made or the report is closed at any time. An operation that cannot be done leaves the run as it is,
and a second call to run it is refused. So any list of operations has a meaning, be the calls made
one after the other or at once, and every list of operations is a list of steps.
-/

namespace VectorLint.Run

/-- Something that is done with a run. -/
inductive Operation where
  /-- Run it in one go. -/
  | run
  /-- Call for it to be run, to begin with. -/
  | start
  /-- Let the task at a place of the queue take its turn. -/
  | turn (place : Nat)
  /-- Complete it, when all its rules have finished. -/
  | complete
  | onDone (c : Callback)
  | wait
  | report (v : View) (severity : Severity) (message : Value) (element : Option Element)
  | close

/-- Whether all rules of a run have finished and it has not been completed. -/
def canComplete (r : Run) : Bool :=
  r.isStarted && !r.isDone && r.turns.ready.isEmpty && r.turns.waiting.isEmpty

/-- The failure that running a run ends with. -/
def failureOf : Except Failure State → Option Failure
  | .ok _ => none
  | .error f => some f

/-- An operation, and the failure that it ends with. -/
def perform (r : Run) : Operation → Run × Option Failure
  | .run => (r.run.1, failureOf r.run.2)
  | .start =>
    match r.start with
    | .ok r' => (r', none)
    | .error f => (r, some f)
  | .turn place =>
    match r.turns.ready[place]? with
    | some t =>
      ({ r with turns :=
        r.turns.resume (r.turns.ready.take place) t (r.turns.ready.drop (place + 1)) }, none)
    | none => (r, none)
  | .complete => if r.canComplete then r.complete else (r, none)
  | .onDone c => r.onDone c
  | .wait => (r.wait, none)
  | .report v severity message element =>
    (r.withReport (r.report.report v severity message element), none)
  | .close => (r.withReport r.report.close, none)

/-- Operations, one after the other. -/
def performAll (r : Run) (ops : List Operation) : Run := ops.foldl (fun r op ↦ (r.perform op).1) r

/-- What is gathered on the way through some operations. -/
def gather {α : Type} (f : Run → Operation → List α) (r : Run) : List Operation → List α
  | [] => []
  | op :: ops => f r op ++ gather f (r.perform op).1 ops

theorem performAll_append (r : Run) (ops more : List Operation) :
    r.performAll (ops ++ more) = (r.performAll ops).performAll more := List.foldl_append

theorem performAll_concat (r : Run) (ops : List Operation) (op : Operation) :
    r.performAll (ops ++ [op]) = ((r.performAll ops).perform op).1 := performAll_append r ops [op]

theorem gather_concat {α : Type} (f : Run → Operation → List α) (r : Run) (ops : List Operation)
    (op : Operation) : gather f r (ops ++ [op]) = gather f r ops ++ f (r.performAll ops) op := by
  induction ops generalizing r with
  | nil => simp [gather, performAll]
  | cons op' ops ih =>
    rw [List.cons_append, gather, ih, gather, List.append_assoc]
    rfl

/-! ## Operations are steps -/

theorem canComplete_iff {r : Run} : r.canComplete = true ↔
    r.isStarted = true ∧ r.isDone = false ∧ r.turns.ready = [] ∧ r.turns.waiting = [] := by
  simp [canComplete, and_assoc]

theorem reaches_perform {r : Run} (hr : r.isDone = true → r.isStarted = true) (op : Operation) :
    Reaches r (r.perform op).1 := by
  cases op with
  | run => exact reaches_run hr
  | start =>
    rw [perform]
    split
    · rename_i r' h
      exact .single (.start h)
    · exact .refl
  | turn place =>
    rw [perform]
    split
    · rename_i t ht
      refine .single (.turn ?_)
      obtain ⟨hlt, rfl⟩ := List.getElem?_eq_some_iff.mp ht
      rw [List.getElem_cons_drop, List.take_append_drop]
    · exact .refl
  | complete =>
    rw [perform]
    split
    · rename_i h
      obtain ⟨hs, hd, hready, hwaiting⟩ := canComplete_iff.mp h
      exact reaches_complete hs hd hready hwaiting
    · exact .refl
  | onDone c => exact .single (.onDone r c)
  | wait => exact .single (.wait r)
  | report v severity message element => exact .single (.report r v severity message element)
  | close => exact .single (.close r)

/-- Operations on a run that has come from a new one are steps. -/
theorem Reaches.performAll {r₀ r : Run} (h₀ : r₀.IsNew) (h : Reaches r₀ r)
    (ops : List Operation) : Reaches r (r.performAll ops) := by
  induction ops using List.reverseRecOn with
  | nil => exact .refl
  | append_singleton ops op ih =>
    have hall : Reaches r₀ (r.performAll ops) := h.trans ih
    rw [performAll_concat]
    exact ih.trans (reaches_perform (fun hd ↦ (hall.settled h₀ hd).isStarted) op)

/-- **Operations are steps.** What is so after any steps from a new run is so after any
operations. -/
theorem reaches_performAll {r₀ : Run} (h₀ : r₀.IsNew) (ops : List Operation) :
    Reaches r₀ (r₀.performAll ops) := Reaches.performAll h₀ .refl ops

end VectorLint.Run
