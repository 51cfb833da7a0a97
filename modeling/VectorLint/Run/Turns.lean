import VectorLint.Rule.Basic

/-!
# Taking turns

The rules of a run take turns: whoever has the turn keeps it until it yields, waits for an event
that is not set, or has nothing left to do. Rules whose turn comes stand in a queue, in which those
that yield go to the end; setting an event sends those who wait for it to the end too, in the order
in which they began to wait.

A rule's actions are fixed before it starts, so what is left of a rule is the list of its remaining
actions. Every turn takes away from the `load`, the number of actions that are left together with
the number of rules that have them, and this bounds the number of turns.
-/

namespace VectorLint.Run

/-- Who takes turns: an instance, by its number among those of the run, and the view through which
it reports. -/
structure Player where
  number : Nat
  view : View
  deriving DecidableEq, Repr

/-- What is left to do for a rule. -/
structure Task where
  player : Player
  rest : List Action

/-- The rules of a run in the middle of it: those whose turn comes, in order; those that wait, in
the order in which they began to; the events that are set; and the report. -/
structure Turns where
  ready : List Task := []
  waiting : List (String × Task) := []
  events : List String := []
  report : Report := {}

namespace Task

/-- How much a task has left, itself included. -/
def load (t : Task) : Nat := t.rest.length + 1

/-- What a rule does when it has finished or failed: it logs the one, and reports the other. -/
def ending (name : String) : Option Failure → List Action
  | none => [.debug "Finished"]
  | some f =>
    [.note .error none ("Rule " ++ name ++ " failed with error: " ++ f.shown), .exception f]

/-- How much some tasks have left together. -/
def total : List Task → Nat
  | [] => 0
  | t :: tasks => t.load + total tasks

/-- The task of the instance with a number, which reports on behalf of itself inside a view. -/
def ofInstance (view : View) (d : Document) (i : Rule.Instance) (number : Nat) : Task :=
  let c := i.rule.conduct d
  ⟨⟨number, view.scoped i.name⟩, c.actions ++ ending i.name c.failure⟩

end Task

namespace Turns

/-- How much is left to do. -/
def load (s : Turns) : Nat := Task.total s.ready + Task.total (s.waiting.map (·.2))

/-- Set an event: who waits for it is ready, behind all who are. -/
def set (s : Turns) (event : String) : Turns :=
  { s with
    ready := s.ready ++ (s.waiting.filter (·.1 = event)).map (·.2)
    waiting := s.waiting.filter (·.1 ≠ event)
    events := event :: s.events }

/-- The turn of a rule that has some actions left and stands no longer in the queue. -/
def play (p : Player) : List Action → Turns → Turns
  | [], s => s
  | .yield :: rest, s => { s with ready := s.ready ++ [⟨p, rest⟩] }
  | .wait event :: rest, s =>
    if event ∈ s.events then play p rest s
    else { s with waiting := s.waiting ++ [(event, ⟨p, rest⟩)] }
  | .set event :: rest, s => play p rest (s.set event)
  | action :: rest, s => play p rest { s with report := action.perform p.view s.report }

/-- As many turns as `fuel` allows, each for the first in the queue. -/
def playAll : Nat → Turns → Turns
  | 0, s => s
  | fuel + 1, s =>
    match s.ready with
    | [] => s
    | t :: ready => playAll fuel (play t.player t.rest { s with ready })

/-- Turns until nobody is ready. Since each turn takes something away from the load, there are at
most so many. -/
def finish (s : Turns) : Turns := playAll s.load s

end Turns

/-! ## The load -/

theorem Task.total_append (xs ys : List Task) : total (xs ++ ys) = total xs + total ys := by
  induction xs with
  | nil => simp [total]
  | cons x xs ih => simp [total, ih]; omega

namespace Turns

theorem total_filter_add_total_filter (p : String × Task → Bool) (ws : List (String × Task)) :
    Task.total ((ws.filter p).map (·.2)) + Task.total ((ws.filter fun w ↦ !p w).map (·.2))
      = Task.total (ws.map (·.2)) := by
  induction ws with
  | nil => rfl
  | cons w ws ih => cases h : p w <;> simp [h, Task.total] <;> omega

theorem load_set (s : Turns) (event : String) : (s.set event).load = s.load := by
  have h := total_filter_add_total_filter (fun w ↦ decide (w.1 = event)) s.waiting
  simp only [← decide_not] at h
  simp only [load, set, Task.total_append, ne_eq]
  omega

/-- A turn adds no more to the load than the actions that it was given. -/
theorem load_play_le (p : Player) (rest : List Action) (s : Turns) :
    (play p rest s).load ≤ s.load + rest.length := by
  fun_induction play p rest s with
  | case1 => simp
  | case2 => simp [load, Task.total_append, Task.total, Task.load]; omega
  | case3 _ _ _ _ ih => simp only [List.length_cons]; omega
  | case4 => simp [load, Task.total_append, Task.total, Task.load]; omega
  | case5 _ _ _ ih => rw [load_set] at ih; simp only [List.length_cons]; omega
  | case6 _ _ _ _ _ _ ih =>
    simp only [load, List.length_cons] at ih ⊢
    omega

/-- With as much fuel as there is load, the turns end because nobody is ready. -/
theorem ready_playAll (fuel : Nat) (s : Turns) (h : s.load ≤ fuel) :
    (playAll fuel s).ready = [] := by
  induction fuel generalizing s with
  | zero =>
    cases hr : s.ready with
    | nil => exact hr
    | cons t ready => simp [load, hr, Task.total, Task.load] at h
  | succ fuel ih =>
    cases hr : s.ready with
    | nil => simp [playAll, hr]
    | cons t ready =>
      simp only [playAll, hr]
      apply ih
      have hp := load_play_le t.player t.rest { s with ready }
      simp only [load, hr, Task.total, Task.load] at h hp ⊢
      omega

/-- At the end of the turns nobody is ready. -/
theorem ready_finish (s : Turns) : s.finish.ready = [] := ready_playAll s.load s (Nat.le_refl _)

end Turns

end VectorLint.Run
