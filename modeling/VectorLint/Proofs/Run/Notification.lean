import Mathlib.Tactic.SplitIfs
import VectorLint.Proofs.Run.Lifecycle

/-!
# Who hears of the end of a run

Whatever is done with a run before its end, no callback is called and none is lost: the list of
those that are to be called grows with each registration, and nothing else changes it.

The callbacks are called when the run has been settled, one after the other and in the order in
which they were registered. A callback that registers others then has them called at once, since the
run is done. So what a callback tells is known from the callback alone, and so is whether it fails,
be it by itself or because of one that it registers.

A failure ends the walk through the callbacks, and by then the list of those that are to be called
is empty. The callbacks behind the one that fails are therefore lost: they are not called, and
nothing is left from which they could be called later.
-/

namespace VectorLint.Run

namespace Callback

mutual

/-- The failure of a callback that is called when the run is done: the first one of those that it
registers, or else its own. -/
def failure? : Callback → Option Failure
  | ⟨_, next, failure⟩ => (firstFailure? next).or failure

/-- The first failure of callbacks that are called in order when the run is done. -/
def firstFailure? : List Callback → Option Failure
  | [] => none
  | c :: cs => c.failure?.or (firstFailure? cs)

end

mutual

/-- The labels that a callback tells when the run is done: its own, and those of the callbacks that
are registered by it, up to one that fails. -/
def told : Callback → List String
  | ⟨label, next, _⟩ => label :: toldInOrder next

/-- The labels that callbacks tell which are called in order, up to one that fails. -/
def toldInOrder : List Callback → List String
  | [] => []
  | c :: cs => c.told ++ if c.failure?.isSome then [] else toldInOrder cs

end

/-- The callbacks up to the first that fails, and with it. -/
def upToFailure : List Callback → List Callback
  | [] => []
  | c :: cs => if c.failure?.isSome then [c] else c :: upToFailure cs

theorem firstFailure?_eq (cs : List Callback) :
    firstFailure? cs = cs.findSome? (·.failure?) := by
  induction cs with
  | nil => rfl
  | cons c cs ih =>
    rw [firstFailure?, ih, List.findSome?_cons]
    cases c.failure? <;> rfl

theorem toldInOrder_eq (cs : List Callback) :
    toldInOrder cs = (upToFailure cs).flatMap (·.told) := by
  induction cs with
  | nil => rfl
  | cons c cs ih =>
    rw [toldInOrder, ih, upToFailure]
    cases c.failure?.isSome <;> simp

theorem upToFailure_eq_self_iff {cs : List Callback} :
    upToFailure cs = cs ↔ ∀ c ∈ cs.dropLast, c.failure? = none := by
  induction cs with
  | nil => simp [upToFailure]
  | cons c cs ih =>
    cases cs with
    | nil => simp [upToFailure]
    | cons c' cs =>
      rw [upToFailure, List.dropLast_cons_cons]
      split_ifs with hc
      · have hne : c.failure? ≠ none := Option.isSome_iff_ne_none.mp hc
        simp [hne]
      · rw [List.cons_inj_right, ih, List.forall_mem_cons]
        simp [Option.not_isSome_iff_eq_none.mp hc]

end Callback

open Callback (upToFailure)

/-! ## Before the end -/

/-- Whether some steps lead from one run to another, with these callbacks registered on the way. -/
inductive Hears : Run → List Callback → Run → Prop
  | refl (r : Run) : Hears r [] r
  | registered {r r' : Run} {cs : List Callback} (h : Hears r cs r') (c : Callback) :
      Hears r (cs ++ [c]) (r'.onDone c).1
  | other {r r' r'' : Run} {cs : List Callback} (h : Hears r cs r') (step : Step r' r'')
      (ne_onDone : ∀ c, r'' ≠ (r'.onDone c).1) : Hears r cs r''

theorem Step.isDone_eq_false {r r' : Run} (h : Step r r') (hr' : r'.isDone = false) :
    r.isDone = false := by
  rcases h.settled_or_state_eq with hsettled | hstate
  · exact absurd (hsettled.isDone.symm.trans hr') (by simp)
  · rwa [isDone, hstate] at hr'

/-- Before the end nothing but a registration changes the callbacks, and none is called. -/
theorem Step.callbacks_eq {r r' : Run} (h : Step r r') (hr' : r'.isDone = false)
    (hne : ∀ c, r' ≠ (r.onDone c).1) : r'.callbacks = r.callbacks ∧ r'.calls = r.calls := by
  cases h with
  | start h =>
    obtain ⟨-, rfl⟩ := eq_begun_of_start h
    exact ⟨rfl, rfl⟩
  | settle => exact absurd ((isDone_settle r).symm.trans hr') (by simp)
  | onDone c => exact absurd rfl (hne c)
  | wait =>
    obtain ⟨waiters, answers, heq⟩ := wait_eq r
    rw [heq]
    exact ⟨rfl, rfl⟩
  | _ => exact ⟨rfl, rfl⟩

/-- **Until a run is done, all callbacks are kept**, in the order in which they were registered. -/
theorem Hears.callbacks_eq {r r' : Run} {cs : List Callback} (h : Hears r cs r')
    (hr' : r'.isDone = false) : r'.callbacks = r.callbacks ++ cs ∧ r'.calls = r.calls := by
  induction h with
  | refl => exact ⟨(List.append_nil _).symm, rfl⟩
  | @registered r' cs _ c ih =>
    have hr : r'.isDone = false := (Step.onDone r' c).isDone_eq_false hr'
    obtain ⟨hcallbacks, hcalls⟩ := ih hr
    rw [onDone, if_neg (by simp [hr]), register, hcallbacks, List.append_assoc]
    exact ⟨rfl, hcalls⟩
  | other _ hstep hne ih =>
    obtain ⟨hcallbacks, hcalls⟩ := hstep.callbacks_eq hr' hne
    rw [hcallbacks, hcalls]
    exact ih (hstep.isDone_eq_false hr')

/-! ## Calling when the run is done -/

mutual

theorem call_of_isDone {r : Run} (hr : r.isDone = true) : ∀ c : Callback,
    r.call c = ({ r with calls := r.calls ++ c.told.map (·, r.state) }, c.failure?)
  | ⟨label, next, failure⟩ => by
    have hnext :=
      registerAll_of_isDone (r := { r with calls := r.calls ++ [(label, r.state)] }) hr next
    rw [call, hnext, Callback.failure?, Callback.told, List.map_cons, List.append_assoc]
    cases Callback.firstFailure? next <;> rfl

/-- **One after the other.** Callbacks that are registered when the run is done are called at once,
up to one that fails. -/
theorem registerAll_of_isDone {r : Run} (hr : r.isDone = true) : ∀ cs : List Callback,
    r.registerAll cs
      = ({ r with calls := r.calls ++ (Callback.toldInOrder cs).map (·, r.state) },
        Callback.firstFailure? cs)
  | [] => by rw [registerAll, Callback.toldInOrder, List.map_nil, List.append_nil]; rfl
  | c :: cs => by
    rw [registerAll, if_pos hr, call_of_isDone hr c, Callback.firstFailure?, Callback.toldInOrder]
    cases hf : c.failure? with
    | some f => simp
    | none =>
      have hrest :=
        registerAll_of_isDone (r := { r with calls := r.calls ++ c.told.map (·, r.state) }) hr cs
      simp only [Option.isSome_none, Bool.false_eq_true, if_false, Option.none_or]
      rw [hrest, List.append_assoc, List.map_append]

end

theorem callAll_eq_registerAll {r : Run} (hr : r.isDone = true) (cs : List Callback) :
    r.callAll cs = r.registerAll cs := by
  induction cs generalizing r with
  | nil => rfl
  | cons c cs ih =>
    rw [callAll, registerAll, if_pos hr, call_of_isDone hr]
    cases c.failure? with
    | some f => rfl
    | none => exact ih (r := { r with calls := r.calls ++ c.told.map (·, r.state) }) hr

theorem callAll_of_isDone {r : Run} (hr : r.isDone = true) (cs : List Callback) :
    r.callAll cs
      = ({ r with calls := r.calls ++ ((upToFailure cs).flatMap (·.told)).map (·, r.state) },
        cs.findSome? (·.failure?)) := by
  rw [callAll_eq_registerAll hr, registerAll_of_isDone hr, Callback.firstFailure?_eq,
    Callback.toldInOrder_eq]

/-- How a run ends with these callbacks registered: those up to the first that fails have been
called, each once, in order and with the final state; the others have not, and nobody is left to be
called. The failure is that of the first callback that fails. -/
structure Ends (cs : List Callback) (e : Run × Option Failure) : Prop where
  isDone : e.1.isDone = true
  calls_eq : e.1.calls = ((upToFailure cs).flatMap (·.told)).map (·, e.1.state)
  callbacks_eq : e.1.callbacks = []
  failure_eq : e.2 = cs.findSome? (·.failure?)

/-- The end of a run, told by the callbacks that are registered. -/
theorem complete_eq_told (r : Run) :
    r.complete = ({ r.settle with
      callbacks := []
      calls := r.calls ++ ((upToFailure r.callbacks).flatMap (·.told)).map (·, r.settle.state) },
        r.callbacks.findSome? (·.failure?)) :=
  callAll_of_isDone (r := { r.settle with callbacks := [] }) (isDone_settle r) r.callbacks

theorem ends_complete {r : Run} {cs : List Callback} (hcallbacks : r.callbacks = cs)
    (hcalls : r.calls = []) : Ends cs r.complete := by
  subst hcallbacks
  rw [complete_eq_told, hcalls]
  exact ⟨isDone_settle r, rfl, rfl, rfl⟩

/-- A run that is run in one go, with nobody waiting in the end, ends as it is completed. -/
theorem run_eq_complete {r : Run} (hs : r.isStarted = false)
    (hw : r.begun.turns.finish.waiting = []) :
    let e := { r.begun with turns := r.begun.turns.finish }.complete
    r.run = (e.1, match e.2 with
      | none => .ok e.1.state
      | some f => .error f) := by
  intro e
  rw [run, start, if_neg (by simp [hs])]
  simp only [hw, List.isEmpty_nil, if_true]
  split <;> rename_i h <;> simp only [e, h]

/-- **Callbacks that are registered before a run is done**, at any time, are all kept until then.
When the run ends, be it completed after any turns or run in one go, those up to the first that
fails are called, each once and with the final state, and the run fails as that callback does. So
all of them are called exactly if none but the last one fails. -/
theorem ends_of_hears {r₀ r : Run} {cs : List Callback} (hcallbacks : r₀.callbacks = [])
    (hcalls : r₀.calls = []) (h : Hears r₀ cs r) (hr : r.isDone = false) :
    r.callbacks = cs ∧ r.calls = [] ∧ Ends cs r.complete
      ∧ (r.isStarted = false → r.begun.turns.finish.waiting = [] →
        ∃ e, Ends cs e ∧ r.run = (e.1, match e.2 with
          | none => .ok e.1.state
          | some f => .error f))
      ∧ (upToFailure cs = cs ↔ ∀ c ∈ cs.dropLast, c.failure? = none) := by
  obtain ⟨hkept, hnone⟩ := h.callbacks_eq hr
  rw [hcallbacks, List.nil_append] at hkept
  rw [hcalls] at hnone
  refine ⟨hkept, hnone, ends_complete hkept hnone, fun hs hw ↦ ?_,
    Callback.upToFailure_eq_self_iff⟩
  have hends : Ends cs { r.begun with turns := r.begun.turns.finish }.complete :=
    ends_complete hkept hnone
  exact ⟨_, hends, run_eq_complete hs hw⟩

/-- A rule warns, yields and fails, and three callbacks are registered, of which the second has a
failing one registered. The first two are called, and the third is not. -/
theorem ends_of_hears_warned :
    let d : Document := ⟨⟨[.element ⟨"svg", none, []⟩ []], []⟩, none⟩
    let instances : List Rule.Instance := [⟨"first", .script ⟨"f", true,
      [.warn "seen" none, .yield, .raise ⟨.runtime, "stop"⟩]⟩⟩]
    let f : Failure := ⟨.runtime, "callback"⟩
    let cs : List Callback := [.returns "a", .registers "b" (.fails "b+" f), .returns "c"]
    let r := cs.foldl (fun r c ↦ (r.onDone c).1) (ofInstances d instances "")
    Hears (ofInstances d instances "") cs r ∧ r.isDone = false
      ∧ r.begun.turns.finish.waiting = []
      ∧ r.run.1.calls = [("a", .error), ("b", .error), ("b+", .error)] ∧ r.run.2 = .error f := by
  intro d instances f cs r
  have hears : Hears (ofInstances d instances "") cs r :=
    (((Hears.refl _).registered _).registered _).registered _
  have hw : r.begun.turns.finish.waiting = [] :=
    List.eq_nil_of_length_eq_zero (by decide +kernel)
  obtain ⟨-, -, -, hrun, -⟩ := ends_of_hears rfl rfl hears rfl
  obtain ⟨e, hends, hrun⟩ := hrun rfl hw
  have hstate : e.1.state = .error := by
    have hrunState : r.run.1.state = .error := by decide +kernel
    rwa [hrun] at hrunState
  rw [hrun, hends.calls_eq, hends.failure_eq, hstate]
  exact ⟨hears, rfl, hw, rfl, rfl⟩

/-- A callback that is registered behind one that fails is never called, although the run is done:
not every callback is called once when the run has ended. -/
theorem not_called_behind_failure :
    let d : Document := ⟨⟨[.element ⟨"svg", none, []⟩ []], []⟩, none⟩
    let cs : List Callback := [.fails "a" ⟨.runtime, "callback a"⟩, .returns "b"]
    let r := (cs.foldl (fun r c ↦ (r.onDone c).1) (ofInstances d [] "")).run
    r.1.isDone = true ∧ r.1.callbacks = [] ∧ r.1.calls.countP (·.1 = "b") ≠ 1 := by
  decide +kernel

end VectorLint.Run
