import Mathlib.Data.List.Basic
import Mathlib.Tactic.Conv
import Mathlib.Tactic.Set
import VectorLint.Proofs.Rule.Actions
import VectorLint.Proofs.Run.Turns
import VectorLint.Proofs.Run.Verdict

/-!
# Runs of rules that finish in one turn

Rules that neither yield nor wait take one turn each, in the order of the instances, and nothing
that one of them does is seen by another: the events that it sets are waited for by nobody, and a
failure ends nothing but the rule. The findings of the run are the findings of the instances one
after the other, where those of an instance depend on nothing but the instance and the document.

So the run of two lists of instances is told by the runs of the two. The same holds for a single
instance in the middle of a list: whether it fails, is misconfigured or allows an element, all
others find what they would find without it.
-/

namespace VectorLint

namespace Run

namespace Turns

/-! ## One turn is enough -/

theorem playAll_of_synchronous {ready : List Task}
    (h : ∀ t ∈ ready, .yield ∉ t.rest ∧ ∀ e, .wait e ∉ t.rest) {s : Turns}
    (hr : s.ready = ready) (hs : s.waiting = []) {fuel : Nat} (hfuel : ready.length ≤ fuel) :
    (playAll fuel s).waiting = []
      ∧ (playAll fuel s).report = ready.foldl
          (fun r t ↦ t.rest.foldl (Action.perform t.player.view) r) s.report := by
  obtain ⟨s', hplay, hready, hwaiting, hreport⟩ := exists_playAll_round (fun t ht ↦ (h t ht).2)
    (hr.trans (List.append_nil _).symm) hs (fuel - ready.length)
  -- nobody is left after the first round, and in it everybody does all there is to do
  have hnone : ready.filterMap next? = [] := by
    refine List.filterMap_eq_nil_iff.mpr ?_
    intro t ht
    rw [next?, (turn_of_notMem (h t ht).1).2, Option.map_none]
  have hnow : ready.map now = ready := by
    refine (List.map_congr_left ?_).trans (List.map_id ready)
    intro t ht
    rw [now, (turn_of_notMem (h t ht).1).1, id]
  rw [hnone] at hready
  rw [hnow] at hreport
  rw [Nat.add_sub_cancel' hfuel, playAll_of_ready_eq_nil hready] at hplay
  rw [hplay]
  exact ⟨hwaiting, hreport⟩

theorem length_ready_le_load (s : Turns) : s.ready.length ≤ s.load := by
  rw [load]
  refine Nat.le_add_right_of_le ?_
  induction s.ready with
  | nil => exact Nat.le_refl _
  | cons t ready ih =>
    rw [List.length_cons, Task.total, Task.load]
    omega

end Turns

/-! ## What an instance finds -/

/-- The actions of an instance, up to the one that tells how it ended. -/
def actionsOf (d : Document) (i : Rule.Instance) : List Action :=
  (i.rule.conduct d).actions ++ Task.ending i.name (i.rule.conduct d).failure

/-- What an instance finds when nothing holds it up. -/
def findingsOf (v : View) (d : Document) (i : Rule.Instance) : List Diagnostic :=
  Action.findings (v.scoped i.name) (actionsOf d i)

theorem isRemark_of_mem_ending {name : String} {failure : Option Failure} {a : Action}
    (h : a ∈ Task.ending name failure) : a.IsRemark := by
  cases failure with
  | none =>
    rw [List.mem_singleton.mp h]
    trivial
  | some f =>
    simp only [Task.ending, List.mem_cons, List.not_mem_nil, or_false] at h
    rcases h with rfl | rfl <;> trivial

theorem mem_actionsOf {d : Document} {i : Rule.Instance} {a : Action} (h : a ∈ actionsOf d i) :
    a.IsPlain ∨ a ∈ (i.rule.conduct d).actions :=
  (List.mem_append.mp h).elim .inr fun h ↦ .inl (isRemark_of_mem_ending h).isPlain

theorem close_notMem_actionsOf {i : Rule.Instance} (hi : i.rule.KeepsOpen) (d : Document) :
    .close ∉ actionsOf d i :=
  fun h ↦ (mem_actionsOf h).elim id (Rule.close_notMem_conduct hi d)

theorem yield_notMem_actionsOf {i : Rule.Instance} (hi : i.rule.IsSynchronous) (d : Document) :
    .yield ∉ actionsOf d i :=
  fun h ↦ (mem_actionsOf h).elim id (Rule.yield_notMem_conduct hi d)

theorem wait_notMem_actionsOf {i : Rule.Instance} (hi : i.rule.NeverWaits) (d : Document)
    (e : String) : .wait e ∉ actionsOf d i :=
  fun h ↦ (mem_actionsOf h).elim id (Rule.wait_notMem_conduct hi d e)

/-! ## The run -/

theorem isClosed_foldl_tasks {tasks : List Task} (h : ∀ t ∈ tasks, .close ∉ t.rest) (r : Report) :
    (tasks.foldl (fun r t ↦ t.rest.foldl (Action.perform t.player.view) r) r).isClosed
      = r.isClosed := by
  induction tasks generalizing r with
  | nil => rfl
  | cons t tasks ih =>
    rw [List.foldl_cons, ih fun t ht ↦ h t (List.mem_cons_of_mem _ ht),
      Action.isClosed_foldl_perform (h t List.mem_cons_self)]

theorem diagnostics_foldl_tasks {tasks : List Task} (h : ∀ t ∈ tasks, .close ∉ t.rest)
    {r : Report} (hr : r.isClosed = false) :
    (tasks.foldl (fun r t ↦ t.rest.foldl (Action.perform t.player.view) r) r).diagnostics.toList
      = r.diagnostics.toList
        ++ tasks.flatMap fun t ↦ Action.findings t.player.view t.rest := by
  induction tasks generalizing r with
  | nil => simp
  | cons t tasks ih =>
    have ht := h t List.mem_cons_self
    have hopen : (t.rest.foldl (Action.perform t.player.view) r).isClosed = false := by
      rw [Action.isClosed_foldl_perform ht, hr]
    rw [List.foldl_cons, ih (fun t ht ↦ h t (List.mem_cons_of_mem _ ht)) hopen,
      Action.diagnostics_foldl_perform ht _ hr, List.flatMap_cons, List.append_assoc]

variable (d : Document) (logger : String) (instances : List Rule.Instance)

/-- The run of a document with some instances after it was run. -/
def finished : Run := (ofInstances d instances logger).run.1

theorem mem_tasks {r : Run} {t : Task} (h : t ∈ r.tasks) :
    ∃ i ∈ r.instances, t.rest = actionsOf r.document i := by
  obtain ⟨⟨i, number⟩, hi, rfl⟩ := List.mem_map.mp h
  exact ⟨i, List.zipIdx_map_fst 0 r.instances ▸ List.mem_map_of_mem hi, rfl⟩

private theorem flatMap_tasks (r : Run) :
    (r.tasks.flatMap fun t ↦ Action.findings t.player.view t.rest)
      = r.instances.flatMap (findingsOf r.view r.document) := by
  conv_rhs => rw [← List.zipIdx_map_fst 0 r.instances, List.flatMap_map]
  rw [tasks, List.flatMap_map]
  rfl

variable {instances}

/-- **A run in one round.** Nobody waits at its end, and its findings are those of its instances,
one after the other. -/
private theorem finish_of_synchronous (hsync : ∀ i ∈ instances, i.rule.IsSynchronous)
    (hopen : ∀ i ∈ instances, i.rule.KeepsOpen) :
    (ofInstances d instances logger).begun.turns.finish.waiting = []
      ∧ (ofInstances d instances logger).begun.turns.finish.report.diagnostics.toList
        = instances.flatMap (findingsOf ⟨d.name, logger⟩ d) := by
  set r := ofInstances d instances logger with hr
  have hready : ∀ t ∈ r.tasks, .yield ∉ t.rest ∧ ∀ e, .wait e ∉ t.rest := by
    intro t ht
    obtain ⟨i, hi, hrest⟩ := mem_tasks ht
    rw [hrest]
    exact ⟨yield_notMem_actionsOf (hsync i hi) _, wait_notMem_actionsOf (hsync i hi).neverWaits _⟩
  have hclose : ∀ t ∈ r.tasks, .close ∉ t.rest := by
    intro t ht
    obtain ⟨i, hi, hrest⟩ := mem_tasks ht
    rw [hrest]
    exact close_notMem_actionsOf (hopen i hi) _
  obtain ⟨hwaiting, hreport⟩ := Turns.playAll_of_synchronous hready (s := r.begun.turns) rfl rfl
    (Turns.length_ready_le_load r.begun.turns)
  refine ⟨hwaiting, ?_⟩
  rw [Turns.finish, hreport, diagnostics_foldl_tasks hclose rfl, flatMap_tasks]
  rfl

theorem finished_of_synchronous (hsync : ∀ i ∈ instances, i.rule.IsSynchronous)
    (hopen : ∀ i ∈ instances, i.rule.KeepsOpen) :
    (ofInstances d instances logger).run.2 = .ok (finished d logger instances).state
      ∧ (finished d logger instances).isDone = true
      ∧ (finished d logger instances).diagnostics
        = instances.flatMap (findingsOf ⟨d.name, logger⟩ d)
      ∧ (finished d logger instances).state = State.ofSeverities
        ((instances.flatMap (findingsOf ⟨d.name, logger⟩ d)).map (·.severity)) := by
  obtain ⟨hwaiting, hfound⟩ := finish_of_synchronous d logger hsync hopen
  rw [finished, run_of_finish rfl rfl hwaiting]
  refine ⟨rfl, isDone_settle _, hfound, ?_⟩
  rw [state_settle]
  exact congrArg (fun found ↦ State.ofSeverities (found.map (·.severity))) hfound

/-- **Two lists of instances.** If no rule suspends or closes the report, then the runs of both
lists and of their concatenation finish, the last one finds what the first finds and then what the
second finds, and its state is the worse of the two. What an instance finds in a run is what it
finds in a run of its own. -/
theorem finished_append {A B : List Rule.Instance} (hsync : ∀ i ∈ A ++ B, i.rule.IsSynchronous)
    (hopen : ∀ i ∈ A ++ B, i.rule.KeepsOpen) :
    (∀ xs ∈ [A, B, A ++ B], (ofInstances d xs logger).run.2 = .ok (finished d logger xs).state
        ∧ (finished d logger xs).isDone = true)
      ∧ (finished d logger (A ++ B)).diagnostics
        = (finished d logger A).diagnostics ++ (finished d logger B).diagnostics
      ∧ (finished d logger (A ++ B)).state
        = (finished d logger A).state.worse (finished d logger B).state
      ∧ (finished d logger (A ++ B)).diagnostics
        = (A ++ B).flatMap fun i ↦ (finished d logger [i]).diagnostics := by
  have hall : ∀ xs ⊆ A ++ B, _ := fun xs h ↦ finished_of_synchronous d logger
    (fun i hi ↦ hsync i (h hi)) (fun i hi ↦ hopen i (h hi))
  obtain ⟨hokA, hdoneA, hfoundA, hstateA⟩ := hall A (List.subset_append_left A B)
  obtain ⟨hokB, hdoneB, hfoundB, hstateB⟩ := hall B (List.subset_append_right A B)
  obtain ⟨hok, hdone, hfound, hstate⟩ := hall (A ++ B) (List.Subset.refl _)
  refine ⟨?_, ?_, ?_, ?_⟩
  · intro xs hxs
    simp only [List.mem_cons, List.not_mem_nil, or_false] at hxs
    rcases hxs with rfl | rfl | rfl
    · exact ⟨hokA, hdoneA⟩
    · exact ⟨hokB, hdoneB⟩
    · exact ⟨hok, hdone⟩
  · rw [hfound, hfoundA, hfoundB, List.flatMap_append]
  · rw [hstate, hstateA, hstateB, ← State.ofSeverities_append, ← List.map_append,
      ← List.flatMap_append]
  · rw [hfound]
    refine List.flatMap_congr fun i hi ↦ ?_
    obtain ⟨-, -, hone, -⟩ := hall [i] fun x hx ↦ List.mem_singleton.mp hx ▸ hi
    rw [hone, List.flatMap_singleton]

/-- An instance that fails after a warning and one of an unknown rule stand before one that finds an
error; each reports what it would report alone. -/
theorem finished_append_failing :
    let A : List Rule.Instance := [⟨"first", .script ⟨"f", false,
      [.warn "seen" none, .raise ⟨.runtime, "stop"⟩, .error "never" none]⟩⟩, ⟨"x", .unknown "x"⟩]
    let B : List Rule.Instance := [⟨"last", .notice ⟨some .error, .text "found", .standard⟩⟩]
    let d : Document := ⟨⟨[.element ⟨"svg", none, []⟩ []], []⟩, none⟩
    (∀ i ∈ A ++ B, i.rule.IsSynchronous) ∧ (∀ i ∈ A ++ B, i.rule.KeepsOpen)
      ∧ (finished d "" (A ++ B)).diagnostics.map (·.shown) = ["[WARNING] first: seen",
        "[EXCEPTION] first: RuntimeError: stop",
        "[EXCEPTION] x: ConfigurationError: Unknown rule 'x'", "[ERROR] last: found"] := by
  intro A B d
  have hsync : ∀ i ∈ A ++ B, i.rule.IsSynchronous := by simp [A, B, Rule.IsSynchronous]
  have hopen : ∀ i ∈ A ++ B, i.rule.KeepsOpen := by simp [A, B, Rule.KeepsOpen]
  refine ⟨hsync, hopen, ?_⟩
  rw [(finished_append d "" hsync hopen).2.1]
  decide +kernel

end Run

end VectorLint
