import Mathlib.Logic.Relation
import VectorLint.Proofs.Run.Orders

/-!
# The life of a run

Whatever is done with a run is a sequence of steps: it is started, somebody takes a turn, it is
settled, a callback is registered or called, somebody waits, and reports are made or the report is
closed, through any view and at any time. What the program does in one go, such as to run a run or
to call all callbacks, consists of such steps, so that what is said about all sequences of steps
holds between the callbacks as well, and for everything that callbacks and rules do to the run.

A run is done from the step on that settles it. The two facts that carry all others are that a run
that is done is *settled*, and that every instance of a run that was started has either a task left
or said its last word in the log. A settled run has no task left, which is why settling it again or
taking a turn is out of the question, and its report is closed, which is why its verdict stands.
-/

namespace VectorLint.Run

/-! ## Steps -/

/-- One thing that is done with a run. -/
inductive Step : Run → Run → Prop
  | start {r r' : Run} (start_eq : r.start = .ok r') : Step r r'
  | turn {r : Run} {before after : List Task} {t : Task}
      (ready_eq : r.turns.ready = before ++ t :: after) :
      Step r { r with turns := r.turns.resume before t after }
  | settle {r : Run} (isStarted : r.isStarted = true) (isDone : r.isDone = false)
      (ready_eq : r.turns.ready = []) (waiting_eq : r.turns.waiting = []) :
      Step r { r.settle with callbacks := [] }
  | onDone (r : Run) (c : Callback) : Step r (r.onDone c).1
  | wait (r : Run) : Step r r.wait
  | report (r : Run) (v : View) (severity : Severity) (message : Value)
      (element : Option Element) :
      Step r (r.withReport (r.report.report v severity message element))
  | close (r : Run) : Step r (r.withReport r.report.close)

/-- Whether some steps lead from one run to another. -/
def Reaches (r r' : Run) : Prop := Relation.ReflTransGen Step r r'

/-- Whether a run is as it was made. -/
structure IsNew (r : Run) : Prop where
  isStarted : r.isStarted = false
  state_eq : r.state = .pending
  ready_eq : r.turns.ready = []
  waiting_eq : r.turns.waiting = []

theorem isNew_ofInstances (d : Document) (instances : List Rule.Instance) (logger : String) :
    (ofInstances d instances logger).IsNew := ⟨rfl, rfl, rfl, rfl⟩

theorem eq_begun_of_start {r r' : Run} (h : r.start = .ok r') :
    r.isStarted = false ∧ r' = r.begun := by
  rw [start] at h
  split at h
  · cases h
  · rename_i hs
    cases h
    exact ⟨by simpa using hs, rfl⟩

theorem onDone_eq (r : Run) (c : Callback) :
    ∃ calls callbacks, (r.onDone c).1 = { r with calls, callbacks } := by
  rw [onDone]
  split
  · exact call_eq r c
  · exact ⟨r.calls, r.callbacks ++ [c], rfl⟩

theorem wait_eq (r : Run) : ∃ waiters answers, r.wait = { r with waiters, answers } := by
  rw [wait]
  split
  · exact ⟨r.waiters, r.answers ++ [r.state], rfl⟩
  · exact ⟨r.waiters + 1, r.answers, rfl⟩

/-! ## What the program does in one go -/

theorem reaches_of_order {s s' : Turns} {σ : List (Nat × List Diagnostic)}
    (h : Turns.Order s σ s') (r : Run) : Reaches { r with turns := s } { r with turns := s' } := by
  induction h with
  | nil s => exact .refl
  | @turn s s' before after t σ hready _ ih =>
    exact .head (Step.turn (r := { r with turns := s }) hready) ih

theorem reaches_callAll {r : Run} (hr : r.isDone = true) (cs : List Callback) :
    Reaches r (r.callAll cs).1 := by
  induction cs generalizing r with
  | nil => exact .refl
  | cons c cs ih =>
    have hcall : r.onDone c = r.call c := if_pos hr
    have hstep : Step r (r.call c).1 := hcall ▸ Step.onDone r c
    obtain ⟨calls, callbacks, heq⟩ := call_eq r c
    have hdone : (r.call c).1.isDone = true := by
      rw [heq]
      exact hr
    rw [callAll]
    split
    · rename_i r' h
      rw [h] at hstep hdone
      exact .head hstep (ih hdone)
    · rename_i r' f h
      rw [h] at hstep
      exact .single hstep

theorem reaches_complete {r : Run} (hs : r.isStarted = true) (hd : r.isDone = false)
    (hr : r.turns.ready = []) (hw : r.turns.waiting = []) : Reaches r r.complete.1 :=
  .head (Step.settle hs hd hr hw)
    (reaches_callAll (r := { r.settle with callbacks := [] }) (isDone_settle r) r.settle.callbacks)

theorem reaches_endingWith_finish {r : Run} (hs : r.isStarted = false) (hd : r.isDone = false) :
    Reaches r (r.endingWith r.begun.turns.finish) := by
  have hstart : r.start = .ok r.begun := if_neg (by simp [hs])
  obtain ⟨σ, horder, hready⟩ := Turns.maximalOrder_finish r.begun.turns
  have hturns : Reaches r { r.begun with turns := r.begun.turns.finish } :=
    .head (Step.start hstart) (reaches_of_order horder r.begun)
  rw [endingWith]
  split
  · rename_i hw
    exact hturns.trans (reaches_complete rfl hd hready (List.isEmpty_iff.mp hw))
  · exact hturns

/-- To run a run is a sequence of steps, of which there are none if it was started before. -/
theorem reaches_run {r : Run} (hr : r.isDone = true → r.isStarted = true) :
    Reaches r r.run.1 := by
  cases hs : r.isStarted with
  | true =>
    rw [run, start, if_pos hs]
    exact .refl
  | false =>
    have hd : r.isDone = false := by
      cases hd : r.isDone with
      | false => rfl
      | true => exact absurd ((hr hd).symm.trans hs) (by simp)
    rw [run_eq_endingWith_finish hs]
    exact reaches_endingWith_finish hs hd

/-! ## The last word of an instance -/

/-- The record with which an instance ends: that it has finished, or that it has failed. -/
def lastRecord (r : Run) (i : Rule.Instance) : Log.Record :=
  let logger := (r.view.scoped i.name).logger
  match (i.rule.conduct r.document).failure with
  | none => .debug logger "Finished"
  | some f => ⟨logger, .error, "Rule " ++ i.name ++ " failed with error: " ++ f.shown⟩

private theorem exists_ending_eq (r : Run) (i : Rule.Instance) :
    ∃ level message more,
      Task.ending i.name (i.rule.conduct r.document).failure = .note level none message :: more
        ∧ r.lastRecord i = ⟨(r.view.scoped i.name).logger, level, message⟩ := by
  rw [lastRecord]
  cases (i.rule.conduct r.document).failure with
  | none => exact ⟨_, _, _, rfl, rfl⟩
  | some f => exact ⟨_, _, _, rfl, rfl⟩

theorem mem_log_add {record : Log.Record} {report : Report} (h : record ∈ report.log)
    (logger : String) (d : Diagnostic) : record ∈ (report.add logger d).log := by
  rw [Report.add]
  split
  · exact Array.mem_push_of_mem _ h
  · exact Array.mem_push_of_mem _ h

theorem mem_log_perform {record : Log.Record} {report : Report} (h : record ∈ report.log)
    (v : View) (a : Action) : record ∈ (a.perform v report).log := by
  cases a with
  | note level logger message => exact Array.mem_push_of_mem _ h
  | report severity message element => exact mem_log_add h _ _
  | _ => exact h

namespace Turns

/-- The tasks that are left. -/
def left (s : Turns) : List Task := s.ready ++ s.waiting.map (·.2)

theorem left_set (s : Turns) (e : String) : (s.set e).left.Perm s.left := by
  rw [left, set, List.append_assoc, ← List.map_append, left]
  exact ((perm_filter_waiting s e).map _).append_left _

theorem mem_left_play {t : Task} {s : Turns} (h : t ∈ s.left) (p : Player) (L : List Action) :
    t ∈ (play p L s).left := by
  fun_induction play p L s with
  | case1 s => exact h
  | case2 rest s =>
    rw [left, List.append_assoc]
    exact (List.perm_middle.mem_iff).mpr (List.mem_cons_of_mem _ h)
  | case3 e rest s _ ih => exact ih h
  | case4 e rest s =>
    rw [left, List.map_append, ← List.append_assoc]
    exact List.mem_append_left _ h
  | case5 e rest s ih => exact ih ((left_set s e).mem_iff.mpr h)
  | case6 a rest s _ _ _ ih => exact ih h

theorem mem_log_play {record : Log.Record} {s : Turns} (h : record ∈ s.report.log) (p : Player)
    (L : List Action) : record ∈ (play p L s).report.log := by
  fun_induction play p L s with
  | case1 s => exact h
  | case2 rest s => exact h
  | case3 e rest s _ ih => exact ih h
  | case4 e rest s => exact h
  | case5 e rest s ih => exact ih h
  | case6 a rest s _ _ _ ih => exact ih (mem_log_perform h p.view a)

theorem suffix_play {level : Log.Level} {message : String} {more : List Action} (p : Player)
    {L : List Action} (h : .note level none message :: more <:+ L) (s : Turns) :
    (∃ t ∈ (play p L s).left, t.player = p ∧ .note level none message :: more <:+ t.rest)
      ∨ ⟨p.view.logger, level, message⟩ ∈ (play p L s).report.log := by
  fun_induction play p L s with
  | case1 s => cases List.suffix_nil.mp h
  | case2 rest s =>
    rcases List.suffix_cons_iff.mp h with heq | h
    · cases heq
    · refine .inl ⟨⟨p, rest⟩, ?_, rfl, h⟩
      rw [left, List.append_assoc]
      exact List.perm_middle.mem_iff.mpr List.mem_cons_self
  | case3 e rest s _ ih =>
    rcases List.suffix_cons_iff.mp h with heq | h
    · cases heq
    · exact ih h
  | case4 e rest s =>
    rcases List.suffix_cons_iff.mp h with heq | h
    · cases heq
    · refine .inl ⟨⟨p, rest⟩, ?_, rfl, h⟩
      rw [left, List.map_append]
      exact List.mem_append_right _ (List.mem_append_right _ List.mem_cons_self)
  | case5 e rest s ih =>
    rcases List.suffix_cons_iff.mp h with heq | h
    · cases heq
    · exact ih h
  | case6 a rest s _ _ _ ih =>
    rcases List.suffix_cons_iff.mp h with heq | h
    · cases heq
      exact .inr (mem_log_play Array.mem_push_self p more)
    · exact ih h

end Turns

/-- Whether an instance still has a task, or has said its last word. -/
def Accounts (r : Run) (i : Rule.Instance) : Prop :=
  (∃ t ∈ r.turns.left, t.player.view = r.view.scoped i.name
      ∧ Task.ending i.name (i.rule.conduct r.document).failure <:+ t.rest)
    ∨ r.lastRecord i ∈ r.report.log

theorem accounts_begun (r : Run) {i : Rule.Instance} (hi : i ∈ r.instances) :
    r.begun.Accounts i := by
  rw [← List.zipIdx_map_fst 0 r.instances] at hi
  obtain ⟨⟨i, number⟩, hmem, rfl⟩ := List.mem_map.mp hi
  have htask : Task.ofInstance r.view r.document i number ∈ r.begun.turns.left :=
    List.mem_append_left _ (List.mem_map_of_mem hmem)
  exact .inl ⟨_, htask, rfl, List.suffix_append _ _⟩

theorem Accounts.turn {r : Run} {i : Rule.Instance} (h : r.Accounts i) {before after : List Task}
    {t : Task} (hready : r.turns.ready = before ++ t :: after) :
    { r with turns := r.turns.resume before t after }.Accounts i := by
  rcases h with ⟨u, hu, hview, hrest⟩ | h
  · rw [Turns.left, hready, List.append_assoc, List.cons_append] at hu
    rcases List.mem_cons.mp (List.perm_middle.mem_iff.mp hu) with rfl | hu
    -- the task that accounts for the instance takes the turn itself
    · obtain ⟨level, message, more, hending, hlast⟩ := exists_ending_eq r i
      rw [hending] at hrest
      have hcases := Turns.suffix_play u.player hrest { r.turns with ready := before ++ after }
      rw [hview, ← hlast] at hcases
      refine hcases.imp (fun ⟨v, hv, hplayer, hsuffix⟩ ↦ ⟨v, hv, ?_, ?_⟩) id
      · rw [hplayer]
        exact hview
      · exact hending ▸ hsuffix
    · rw [← List.append_assoc] at hu
      exact .inl ⟨u, Turns.mem_left_play (s := { r.turns with ready := before ++ after }) hu _ _,
        hview, hrest⟩
  · exact .inr (Turns.mem_log_play (s := { r.turns with ready := before ++ after }) h _ _)

theorem Step.subject_eq {r r' : Run} (h : Step r r') :
    r'.document = r.document ∧ r'.instances = r.instances ∧ r'.logger = r.logger := by
  cases h with
  | start h =>
    obtain ⟨-, rfl⟩ := eq_begun_of_start h
    exact ⟨rfl, rfl, rfl⟩
  | onDone c =>
    obtain ⟨calls, callbacks, heq⟩ := onDone_eq r c
    rw [heq]
    exact ⟨rfl, rfl, rfl⟩
  | wait =>
    obtain ⟨waiters, answers, heq⟩ := wait_eq r
    rw [heq]
    exact ⟨rfl, rfl, rfl⟩
  | _ => exact ⟨rfl, rfl, rfl⟩

theorem Step.instances_eq {r r' : Run} (h : Step r r') : r'.instances = r.instances :=
  h.subject_eq.2.1

theorem Step.tasks_eq {r r' : Run} (h : Step r r') : r'.tasks = r.tasks := by
  obtain ⟨hdocument, hinstances, hlogger⟩ := h.subject_eq
  rw [tasks, tasks, view, view, hdocument, hinstances, hlogger]

/-- **The instances of a run that was started.** None of them is lost before its last word. -/
theorem Step.accounts {r r' : Run} (h : Step r r')
    (hr : r.isStarted = true → ∀ i ∈ r.instances, r.Accounts i) :
    r'.isStarted = true → ∀ i ∈ r'.instances, r'.Accounts i := by
  intro hs i hi
  rw [h.instances_eq] at hi
  cases h with
  | start h =>
    obtain ⟨-, rfl⟩ := eq_begun_of_start h
    exact accounts_begun r hi
  | turn hready => exact (hr hs i hi).turn hready
  | settle hs => exact (hr hs i hi).imp_right fun h ↦ Array.mem_push_of_mem _ h
  | onDone c =>
    obtain ⟨calls, callbacks, heq⟩ := onDone_eq r c
    rw [heq] at hs ⊢
    exact hr hs i hi
  | wait =>
    obtain ⟨waiters, answers, heq⟩ := wait_eq r
    rw [heq] at hs ⊢
    exact hr hs i hi
  | report v severity message element =>
    exact (hr hs i hi).imp_right fun h ↦ mem_log_add h _ _
  | close => exact hr hs i hi

/-! ## Settled runs -/

/-- A run that is done, with nothing left to do and a verdict on what it found. -/
structure Settled (r : Run) : Prop where
  isStarted : r.isStarted = true
  ready_eq : r.turns.ready = []
  waiting_eq : r.turns.waiting = []
  isClosed : r.report.isClosed = true
  isAnnounced : r.isAnnounced = true
  waiters_eq : r.waiters = 0
  state_eq : r.state = State.ofSeverities (r.diagnostics.map (·.severity))

theorem Settled.isDone {r : Run} (h : r.Settled) : r.isDone = true := by
  rw [Run.isDone, h.state_eq]
  exact decide_eq_true (State.ofSeverities_ne_pending _)

/-- **A step from a settled run.** It leaves the run settled, with the same verdict and findings. -/
theorem Step.settled {r r' : Run} (h : Step r r') (hr : r.Settled) :
    r'.Settled ∧ r'.state = r.state ∧ r'.diagnostics = r.diagnostics := by
  cases h with
  -- the first three are out of the question, and the others leave the report closed
  | start h => simp [Run.start, hr.isStarted] at h
  | turn hready => simp [hr.ready_eq] at hready
  | settle _ hd => simp [hr.isDone] at hd
  | onDone c =>
    obtain ⟨calls, callbacks, heq⟩ := onDone_eq r c
    rw [heq]
    exact ⟨{ hr with }, rfl, rfl⟩
  | wait =>
    rw [Run.wait, if_pos hr.isAnnounced]
    exact ⟨{ hr with }, rfl, rfl⟩
  | report v severity message element =>
    have hkept : (r.withReport (r.report.report v severity message element)).diagnostics
        = r.diagnostics :=
      congrArg Array.toList (Report.diagnostics_add_of_closed _ _ _ hr.isClosed)
    have hclosed : (r.report.report v severity message element).isClosed = true := by
      rw [Report.report, Report.isClosed_add, hr.isClosed]
    refine ⟨{ hr with isClosed := hclosed, state_eq := ?_ }, rfl, hkept⟩
    rw [hkept]
    exact hr.state_eq
  | close => exact ⟨{ hr with isClosed := rfl }, rfl, rfl⟩

/-- No step but the one that settles a run changes its state. -/
theorem Step.settled_or_state_eq {r r' : Run} (h : Step r r') :
    r'.Settled ∨ r'.state = r.state := by
  cases h with
  | start h =>
    obtain ⟨-, rfl⟩ := eq_begun_of_start h
    exact .inr rfl
  | settle hs _ hready hwaiting => exact .inl ⟨hs, hready, hwaiting, rfl, rfl, rfl, rfl⟩
  | onDone c =>
    obtain ⟨calls, callbacks, heq⟩ := onDone_eq r c
    rw [heq]
    exact .inr rfl
  | wait =>
    obtain ⟨waiters, answers, heq⟩ := wait_eq r
    rw [heq]
    exact .inr rfl
  | _ => exact .inr rfl

theorem Reaches.accounts {r₀ r : Run} (h₀ : r₀.IsNew) (h : Reaches r₀ r) :
    r.isStarted = true → ∀ i ∈ r.instances, r.Accounts i := by
  induction h with
  | refl => intro hs; simp [h₀.isStarted] at hs
  | tail _ hstep ih => exact hstep.accounts ih

/-- **A run that is done is settled.** -/
theorem Reaches.settled {r₀ r : Run} (h₀ : r₀.IsNew) (h : Reaches r₀ r) (hr : r.isDone = true) :
    r.Settled := by
  induction h with
  | refl => simp [isDone, h₀.state_eq] at hr
  | @tail r r' _ hstep ih =>
    cases hd : r.isDone with
    | true => exact (hstep.settled (ih hd)).1
    | false =>
      refine hstep.settled_or_state_eq.resolve_right fun hstate ↦ ?_
      rw [isDone, hstate] at hr
      exact Bool.false_ne_true (hd.symm.trans hr)

/-- A run can be run at any time, before, while and after it is run. -/
theorem Reaches.run {r₀ r : Run} (h₀ : r₀.IsNew) (h : Reaches r₀ r) : Reaches r₀ r.run.1 :=
  h.trans (reaches_run fun hd ↦ (h.settled h₀ hd).isStarted)

/-- From the time when a run is done its verdict and its findings stand. -/
theorem Settled.of_reaches {r r' : Run} (hr : r.Settled) (h : Reaches r r') :
    r'.Settled ∧ r'.state = r.state ∧ r'.diagnostics = r.diagnostics := by
  induction h with
  | refl => exact ⟨hr, rfl, rfl⟩
  | tail _ hstep ih =>
    obtain ⟨hsettled, hstate, hfound⟩ := hstep.settled ih.1
    exact ⟨hsettled, hstate.trans ih.2.1, hfound.trans ih.2.2⟩

/-! ## The verdict -/

theorem diagnosticsOf_ne_nil_iff {r : Run} {severity : Severity} :
    r.diagnosticsOf severity ≠ [] ↔ severity ∈ r.diagnostics.map (·.severity) := by
  rw [diagnosticsOf, ne_eq, List.filter_eq_nil_iff, List.mem_map]
  simp

theorem diagnosticsOf_eq_nil_iff {r : Run} {severity : Severity} :
    r.diagnosticsOf severity = [] ↔ severity ∉ r.diagnostics.map (·.severity) := by
  rw [← diagnosticsOf_ne_nil_iff, ne_eq, not_not]

private theorem perm_filter_severity (found : List Diagnostic) :
    (found.filter (·.severity = .error) ++ found.filter (·.severity = .warning)
      ++ found.filter (·.severity = .exception)).Perm found := by
  induction found with
  | nil => exact List.Perm.refl _
  | cons x found ih =>
    cases hx : x.severity with
    | error => simpa [hx] using ih
    | warning =>
      rw [List.append_assoc] at ih
      simpa [hx] using List.perm_middle.trans (ih.cons x)
    | exception => simpa [hx, ← List.append_assoc] using List.perm_middle.trans (ih.cons x)

/-- **The life of a run.** Until it is done, it is pending. It is done only after all of its
instances have finished; its report is then closed, its end announced, and its verdict is that of
the findings that were kept. None of this changes any more, whatever is done with the run. -/
theorem verdict_of_reaches {r₀ r : Run} (h₀ : r₀.IsNew) (h : Reaches r₀ r) :
    (r.state ≠ .pending → r.isStarted = true ∧ r.turns.ready = [] ∧ r.turns.waiting = []
        ∧ (∀ i ∈ r.instances, r.lastRecord i ∈ r.report.log)
        ∧ r.report.isClosed = true ∧ r.isAnnounced = true ∧ r.waiters = 0
        ∧ (∀ r', Reaches r r' →
          r'.state = r.state ∧ r'.diagnostics = r.diagnostics ∧ r'.exitCode = r.exitCode)
        ∧ (r.state = .error ↔ r.diagnosticsOf .error ≠ [] ∨ r.diagnosticsOf .exception ≠ [])
        ∧ (r.state = .warning ↔ r.diagnosticsOf .error = [] ∧ r.diagnosticsOf .exception = []
          ∧ r.diagnosticsOf .warning ≠ [])
        ∧ (r.state = .success ↔ r.diagnosticsOf .error = [] ∧ r.diagnosticsOf .exception = []
          ∧ r.diagnosticsOf .warning = []))
      ∧ (r.exitCode = 1 ↔ r.state = .error)
      ∧ (∀ severity, (r.diagnosticsOf severity).Sublist r.diagnostics)
      ∧ (r.diagnosticsOf .error ++ r.diagnosticsOf .warning ++ r.diagnosticsOf .exception).Perm
        r.diagnostics := by
  refine ⟨fun hstate ↦ ?_, State.exitCode_eq_one_iff, fun severity ↦ List.filter_sublist,
    perm_filter_severity r.diagnostics⟩
  have hsettled : r.Settled := h.settled h₀ (decide_eq_true hstate)
  have hlast : ∀ i ∈ r.instances, r.lastRecord i ∈ r.report.log := by
    intro i hi
    refine (h.accounts h₀ hsettled.isStarted i hi).resolve_left fun ⟨t, ht, _⟩ ↦ ?_
    rw [Turns.left, hsettled.ready_eq, hsettled.waiting_eq] at ht
    cases ht
  refine ⟨hsettled.isStarted, hsettled.ready_eq, hsettled.waiting_eq, hlast, hsettled.isClosed,
    hsettled.isAnnounced, hsettled.waiters_eq, fun r' h' ↦ ?_, ?_, ?_, ?_⟩
  · obtain ⟨-, hstate', hfound⟩ := hsettled.of_reaches h'
    exact ⟨hstate', hfound, congrArg State.exitCode hstate'⟩
  · rw [hsettled.state_eq, diagnosticsOf_ne_nil_iff, diagnosticsOf_ne_nil_iff]
    exact State.ofSeverities_eq_error_iff
  · rw [hsettled.state_eq, diagnosticsOf_eq_nil_iff, diagnosticsOf_eq_nil_iff,
      diagnosticsOf_ne_nil_iff]
    exact State.ofSeverities_eq_warning_iff
  · rw [hsettled.state_eq, diagnosticsOf_eq_nil_iff, diagnosticsOf_eq_nil_iff,
      diagnosticsOf_eq_nil_iff]
    exact State.ofSeverities_eq_success_iff

/-- A rule closes the report before it fails, a callback registers another, and one fails; a report
comes before the run and one after it. Only the former is kept, and the run ends with a warning. -/
theorem verdict_of_reaches_closed_early :
    let d : Document := ⟨⟨[.element ⟨"svg", none, []⟩ []], []⟩, none⟩
    let r₀ := ofInstances d [⟨"first", .script ⟨"f", true,
      [.yield, .close, .error "unseen" none, .raise ⟨.runtime, "stop"⟩]⟩⟩] ""
    let r₁ := (r₀.reportAs "early" .warning (.text "kept")).wait
    let r₂ := (r₁.onDone (.registers "a" (.fails "b" ⟨.runtime, "callback"⟩))).1.run.1
    let r₃ := r₂.reportAs "late" .error (.text "dropped")
    r₀.IsNew ∧ Reaches r₀ r₂ ∧ r₂.state ≠ .pending ∧ Reaches r₂ r₃
      ∧ r₃.state = .warning ∧ r₃.diagnostics.map (·.shown) = ["[WARNING] early: kept"]
      ∧ ∀ i ∈ r₂.instances, r₂.lastRecord i ∈ r₂.report.log := by
  intro d r₀ r₁ r₂ r₃
  have h₁ : Reaches r₀ (r₁.onDone (.registers "a" (.fails "b" ⟨.runtime, "callback"⟩))).1 :=
    .tail (.tail (.single (Step.report r₀ _ _ _ _)) (Step.wait _)) (Step.onDone _ _)
  have h₂ : Reaches r₀ r₂ := h₁.trans (reaches_run (by decide +kernel))
  have h₃ : Reaches r₂ r₃ := .single (Step.report r₂ _ _ _ _)
  have hdone : r₂.state ≠ .pending := by decide +kernel
  obtain ⟨-, -, -, hlast, -, -, -, hstands, -⟩ :=
    (verdict_of_reaches (isNew_ofInstances d _ "") h₂).1 hdone
  obtain ⟨hstate, hfound, -⟩ := hstands r₃ h₃
  refine ⟨isNew_ofInstances d _ "", h₂, hdone, h₃, ?_, ?_, hlast⟩
  · rw [hstate]
    decide +kernel
  · rw [hfound]
    decide +kernel

end VectorLint.Run
