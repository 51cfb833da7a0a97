import VectorLint.Proofs.Run.Calls

/-!
# Waiting for a run

Whoever waits for a run is given its state when the end is announced, or at once if it was. The end
is announced before any callback is called, so a callback that fails cannot keep anybody from the
answer. What remains to be shown is that the end comes.

An order of turns in which everybody finishes settles this for all orders. Turns come to an end
because each takes something from the load, and what is done with a run besides turns changes
nothing but the report, which no turn looks at. So the turns of any operations are an order of turns
up to the report, and when nobody is ready, nobody waits for an event either.
-/

namespace VectorLint.Run

/-- Whether an operation is to wait for a run. -/
def Operation.isWait : Operation → Bool
  | .wait => true
  | _ => false

/-- Whether nobody has waited for a run, and its end was not announced. -/
structure IsUnawaited (r : Run) : Prop where
  isAnnounced : r.isAnnounced = false
  waiters_eq : r.waiters = 0
  answers_eq : r.answers = []

/-- Whether all instances of a run finish in some order of turns. -/
def CanFinish (r : Run) : Prop := ∃ σ s, Turns.MaximalOrder r.begun.turns σ s ∧ s.waiting = []

/-- Whether a run is done, and `n` who waited for it have all been given its state. -/
structure HasAnswered (n : Nat) (r : Run) : Prop where
  isDone : r.isDone = true
  waiters_eq : r.waiters = 0
  answers_eq : r.answers = List.replicate n r.state

theorem isUnawaited_ofInstances (d : Document) (instances : List Rule.Instance)
    (logger : String) : (ofInstances d instances logger).IsUnawaited := ⟨rfl, rfl, rfl⟩

/-! ## Who is answered -/

/-- Whether two runs are alike to those who wait. -/
structure AlikeToWaiters (r r' : Run) : Prop where
  state_eq : r'.state = r.state
  isAnnounced_eq : r'.isAnnounced = r.isAnnounced
  waiters_eq : r'.waiters = r.waiters
  answers_eq : r'.answers = r.answers

/-- **One operation, to those who wait**: it is their own, it is none of their business, or it
completes a run that was pending. -/
theorem wait_or_alike_or_complete {r : Run} (hr : r.isDone = true → r.isStarted = true)
    (op : Operation) :
    op = .wait
      ∨ op.isWait = false ∧ r.AlikeToWaiters (r.perform op).1
      ∨ op.isWait = false ∧ r.isDone = false
        ∧ ∃ r', r.AlikeToWaiters r' ∧ (r.perform op).1 = r'.complete.1 := by
  have hsame : r.AlikeToWaiters r := ⟨rfl, rfl, rfl, rfl⟩
  by_cases hrefused : r.isStarted = true ∧ op.isCall = true
  · refine .inr (.inl ⟨?_, ?_⟩)
    · cases op with
      | wait => cases hrefused.2
      | _ => rfl
    · rw [perform_of_isCall hrefused.1 hrefused.2]
      exact hsame
  · cases op with
    | run =>
      have hs : r.isStarted = false := by simpa [Operation.isCall] using hrefused
      have hd : r.isDone = false := by
        by_contra hd
        exact absurd ((hr (by simpa using hd)).symm.trans hs) (by simp)
      rw [perform, run_eq_endingWith_finish hs, endingWith]
      split
      · exact .inr (.inr ⟨rfl, hd, { r.begun with turns := r.begun.turns.finish },
          ⟨rfl, rfl, rfl, rfl⟩, rfl⟩)
      · exact .inr (.inl ⟨rfl, ⟨rfl, rfl, rfl, rfl⟩⟩)
    | start =>
      have hs : r.isStarted = false := by simpa [Operation.isCall] using hrefused
      rw [perform, start, if_neg (by simp [hs])]
      exact .inr (.inl ⟨rfl, ⟨rfl, rfl, rfl, rfl⟩⟩)
    | turn place =>
      rw [perform]
      split
      · exact .inr (.inl ⟨rfl, ⟨rfl, rfl, rfl, rfl⟩⟩)
      · exact .inr (.inl ⟨rfl, hsame⟩)
    | complete =>
      rw [perform]
      split
      · rename_i hc
        exact .inr (.inr ⟨rfl, (canComplete_iff.mp hc).2.1, r, hsame, rfl⟩)
      · exact .inr (.inl ⟨rfl, hsame⟩)
    | onDone c =>
      obtain ⟨calls, callbacks, heq⟩ := onDone_eq r c
      rw [perform, heq]
      exact .inr (.inl ⟨rfl, ⟨rfl, rfl, rfl, rfl⟩⟩)
    | wait => exact .inl rfl
    | report v severity message element => exact .inr (.inl ⟨rfl, ⟨rfl, rfl, rfl, rfl⟩⟩)
    | close => exact .inr (.inl ⟨rfl, ⟨rfl, rfl, rfl, rfl⟩⟩)

/-- Whether nobody has been answered of the `n` who wait for a pending run. -/
structure IsAwaited (n : Nat) (r : Run) : Prop where
  isDone : r.isDone = false
  isAnnounced : r.isAnnounced = false
  waiters_eq : r.waiters = n
  answers_eq : r.answers = []

theorem isDone_eq_of_state_eq {r r' : Run} (h : r'.state = r.state) : r'.isDone = r.isDone := by
  rw [isDone, h, isDone]

/-- The end of a run answers all who wait for it, whatever its callbacks do. -/
theorem IsAwaited.complete {n : Nat} {r : Run} (h : r.IsAwaited n) :
    r.complete.1.HasAnswered n := by
  rw [complete_eq_told]
  refine ⟨isDone_settle r, rfl, ?_⟩
  show r.answers ++ List.replicate r.waiters _ = _
  rw [h.answers_eq, h.waiters_eq, List.nil_append]
  rfl

/-- **All who wait.** Nobody is answered before the end, and everybody at the end and from then on,
with the state that the run has then. -/
theorem isAwaited_or_hasAnswered {r₀ : Run} (h₀ : r₀.IsNew) (hw : r₀.IsUnawaited)
    (ops : List Operation) :
    (r₀.performAll ops).IsAwaited (ops.countP (·.isWait))
      ∨ (r₀.performAll ops).HasAnswered (ops.countP (·.isWait)) := by
  induction ops using List.reverseRecOn with
  | nil => exact .inl ⟨by simp [performAll, isDone, h₀.state_eq], hw.isAnnounced, hw.waiters_eq,
      hw.answers_eq⟩
  | append_singleton ops op ih =>
    have hreaches := reaches_performAll h₀ ops
    have hsettled := hreaches.settled h₀
    rw [performAll_concat, List.countP_append, List.countP_singleton]
    generalize r₀.performAll ops = r at hsettled ih ⊢
    rcases wait_or_alike_or_complete (fun hd ↦ (hsettled hd).isStarted) op with
      rfl | ⟨hop, hsame⟩ | ⟨hop, hd, r', hsame, heq⟩
    · rw [if_pos (show Operation.wait.isWait = true from rfl), perform, wait]
      rcases ih with h | h
      · rw [if_neg (by simp [h.isAnnounced])]
        exact .inl ⟨h.isDone, h.isAnnounced, congrArg (· + 1) h.waiters_eq, h.answers_eq⟩
      · rw [if_pos (hsettled h.isDone).isAnnounced]
        refine .inr ⟨h.isDone, h.waiters_eq, ?_⟩
        rw [h.answers_eq, List.replicate_succ']
    · have hdone := isDone_eq_of_state_eq hsame.state_eq
      rw [if_neg (by simp [hop]), Nat.add_zero]
      rcases ih with h | h
      · exact .inl ⟨hdone.trans h.isDone, hsame.isAnnounced_eq.trans h.isAnnounced,
          hsame.waiters_eq.trans h.waiters_eq, hsame.answers_eq.trans h.answers_eq⟩
      · refine .inr ⟨hdone.trans h.isDone, hsame.waiters_eq.trans h.waiters_eq, ?_⟩
        rw [hsame.answers_eq, hsame.state_eq, h.answers_eq]
    · rw [if_neg (by simp [hop]), Nat.add_zero, heq]
      rcases ih with h | h
      · have hawaited : r'.IsAwaited (ops.countP (·.isWait)) :=
          ⟨(isDone_eq_of_state_eq hsame.state_eq).trans hd,
            hsame.isAnnounced_eq.trans h.isAnnounced, hsame.waiters_eq.trans h.waiters_eq,
            hsame.answers_eq.trans h.answers_eq⟩
        exact .inr hawaited.complete
      · exact absurd (hd.symm.trans h.isDone) (by simp)

/-! ## The end comes -/

namespace Turns

theorem exists_play_of_report (p : Player) (L : List Action) (s : Turns) (report : Report) :
    ∃ report', play p L { s with report } = { play p L s with report := report' } := by
  fun_induction play p L s generalizing report with
  | case1 s => exact ⟨report, rfl⟩
  | case2 rest s => exact ⟨report, rfl⟩
  | case3 e rest s he ih =>
    obtain ⟨report', h⟩ := ih report
    exact ⟨report', (if_pos he).trans h⟩
  | case4 e rest s he => exact ⟨report, if_neg he⟩
  | case5 e rest s ih => exact ih report
  | case6 a rest s hyield hwait hset ih =>
    obtain ⟨report', h⟩ := ih (a.perform p.view report)
    refine ⟨report', Eq.trans ?_ h⟩
    cases a with
    | yield => exact absurd rfl hyield
    | wait e => exact absurd rfl (hwait e)
    | set e => exact absurd rfl (hset e)
    | _ => rfl

theorem Order.concat {s s' : Turns} {σ : List (Nat × List Diagnostic)} (h : Order s σ s')
    {before after : List Task} {t : Task} (hready : s'.ready = before ++ t :: after) :
    ∃ σ', Order s σ' (s'.resume before t after) := by
  induction h with
  | nil s => exact ⟨_, .turn hready (.nil _)⟩
  | turn hfirst _ ih =>
    obtain ⟨σ', h⟩ := ih hready
    exact ⟨_, .turn hfirst h⟩

theorem load_resume_lt {s : Turns} {before after : List Task} {t : Task}
    (hready : s.ready = before ++ t :: after) : (s.resume before t after).load < s.load := by
  have h := (Order.turn hready (.nil _)).length_add_load_le
  rw [List.length_singleton] at h
  omega

end Turns

/-- Whether a run has come from another by turns alone, up to the report. -/
structure Advances (r₀ r : Run) : Prop where
  tasks_eq : r.tasks = r₀.tasks
  of_new : r.isStarted = false → ∃ report, r.turns = { r₀.turns with report }
  of_started : r.isStarted = true →
    ∃ report σ, Turns.Order r₀.begun.turns σ { r.turns with report }

theorem Advances.of_eq {r₀ r r' : Run} (h : Advances r₀ r) (htasks : r'.tasks = r.tasks)
    (hstarted : r'.isStarted = r.isStarted) (report' : Report)
    (hturns : r'.turns = { r.turns with report := report' }) : Advances r₀ r' := by
  refine ⟨htasks.trans h.tasks_eq, ?_, ?_⟩
  · intro hs
    obtain ⟨report, hreport⟩ := h.of_new (hstarted.symm.trans hs)
    exact ⟨report', by rw [hturns, hreport]⟩
  · intro hs
    obtain ⟨report, σ, horder⟩ := h.of_started (hstarted.symm.trans hs)
    exact ⟨report, σ, by rwa [hturns]⟩

theorem Advances.start {r₀ r : Run} (h : Advances r₀ r) (hs : r.isStarted = false) :
    Advances r₀ r.begun := by
  obtain ⟨report, hreport⟩ := h.of_new hs
  refine ⟨h.tasks_eq, ?_, ?_⟩
  · rintro ⟨⟩
  · intro _
    have hbegun : { r.begun.turns with report := r₀.begun.turns.report } = r₀.begun.turns := by
      show Turns.mk r.tasks r.turns.waiting r.turns.events _ = _
      rw [h.tasks_eq, hreport]
      rfl
    refine ⟨r₀.begun.turns.report, [], ?_⟩
    rw [hbegun]
    exact .nil _

theorem Advances.turn {r₀ r : Run} (h : Advances r₀ r) (hs : r.isStarted = true)
    {before after : List Task} {t : Task} (hready : r.turns.ready = before ++ t :: after) :
    Advances r₀ { r with turns := r.turns.resume before t after } := by
  obtain ⟨report, σ, horder⟩ := h.of_started hs
  refine ⟨h.tasks_eq, ?_, ?_⟩
  · intro hnew
    exact absurd (hs.symm.trans hnew) (by simp)
  · intro _
    obtain ⟨σ', hturn⟩ := horder.concat hready
    obtain ⟨report', hplay⟩ := Turns.exists_play_of_report t.player t.rest
      { r.turns with ready := before ++ after } report
    exact ⟨report', σ', hplay ▸ hturn⟩

theorem Step.advances {r₀ r r' : Run} (h : Step r r') (hr : Advances r₀ r)
    (hnew : r.isStarted = false → r.IsNew) : Advances r₀ r' := by
  have htasks := h.tasks_eq
  cases h with
  | start h =>
    obtain ⟨hs, rfl⟩ := eq_begun_of_start h
    exact hr.start hs
  | turn hready =>
    by_cases hs : r.isStarted = true
    · exact hr.turn hs hready
    · simp [(hnew (by simpa using hs)).ready_eq] at hready
  | settle => exact hr.of_eq htasks rfl _ rfl
  | onDone c =>
    obtain ⟨calls, callbacks, heq⟩ := onDone_eq r c
    rw [heq]
    exact hr.of_eq rfl rfl _ rfl
  | wait =>
    obtain ⟨waiters, answers, heq⟩ := wait_eq r
    rw [heq]
    exact hr.of_eq rfl rfl _ rfl
  | report v severity message element => exact hr.of_eq htasks rfl _ rfl
  | close => exact hr.of_eq htasks rfl _ rfl

theorem Reaches.advances {r₀ r : Run} (h₀ : r₀.IsNew) (h : Reaches r₀ r) : Advances r₀ r := by
  induction h with
  | refl =>
    refine ⟨rfl, fun _ ↦ ⟨r₀.turns.report, rfl⟩, ?_⟩
    intro hs
    exact absurd (h₀.isStarted.symm.trans hs) (by simp)
  | tail hreaches hstep ih => exact hstep.advances ih (Reaches.isNew h₀ hreaches)

/-- **When nobody is ready, nobody waits**, if all instances finish in some order. -/
theorem waiting_eq_nil {r₀ r : Run} (h₀ : r₀.IsNew) (hf : r₀.CanFinish) (h : Reaches r₀ r)
    (hs : r.isStarted = true) (hready : r.turns.ready = []) : r.turns.waiting = [] := by
  obtain ⟨σ, s, hmaximal, hfinished⟩ := hf
  obtain ⟨report, σ', horder⟩ := (h.advances h₀).of_started hs
  have hunset : r₀.begun.turns.WaitsForUnset := by
    have hwaiting : r₀.begun.turns.waiting = [] := h₀.waiting_eq
    intro w hw
    rw [hwaiting] at hw
    cases hw
  exact (Turns.MaximalOrder.waiting_eq_nil_iff hmaximal ⟨horder, hready⟩ hunset).mp hfinished

theorem hasAnswered_complete {r₀ : Run} (h₀ : r₀.IsNew) (hw : r₀.IsUnawaited)
    (hf : r₀.CanFinish) (ops : List Operation) (hs : (r₀.performAll ops).isStarted = true)
    (hready : (r₀.performAll ops).turns.ready = []) :
    ((r₀.performAll ops).perform .complete).1.HasAnswered (ops.countP (·.isWait)) := by
  have hwaiting := waiting_eq_nil h₀ hf (reaches_performAll h₀ ops) hs hready
  have hanswered := isAwaited_or_hasAnswered h₀ hw ops
  generalize r₀.performAll ops = r at hs hready hwaiting hanswered ⊢
  rw [perform]
  rcases hanswered with h | h
  · rw [if_pos (canComplete_iff.mpr ⟨hs, h.isDone, hready, hwaiting⟩)]
    exact h.complete
  · rw [if_neg (by simp [canComplete, h.isDone])]
    exact h

theorem countP_isWait_turns (n : Nat) :
    (List.replicate n (Operation.turn 0)).countP (·.isWait) = 0 := by
  rw [List.countP_replicate]
  rfl

/-- **All who wait are answered.** Let all instances of a new run finish in some order of turns, and
let anything be done with it. As long as it is pending nobody is answered; when it is done, all who
have waited, be it before, while or after it was run, have been given its state, which stands.

The end cannot fail to come. Each turn that is taken lowers the load; if nobody is ready any more,
to complete the run answers all, and so does to run it in one go if it was not started. Whether a
callback fails makes no difference. -/
theorem all_waits_answered {r₀ : Run} (h₀ : r₀.IsNew) (hw : r₀.IsUnawaited)
    (hf : r₀.CanFinish) (ops : List Operation) :
    let r := r₀.performAll ops
    let n := ops.countP (·.isWait)
    (r.state = .pending → r.waiters = n ∧ r.answers = [])
      ∧ (r.state ≠ .pending → r.HasAnswered n ∧ ∀ more, (r.performAll more).state = r.state)
      ∧ (∀ place < r.turns.ready.length,
        (r.perform (.turn place)).1.turns.load < r.turns.load)
      ∧ (r.isStarted = true → r.turns.ready = [] → (r.perform .complete).1.HasAnswered n)
      ∧ (r.isStarted = true → ((r.performAll (List.replicate r.turns.load (.turn 0))).perform
        .complete).1.HasAnswered n)
      ∧ (r.isStarted = false → (r.perform .run).1.HasAnswered n) := by
  intro r n
  have hreaches : Reaches r₀ r := reaches_performAll h₀ ops
  have hanswered : r.IsAwaited n ∨ r.HasAnswered n := isAwaited_or_hasAnswered h₀ hw ops
  refine ⟨?_, ?_, ?_, hasAnswered_complete h₀ hw hf ops, ?_, ?_⟩
  · intro hstate
    have h := hanswered.resolve_right fun h ↦ of_decide_eq_true h.isDone hstate
    exact ⟨h.waiters_eq, h.answers_eq⟩
  · intro hstate
    have hd : r.isDone = true := decide_eq_true hstate
    refine ⟨hanswered.resolve_left fun h ↦ ?_, ?_⟩
    · exact absurd (hd.symm.trans h.isDone) (by simp)
    · intro more
      exact ((hreaches.settled h₀ hd).of_reaches (Reaches.performAll h₀ hreaches more)).2.1
  · intro place hplace
    rw [perform, List.getElem?_eq_getElem hplace]
    refine Turns.load_resume_lt ?_
    rw [List.getElem_cons_drop, List.take_append_drop]
  · intro hs
    have h := hasAnswered_complete h₀ hw hf (ops ++ List.replicate r.turns.load (.turn 0))
    rw [performAll_append, List.countP_append, countP_isWait_turns, Nat.add_zero,
      performAll_turns] at h
    rw [performAll_turns]
    exact h hs (Turns.ready_playAll _ _ (Nat.le_refl _))
  · intro hs
    have hnew : r.IsNew := hreaches.isNew h₀ hs
    have h := hasAnswered_complete h₀ hw hf (ops ++ r.inOneGo)
    rw [performAll_append, List.countP_append, inOneGo, List.countP_cons, countP_isWait_turns,
      ← inOneGo] at h
    rw [perform_run_eq hnew]
    refine h ?_ ?_
    · rw [performAll_inOneGo hs]
      rfl
    · rw [performAll_inOneGo hs]
      exact Turns.ready_finish _

/-- The first instance waits for the second one, and somebody waits before the run, between the
turns, and after the run has failed with its callback. -/
theorem all_waits_answered_of_failing_callback :
    let d : Document := ⟨⟨[.element ⟨"svg", none, []⟩ []], []⟩, none⟩
    let f : Failure := ⟨.runtime, "callback"⟩
    let r₀ := ofInstances d [⟨"first", .script ⟨"f", true, [.wait "e", .warn "seen" none]⟩⟩,
      ⟨"second", .script ⟨"g", true, [.yield, .set "e"]⟩⟩] ""
    let before : List Operation := [.wait, .onDone (.fails "a" f), .start, .turn 1, .wait, .turn 0,
      .wait, .turn 0, .turn 0]
    r₀.IsNew ∧ r₀.IsUnawaited ∧ r₀.CanFinish
      ∧ (r₀.performAll before).state = .pending ∧ (r₀.performAll before).answers = []
      ∧ ((r₀.performAll before).perform .complete).2 = some f
      ∧ (r₀.performAll (before ++ [.complete, .wait])).answers = List.replicate 4 .warning := by
  intro d f r₀ before
  have hnew : r₀.IsNew := isNew_ofInstances d _ ""
  have hunawaited : r₀.IsUnawaited := isUnawaited_ofInstances d _ ""
  have hfinish : r₀.CanFinish := by
    obtain ⟨σ, hmaximal⟩ := Turns.maximalOrder_finish r₀.begun.turns
    exact ⟨σ, _, hmaximal, List.eq_nil_of_length_eq_zero (by decide +kernel)⟩
  have hpending : (r₀.performAll before).state = .pending := by decide +kernel
  have hstate : (r₀.performAll (before ++ [.complete, .wait])).state = .warning := by
    decide +kernel
  obtain ⟨hnobody, -⟩ := all_waits_answered hnew hunawaited hfinish before
  obtain ⟨-, hall, -⟩ :=
    all_waits_answered hnew hunawaited hfinish (before ++ [.complete, .wait])
  obtain ⟨⟨-, -, hanswers⟩, -⟩ := hall (by rw [hstate]; decide)
  refine ⟨hnew, hunawaited, hfinish, hpending, (hnobody hpending).2, by decide +kernel, ?_⟩
  rw [hanswers, hstate]
  rfl

end VectorLint.Run
