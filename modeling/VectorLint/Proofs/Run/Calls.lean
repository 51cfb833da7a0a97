import VectorLint.Proofs.Run.Callbacks

/-!
# Calls to run a run

Anybody may call for a run to be run, at any time and any number of times, one after the other or
while the first call still waits for the rules. The first call makes all instances ready and is
otherwise a matter of turns: to run a run in one go is to start it, to let the first in the queue
take its turn as often as there is load, and to complete it. All later calls are refused.

An instance is invoked when its task takes its first turn, which is the one that it takes with as
much left as at the beginning. A turn takes at least one action away and nothing ever gives one
back, so those that were invoked and those that are still to be are together all instances, each
once. This one fact is kept by every operation from the first call on.
-/

namespace VectorLint.Run

/-- Whether an operation calls for a run to be run. -/
def Operation.isCall : Operation → Bool
  | .run => true
  | .start => true
  | _ => false

/-- Operations without the calls behind the first one. -/
def onlyFirstCall : List Operation → List Operation
  | [] => []
  | op :: ops => op :: if op.isCall then ops.filter (!·.isCall) else onlyFirstCall ops

/-- The failure of a call that is refused. -/
def refusal (r : Run) : Failure :=
  ⟨.runtime, "Linting of " ++ r.shownName ++ " was already started"⟩

/-- How operations end. -/
def outcomes : Run → List Operation → List (Option Failure) :=
  gather fun r op ↦ [(r.perform op).2]

/-- How operations end, apart from calls behind the first one. -/
def acceptedOutcomes : Run → List Operation → List (Option Failure) :=
  gather fun r op ↦ if r.isStarted && op.isCall then [] else [(r.perform op).2]

/-- Whether a task is still to take its first turn. -/
def isFresh (r : Run) (t : Task) : Bool := r.tasks[t.player.number]?.any (·.load = t.load)

/-- The numbers of the instances that are still to be invoked. -/
def uninvoked (r : Run) : List Nat := (r.turns.left.filter r.isFresh).map (·.player.number)

/-- The number of the instance that is invoked in a turn. -/
def invokedInTurn (r : Run) : Operation → List Nat
  | .turn place => (r.turns.ready[place]?.toList.filter r.isFresh).map (·.player.number)
  | _ => []

/-- What is done when a run is run in one go, before it is completed. -/
def inOneGo (r : Run) : List Operation :=
  .start :: List.replicate r.begun.turns.load (.turn 0)

/-- The numbers of the instances that are invoked by an operation. -/
def invokedBy (r : Run) : Operation → List Nat
  | .run => if r.isStarted then [] else gather invokedInTurn r r.inOneGo
  | op => r.invokedInTurn op

/-- The numbers of the instances that are invoked by operations, in the order of invocation. -/
def invoked : Run → List Operation → List Nat := gather invokedBy

/-! ## What is refused -/

theorem perform_of_isCall {r : Run} (hs : r.isStarted = true) {op : Operation}
    (hop : op.isCall = true) : r.perform op = (r, some r.refusal) := by
  cases op with
  | run => rw [perform, Run.run, start, if_pos hs]; rfl
  | start => rw [perform, start, if_pos hs]; rfl
  | _ => cases hop

theorem isStarted_perform (r : Run) (op : Operation) :
    (r.perform op).1.isStarted = (r.isStarted || op.isCall) := by
  by_cases hrefused : r.isStarted = true ∧ op.isCall = true
  · rw [perform_of_isCall hrefused.1 hrefused.2, hrefused.1, Bool.true_or]
  · cases op with
    | run =>
      have hs : r.isStarted = false := by simpa [Operation.isCall] using hrefused
      refine Eq.trans ?_ (Bool.or_true _).symm
      rw [perform, run_eq_endingWith_finish hs, endingWith]
      split
      · rw [complete_eq_told]
        rfl
      · rfl
    | start =>
      have hs : r.isStarted = false := by simpa [Operation.isCall] using hrefused
      refine Eq.trans ?_ (Bool.or_true _).symm
      rw [perform, start, if_neg (by simp [hs])]
      rfl
    | turn place =>
      refine Eq.trans ?_ (Bool.or_false _).symm
      rw [perform]
      split <;> rfl
    | complete =>
      refine Eq.trans ?_ (Bool.or_false _).symm
      rw [perform]
      split
      · rw [complete_eq_told]
        rfl
      · rfl
    | onDone c =>
      obtain ⟨calls, callbacks, heq⟩ := onDone_eq r c
      refine Eq.trans ?_ (Bool.or_false _).symm
      rw [perform, heq]
    | wait =>
      obtain ⟨waiters, answers, heq⟩ := wait_eq r
      refine Eq.trans ?_ (Bool.or_false _).symm
      rw [perform, heq]
    | report v severity message element => exact (Bool.or_false _).symm
    | close => exact (Bool.or_false _).symm

theorem isStarted_performAll (r : Run) (ops : List Operation) :
    (r.performAll ops).isStarted = (r.isStarted || ops.any (·.isCall)) := by
  induction ops using List.reverseRecOn with
  | nil => exact (Bool.or_false _).symm
  | append_singleton ops op ih =>
    rw [performAll_concat, isStarted_perform, ih, List.any_append, Bool.or_assoc]
    simp

theorem performAll_filter {r : Run} (hs : r.isStarted = true) (ops : List Operation) :
    r.performAll (ops.filter (!·.isCall)) = r.performAll ops
      ∧ r.outcomes (ops.filter (!·.isCall)) = r.acceptedOutcomes ops := by
  induction ops generalizing r with
  | nil => exact ⟨rfl, rfl⟩
  | cons op ops ih =>
    have hnext := ih (r := (r.perform op).1) (by rw [isStarted_perform, hs, Bool.true_or])
    cases hop : op.isCall with
    | true =>
      rw [List.filter_cons_of_neg (by simp [hop]), acceptedOutcomes, gather, hs, hop]
      rw [perform_of_isCall hs hop] at hnext ⊢
      refine ⟨?_, hnext.2⟩
      rw [hnext.1, performAll, performAll, List.foldl_cons, perform_of_isCall hs hop]
    | false =>
      rw [List.filter_cons_of_pos (by simp [hop]), acceptedOutcomes, gather, hop, Bool.and_false,
        outcomes, gather]
      exact ⟨hnext.1, congrArg ((r.perform op).2 :: ·) hnext.2⟩

/-- **Only the first call matters**: without the others the operations lead to the same run, and
end as they do with them. -/
theorem performAll_onlyFirstCall {r : Run} (hs : r.isStarted = false) (ops : List Operation) :
    r.performAll (onlyFirstCall ops) = r.performAll ops
      ∧ r.outcomes (onlyFirstCall ops) = r.acceptedOutcomes ops := by
  induction ops generalizing r with
  | nil => exact ⟨rfl, rfl⟩
  | cons op ops ih =>
    have hstarted := isStarted_perform r op
    rw [hs, Bool.false_or] at hstarted
    rw [onlyFirstCall, acceptedOutcomes, gather, hs, Bool.false_and, outcomes, gather]
    split
    · rename_i hop
      obtain ⟨hrun, hends⟩ := performAll_filter (hstarted.trans hop) ops
      exact ⟨hrun, congrArg ((r.perform op).2 :: ·) hends⟩
    · rename_i hop
      obtain ⟨hrun, hends⟩ := ih (hstarted.trans (by simpa using hop))
      exact ⟨hrun, congrArg ((r.perform op).2 :: ·) hends⟩

/-! ## In one go -/

theorem performAll_turns (n : Nat) (r : Run) :
    r.performAll (List.replicate n (.turn 0)) = { r with turns := Turns.playAll n r.turns } := by
  induction n generalizing r with
  | zero => rfl
  | succ n ih =>
    rw [List.replicate_succ, performAll, List.foldl_cons, ← performAll, ih, perform,
      Turns.playAll]
    cases hready : r.turns.ready with
    | nil =>
      have hstuck : Turns.playAll n r.turns = r.turns := by cases n <;> simp [Turns.playAll, hready]
      exact congrArg (fun turns ↦ { r with turns }) hstuck
    | cons t ready => rfl

theorem performAll_inOneGo {r : Run} (hs : r.isStarted = false) :
    r.performAll r.inOneGo = { r.begun with turns := r.begun.turns.finish } := by
  have hstart : (r.perform .start).1 = r.begun := by rw [perform, start, if_neg (by simp [hs])]
  rw [inOneGo, performAll, List.foldl_cons, hstart, ← performAll, performAll_turns]
  rfl

/-- **To run a run in one go** is to start it, to let all take their turns, and to complete it. -/
theorem perform_run_eq {r : Run} (h : r.IsNew) :
    r.perform .run = (r.performAll r.inOneGo).perform .complete := by
  have hready : r.begun.turns.finish.ready = [] := Turns.ready_finish _
  have hpending : r.isDone = false := by simp [isDone, h.state_eq]
  have hcan : { r.begun with turns := r.begun.turns.finish }.canComplete = true
      ↔ r.begun.turns.finish.waiting = [] :=
    canComplete_iff.trans ⟨fun hc ↦ hc.2.2.2, fun hw ↦ ⟨rfl, hpending, hready, hw⟩⟩
  rw [performAll_inOneGo h.isStarted, perform, perform]
  by_cases hw : r.begun.turns.finish.waiting = []
  · rw [run_eq_complete h.isStarted hw, if_pos (hcan.mpr hw)]
    -- the failure of the end is that of the call
    generalize complete _ = e
    obtain ⟨r', _ | f⟩ := e <;> rfl
  · rw [if_neg fun hc ↦ hw (hcan.mp hc), Run.run, start, if_neg (by simp [h.isStarted])]
    simp [hw, failureOf]

/-! ## Invocations -/

theorem Turns.exists_left_play (p : Player) (L : List Action) (s : Turns) :
    ∃ tail : Option (List Action), (∀ rest ∈ tail, rest.length < L.length)
      ∧ (play p L s).left.Perm (tail.toList.map (⟨p, ·⟩) ++ s.left) := by
  fun_induction play p L s with
  | case1 s => exact ⟨none, by simp, .refl _⟩
  | case2 rest s =>
    refine ⟨some rest, by simp, ?_⟩
    rw [left, List.append_assoc]
    exact List.perm_middle
  | case3 e rest s _ ih =>
    obtain ⟨tail, hless, hperm⟩ := ih
    exact ⟨tail, fun rest' h ↦ Nat.lt_succ_of_lt (hless rest' h), hperm⟩
  | case4 e rest s =>
    refine ⟨some rest, by simp, ?_⟩
    rw [left, List.map_append, ← List.append_assoc]
    exact List.perm_append_singleton _ _
  | case5 e rest s ih =>
    obtain ⟨tail, hless, hperm⟩ := ih
    exact ⟨tail, fun rest' h ↦ Nat.lt_succ_of_lt (hless rest' h),
      hperm.trans ((left_set s e).append_left _)⟩
  | case6 a rest s _ _ _ ih =>
    obtain ⟨tail, hless, hperm⟩ := ih
    exact ⟨tail, fun rest' h ↦ Nat.lt_succ_of_lt (hless rest' h), hperm⟩

theorem uninvoked_of_left_eq {r : Run} (h : r.turns.left = []) : r.uninvoked = [] := by
  rw [uninvoked, h]
  rfl

/-- Whether all tasks that are left are those of instances, with no more left than at the
beginning. -/
def IsDrawn (r : Run) : Prop :=
  ∀ t ∈ r.turns.left, ∃ u, r.tasks[t.player.number]? = some u ∧ t.load ≤ u.load

/-- Whether an operation invokes the instances with some numbers, and no others, among those that
are still to be invoked. -/
def Invokes (r : Run) (ns : List Nat) (r' : Run) : Prop :=
  r'.IsDrawn ∧ (ns ++ r'.uninvoked).Perm r.uninvoked

theorem Invokes.refl {r : Run} (h : r.IsDrawn) : r.Invokes [] r := ⟨h, .refl _⟩

theorem Invokes.trans {r r' r'' : Run} {ns ns' : List Nat} (h : r.Invokes ns r')
    (h' : r'.Invokes ns' r'') : r.Invokes (ns ++ ns') r'' := by
  refine ⟨h'.1, ?_⟩
  rw [List.append_assoc]
  exact (h'.2.append_left ns).trans h.2

theorem Invokes.of_eq {r r' : Run} (h : r.IsDrawn) (hleft : r'.turns.left = r.turns.left)
    (htasks : r'.tasks = r.tasks) : r.Invokes [] r' := by
  have hfresh : r'.isFresh = r.isFresh := by
    funext t
    rw [isFresh, htasks, isFresh]
  refine ⟨?_, ?_⟩
  · rw [IsDrawn, hleft, htasks]
    exact h
  · rw [uninvoked, hleft, hfresh]
    exact .refl _

/-- **One turn.** It invokes the instance of its player if this is the first one, and no other. -/
theorem IsDrawn.invokes_turn {r : Run} (h : r.IsDrawn) {before after : List Task} {t : Task}
    (hready : r.turns.ready = before ++ t :: after) :
    r.Invokes (([t].filter r.isFresh).map (·.player.number))
      { r with turns := r.turns.resume before t after } := by
  have hleft : r.turns.left.Perm (t :: { r.turns with ready := before ++ after }.left) := by
    rw [Turns.left, hready, Turns.left, List.append_assoc, List.append_assoc]
    exact List.perm_middle
  obtain ⟨tail, hless, hplay⟩ :=
    Turns.exists_left_play t.player t.rest { r.turns with ready := before ++ after }
  obtain ⟨u, hu, hload⟩ := h t (hleft.mem_iff.mpr List.mem_cons_self)
  have hstale : ∀ v ∈ tail.toList.map (Task.mk t.player ·), r.isFresh v = false := by
    intro v hv
    obtain ⟨rest, hrest, rfl⟩ := List.mem_map.mp hv
    have := hless rest (Option.mem_toList.mp hrest)
    rw [isFresh, hu, Option.any_some]
    refine decide_eq_false fun heq ↦ ?_
    simp only [Task.load] at hload heq
    omega
  refine ⟨fun v hv ↦ ?_, ?_⟩
  · rcases List.mem_append.mp (hplay.mem_iff.mp hv) with hv | hv
    · obtain ⟨rest, hrest, rfl⟩ := List.mem_map.mp hv
      have := hless rest (Option.mem_toList.mp hrest)
      refine ⟨u, hu, ?_⟩
      simp only [Task.load] at hload ⊢
      omega
    · exact h v (hleft.mem_iff.mpr (List.mem_cons_of_mem _ hv))
  · have hnone : (tail.toList.map (Task.mk t.player ·)).filter r.isFresh = [] :=
      List.filter_eq_nil_iff.mpr fun v hv ↦ by simp [hstale v hv]
    have hrest := hplay.filter r.isFresh
    rw [List.filter_append, hnone, List.nil_append] at hrest
    have hall := hleft.filter r.isFresh
    rw [← List.singleton_append, List.filter_append] at hall
    rw [uninvoked, uninvoked, ← List.map_append]
    exact ((hrest.append_left _).trans hall.symm).map _

theorem IsDrawn.invokes_perform_turn {r : Run} (h : r.IsDrawn) (place : Nat) :
    r.Invokes (r.invokedInTurn (.turn place)) (r.perform (.turn place)).1 := by
  rw [perform, invokedInTurn]
  cases hready : r.turns.ready[place]? with
  | none => exact .refl h
  | some t =>
    obtain ⟨hlt, rfl⟩ := List.getElem?_eq_some_iff.mp hready
    refine h.invokes_turn ?_
    rw [List.getElem_cons_drop, List.take_append_drop]

theorem IsDrawn.invokes_turns {r : Run} (h : r.IsDrawn) (n : Nat) :
    r.Invokes (gather invokedInTurn r (List.replicate n (.turn 0)))
      (r.performAll (List.replicate n (.turn 0))) := by
  induction n generalizing r with
  | zero => exact .refl h
  | succ n ih => exact (h.invokes_perform_turn 0).trans (ih (h.invokes_perform_turn 0).1)

/-- **One operation**, unless it is the first call. -/
theorem IsDrawn.invokes_perform {r : Run} (h : r.IsDrawn) (op : Operation)
    (hop : r.isStarted = true ∨ op.isCall = false) :
    r.Invokes (r.invokedBy op) (r.perform op).1 := by
  by_cases hcall : op.isCall = true
  · have hs : r.isStarted = true := hop.resolve_right (by simp [hcall])
    have hnone : r.invokedBy op = [] := by
      cases op with
      | run => exact if_pos hs
      | start => rfl
      | _ => cases hcall
    rw [hnone, perform_of_isCall hs hcall]
    exact .refl h
  · cases op with
    | run => exact absurd rfl hcall
    | start => exact absurd rfl hcall
    | turn place => exact h.invokes_perform_turn place
    | complete =>
      rw [perform]
      split
      · rw [complete_eq_told]
        exact .of_eq h rfl rfl
      · exact .refl h
    | onDone c =>
      obtain ⟨calls, callbacks, heq⟩ := onDone_eq r c
      rw [perform, heq]
      exact .of_eq h rfl rfl
    | wait =>
      obtain ⟨waiters, answers, heq⟩ := wait_eq r
      rw [perform, heq]
      exact .of_eq h rfl rfl
    | report v severity message element => exact .of_eq h rfl rfl
    | close => exact .of_eq h rfl rfl

/-! ## The first call -/

theorem getElem?_tasks_of_mem {r : Run} {t : Task} (h : t ∈ r.tasks) :
    r.tasks[t.player.number]? = some t := by
  obtain ⟨⟨i, number⟩, hi, rfl⟩ := List.mem_map.mp h
  rw [List.mk_mem_zipIdx_iff_getElem?] at hi
  rw [tasks, List.getElem?_map, List.getElem?_zipIdx, Nat.zero_add]
  show Option.map _ (Option.map _ r.instances[number]?) = _
  rw [hi]
  rfl

section

variable {r : Run} (h : r.IsNew)
include h

theorem IsNew.left_eq : r.turns.left = [] := by
  rw [Turns.left, h.ready_eq, h.waiting_eq]
  rfl

theorem IsNew.left_begun : r.begun.turns.left = r.tasks := by
  have hwaiting : r.begun.turns.waiting = [] := h.waiting_eq
  rw [Turns.left, hwaiting]
  exact List.append_nil _

theorem IsNew.isDrawn : r.IsDrawn := by
  rw [IsDrawn, h.left_eq]
  exact fun t ht ↦ absurd ht List.not_mem_nil

theorem IsNew.isDrawn_begun : r.begun.IsDrawn := by
  rw [IsDrawn, h.left_begun]
  exact fun t ht ↦ ⟨t, getElem?_tasks_of_mem ht, Nat.le_refl _⟩

theorem IsNew.uninvoked_begun : r.begun.uninvoked = List.range r.instances.length := by
  have hfresh : ∀ t ∈ r.tasks, r.begun.isFresh t = true := by
    intro t ht
    have hself : r.begun.tasks[t.player.number]? = some t := getElem?_tasks_of_mem ht
    rw [isFresh, hself, Option.any_some]
    exact decide_eq_true rfl
  rw [uninvoked, h.left_begun, List.filter_eq_self.mpr hfresh]
  exact map_number_tasks r

/-- **The first call** makes all instances ready, and if it runs the run in one go, it invokes those
that do not wait for others. -/
theorem IsNew.invokes_call {op : Operation} (hop : op.isCall = true) :
    r.begun.Invokes (r.invokedBy op) (r.perform op).1 := by
  have hbegun : (r.perform .start).1 = r.begun := by
    rw [perform, start, if_neg (by simp [h.isStarted])]
  cases op with
  | run =>
    have hgone : r.performAll r.inOneGo
        = r.begun.performAll (List.replicate r.begun.turns.load (.turn 0)) := by
      rw [inOneGo, performAll, List.foldl_cons, hbegun]
      rfl
    have hturns := h.isDrawn_begun.invokes_turns r.begun.turns.load
    have hend := hturns.1.invokes_perform .complete (.inr rfl)
    have hall := hturns.trans hend
    rw [← hgone, ← perform_run_eq h] at hall
    rw [invokedBy, if_neg (by simp [h.isStarted]), inOneGo, gather, hbegun]
    simpa [invokedBy, invokedInTurn] using hall
  | start =>
    rw [hbegun]
    exact .refl h.isDrawn_begun
  | _ => cases hop

end

/-! ## All calls -/

/-- How a run stands after operations that invoked instances by the numbers `ns`, when it was made
with `n` instances: it is new, or all instances have been invoked or are still to be. -/
def Accounted (n : Nat) (r : Run) (ns : List Nat) : Prop :=
  r.instances.length = n ∧ r.IsDrawn
    ∧ (r.isStarted = false → r.IsNew ∧ ns = [])
    ∧ (r.isStarted = true → (ns ++ r.uninvoked).Perm (List.range n))

theorem Step.isNew {r r' : Run} (h : Step r r') (hr : r.IsNew) (hs : r'.isStarted = false) :
    r'.IsNew := by
  cases h with
  | start h =>
    obtain ⟨-, rfl⟩ := eq_begun_of_start h
    cases hs
  | turn hready => simp [hr.ready_eq] at hready
  | settle hs' => exact absurd (hs'.symm.trans hs) (by simp)
  | onDone c =>
    obtain ⟨calls, callbacks, heq⟩ := onDone_eq r c
    rw [heq]
    exact { hr with }
  | wait =>
    obtain ⟨waiters, answers, heq⟩ := wait_eq r
    rw [heq]
    exact { hr with }
  | _ => exact { hr with }

theorem Step.isStarted {r r' : Run} (h : Step r r') (hs : r.isStarted = true) :
    r'.isStarted = true := by
  cases h with
  | start h =>
    obtain ⟨-, rfl⟩ := eq_begun_of_start h
    rfl
  | onDone c =>
    obtain ⟨calls, callbacks, heq⟩ := onDone_eq r c
    rw [heq]
    exact hs
  | wait =>
    obtain ⟨waiters, answers, heq⟩ := wait_eq r
    rw [heq]
    exact hs
  | _ => exact hs

theorem Reaches.isNew {r₀ r : Run} (h₀ : r₀.IsNew) (h : Reaches r₀ r)
    (hs : r.isStarted = false) : r.IsNew := by
  induction h with
  | refl => exact h₀
  | tail _ hstep ih =>
    refine hstep.isNew (ih ?_) hs
    by_contra hstarted
    exact absurd ((hstep.isStarted (by simpa using hstarted)).symm.trans hs) (by simp)

theorem Reaches.instances_eq {r r' : Run} (h : Reaches r r') : r'.instances = r.instances := by
  induction h with
  | refl => rfl
  | tail _ hstep ih => rw [hstep.instances_eq, ih]

theorem accounted_performAll {r₀ : Run} (h₀ : r₀.IsNew) (ops : List Operation) :
    Accounted r₀.instances.length (r₀.performAll ops) (r₀.invoked ops) := by
  induction ops using List.reverseRecOn with
  | nil => exact ⟨rfl, h₀.isDrawn, fun _ ↦ ⟨h₀, rfl⟩,
      fun hs ↦ absurd (h₀.isStarted.symm.trans hs) (by simp)⟩
  | append_singleton ops op ih =>
    have hreaches := reaches_performAll h₀ (ops ++ [op])
    have hinstances := congrArg List.length hreaches.instances_eq
    have hnew := hreaches.isNew h₀
    rw [performAll_concat] at hinstances hnew ⊢
    rw [invoked, gather_concat, ← invoked]
    generalize r₀.performAll ops = r at hinstances hnew ih ⊢
    obtain ⟨hlength, hdrawn, hunstarted, hperm⟩ := ih
    have hstarted := isStarted_perform r op
    cases hs : r.isStarted with
    | true =>
      obtain ⟨hdrawn', hperm'⟩ := hdrawn.invokes_perform op (.inl hs)
      refine ⟨hinstances, hdrawn', fun hs' ↦ ?_, fun _ ↦ ?_⟩
      · simp [hstarted, hs] at hs'
      · rw [List.append_assoc]
        exact (hperm'.append_left _).trans (hperm hs)
    | false =>
      obtain ⟨hr, hns⟩ := hunstarted hs
      rw [hs, Bool.false_or] at hstarted
      rw [hns, List.nil_append]
      cases hop : op.isCall with
      | true =>
        obtain ⟨hdrawn', hperm'⟩ := hr.invokes_call hop
        refine ⟨hinstances, hdrawn', fun hs' ↦ ?_, fun _ ↦ ?_⟩
        · exact absurd ((hstarted.trans hop).symm.trans hs') (by simp)
        · rwa [hr.uninvoked_begun, hlength] at hperm'
      | false =>
        obtain ⟨hdrawn', hperm'⟩ := hdrawn.invokes_perform op (.inr hop)
        refine ⟨hinstances, hdrawn', fun hs' ↦ ⟨hnew hs', ?_⟩, fun hs' ↦ ?_⟩
        · rw [uninvoked_of_left_eq hr.left_eq] at hperm'
          exact (List.append_eq_nil_iff.mp hperm'.eq_nil).1
        · exact absurd ((hstarted.trans hop).symm.trans hs') (by simp)

/-- **Only the first call runs a run.** Whatever is done with a new run, the first call makes its
instances ready, and to run it in one go comes to the same as to start it, let all take their turns
and complete it. Every later call fails and leaves everything about the run as it is, be the first
call suspended, completed, or ended by a callback that fails; if the later calls are left out, the
operations lead to the same run, and all others end as they do with them. No instance is invoked
before the first call; from then on those that were invoked and those that are still to be are all
instances, each once; and when the run is done, each of them was invoked exactly once. -/
theorem only_first_call {r₀ : Run} (h₀ : r₀.IsNew) (ops : List Operation) :
    let r := r₀.performAll ops
    r.isStarted = ops.any (·.isCall)
      ∧ (r.isStarted = false → r₀.invoked ops = [] ∧ r.turns.left = []
        ∧ r.perform .start = (r.begun, none) ∧ r.begun.turns.ready = r.tasks
        ∧ r.perform .run = (r.performAll r.inOneGo).perform .complete)
      ∧ (r.isStarted = true → ∀ op, op.isCall = true → r.perform op = (r, some r.refusal))
      ∧ r₀.performAll (onlyFirstCall ops) = r
      ∧ r₀.outcomes (onlyFirstCall ops) = r₀.acceptedOutcomes ops
      ∧ (r.isStarted = true →
        (r₀.invoked ops ++ r.uninvoked).Perm (List.range r₀.instances.length))
      ∧ (r.state ≠ .pending → (r₀.invoked ops).Perm (List.range r₀.instances.length)) := by
  intro r
  have hreaches : Reaches r₀ r := reaches_performAll h₀ ops
  obtain ⟨-, -, hunstarted, hperm⟩ := accounted_performAll h₀ ops
  obtain ⟨honly, hends⟩ := performAll_onlyFirstCall h₀.isStarted ops
  refine ⟨?_, fun hs ↦ ?_, fun hs op ↦ perform_of_isCall hs, honly, hends, hperm, fun hd ↦ ?_⟩
  · rw [isStarted_performAll, h₀.isStarted, Bool.false_or]
  · obtain ⟨hnew, hnone⟩ := hunstarted hs
    refine ⟨hnone, hnew.left_eq, ?_, rfl, perform_run_eq hnew⟩
    rw [perform, start, if_neg (by simp [hs])]
  · have hsettled : r.Settled := hreaches.settled h₀ (decide_eq_true hd)
    have hleft : r.turns.left = [] := by
      rw [Turns.left, hsettled.ready_eq, hsettled.waiting_eq]
      rfl
    have hall := hperm hsettled.isStarted
    rwa [uninvoked_of_left_eq hleft, List.append_nil] at hall

/-- Of two instances the first waits for the second, and the first call is suspended when the second
one comes; a callback fails and ends the run, and a third call comes after that. -/
theorem only_first_call_of_failing_callback :
    let d : Document := ⟨⟨[.element ⟨"svg", none, []⟩ []], []⟩, none⟩
    let f : Failure := ⟨.runtime, "callback"⟩
    let r₀ := ofInstances d [⟨"first", .script ⟨"f", true, [.wait "e", .warn "seen" none]⟩⟩,
      ⟨"second", .script ⟨"g", true, [.yield, .set "e"]⟩⟩] ""
    let before : List Operation := [.onDone (.fails "a" f), .start, .turn 1, .run, .turn 0, .turn 0,
      .start, .turn 0, .complete]
    let ops : List Operation := before ++ [.run, .wait, .start]
    r₀.IsNew ∧ (r₀.performAll ops).state = .warning
      ∧ (r₀.performAll ops).perform .run = (r₀.performAll ops, some (r₀.performAll ops).refusal)
      ∧ r₀.performAll [.onDone (.fails "a" f), .start, .turn 1, .turn 0, .turn 0, .turn 0,
        .complete, .wait] = r₀.performAll ops
      ∧ r₀.acceptedOutcomes ops = [none, none, none, none, none, none, some f, none]
      ∧ r₀.invoked ops = [1, 0] := by
  intro d f r₀ before ops
  have hnew : r₀.IsNew := isNew_ofInstances d _ ""
  have hstate : (r₀.performAll ops).state = .warning := by decide +kernel
  obtain ⟨hstarted, -, hrefused, honly, hends, -, -⟩ := only_first_call hnew ops
  refine ⟨hnew, hstate, hrefused (hstarted.trans rfl) .run rfl, honly, ?_, by decide +kernel⟩
  rw [← hends]
  decide +kernel

end VectorLint.Run
