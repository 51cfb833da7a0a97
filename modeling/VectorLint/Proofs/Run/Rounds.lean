import Mathlib.Data.List.Nodup
import VectorLint.Proofs.Run.Orders

/-!
# The order of reports

Rules that give up the turn only by yielding take their turns in rounds, always in the order of the
instances. So a report is made in the round that is numbered by how often its instance has yielded
before, and within the round it stands where the instance stands. This is the order of the findings
of a run, and as an instance reports in the order of its program, it says where each finding is.
-/

namespace VectorLint

namespace Run

/-- A report and when it is made: how often its instance has yielded before, and the position of the
instance among those of the run. -/
structure Timed where
  yields : Nat
  position : Nat
  finding : Diagnostic

namespace Timed

/-- Whether a report belongs before another one or beside it: it is made in an earlier round, or in
the same round by an instance that stands no later. -/
def Precedes (a b : Timed) : Prop :=
  a.yields < b.yields ∨ a.yields = b.yields ∧ a.position ≤ b.position

/-- The reports among the actions of an instance that has yielded a number of times before. -/
def ofActions (v : View) (position : Nat) : Nat → List Action → List Timed
  | _, [] => []
  | yields, .yield :: rest => ofActions v position (yields + 1) rest
  | yields, a :: rest =>
    (a.finding? v).toList.map (⟨yields, position, ·⟩) ++ ofActions v position yields rest

/-- The reports of an instance: its own, and that of the failure that ends it, if one does. -/
def ofInstance (v : View) (d : Document) (position : Nat) (i : Rule.Instance) : List Timed :=
  let c := i.rule.conduct d
  ofActions (v.scoped i.name) position 0 c.actions
    ++ c.failure.toList.map fun f ↦
      ⟨c.actions.countP (·.isYield), position, .exception, .text f.message, some i.name, none⟩

variable {v : View} {position yields : Nat} {a : Action} {rest : List Action}

theorem ofActions_cons_of_ne (ha : a ≠ .yield) :
    ofActions v position yields (a :: rest)
      = (a.finding? v).toList.map (⟨yields, position, ·⟩) ++ ofActions v position yields rest := by
  cases a with
  | yield => exact absurd rfl ha
  | _ => rfl

theorem ofActions_append (xs ys : List Action) :
    ofActions v position yields (xs ++ ys)
      = ofActions v position yields xs
        ++ ofActions v position (yields + xs.countP (·.isYield)) ys := by
  fun_induction ofActions v position yields xs with
  | case1 yields => rfl
  | case2 yields rest ih =>
    rw [List.cons_append, ofActions, ih, List.countP_cons_of_pos rfl]
    congr 2
    omega
  | case3 yields a rest ha ih =>
    rw [List.cons_append, ofActions_cons_of_ne ha, ih,
      List.countP_cons_of_neg (by simp [Action.isYield_eq_false ha]), List.append_assoc]

theorem ofActions_actionsOf (d : Document) (i : Rule.Instance) :
    ofActions (v.scoped i.name) position 0 (actionsOf d i) = ofInstance v d position i := by
  rw [actionsOf, ofActions_append, ofInstance, Nat.zero_add]
  cases (i.rule.conduct d).failure <;> rfl

end Timed

namespace Turns

/-! ## A round -/

variable {v : View} {position k : Nat} {a : Action} {rest : List Action}

theorem ofActions_eq (actions : List Action) :
    Timed.ofActions v position k actions
      = (Action.findings v (turn actions)).map (⟨k, position, ·⟩)
        ++ (afterTurn actions).elim [] (Timed.ofActions v position (k + 1)) := by
  induction actions with
  | nil => rfl
  | cons a rest ih =>
    by_cases ha : a = .yield
    · rw [ha]
      rfl
    · rw [Timed.ofActions_cons_of_ne ha, ih, turn_cons_of_ne ha, afterTurn_cons_of_ne ha,
        Action.findings_cons, List.map_append, List.append_assoc]

/-! ## All rounds -/

/-- Whether reports are all that tasks make, in the order of the rounds, when each of the tasks has
yielded `k` times. -/
structure AreReportsOf (k : Nat) (tasks : List Task) (reports : List Timed) : Prop where
  pairwise : reports.Pairwise Timed.Precedes
  filter_eq : ∀ t ∈ tasks, reports.filter (·.position = t.player.number)
    = Timed.ofActions t.player.view t.player.number k t.rest
  mem : ∀ x ∈ reports, k ≤ x.yields ∧ ∃ t ∈ tasks, x.position = t.player.number

/-- The reports of a round. -/
def reportsNow (k : Nat) (tasks : List Task) : List Timed :=
  tasks.flatMap fun t ↦
    (Action.findings t.player.view (turn t.rest)).map (⟨k, t.player.number, ·⟩)

/-- Whether tasks stand in the order of their numbers. -/
def AreInOrder (tasks : List Task) : Prop :=
  tasks.Pairwise fun t u ↦ t.player.number < u.player.number

theorem AreInOrder.filterMap_next {tasks : List Task} (h : AreInOrder tasks) :
    AreInOrder (tasks.filterMap next?) := by
  refine h.filterMap next? fun t u hlt t' ht' u' hu' ↦ ?_
  obtain ⟨_, -, rfl⟩ := Option.map_eq_some_iff.mp ht'
  obtain ⟨_, -, rfl⟩ := Option.map_eq_some_iff.mp hu'
  exact hlt

theorem AreInOrder.eq_of_number_eq {tasks : List Task} (h : AreInOrder tasks) {t u : Task}
    (ht : t ∈ tasks) (hu : u ∈ tasks) (heq : t.player.number = u.player.number) : t = u :=
  List.inj_on_of_nodup_map (List.pairwise_map.mpr (h.imp Nat.ne_of_lt)) ht hu heq

theorem AreInOrder.flatMap_eq {α : Type} {tasks : List Task} (h : AreInOrder tasks) {t : Task}
    (ht : t ∈ tasks) {f : Task → List α}
    (hf : ∀ u, u.player.number ≠ t.player.number → f u = []) : tasks.flatMap f = f t := by
  obtain ⟨before, after, rfl⟩ := List.append_of_mem ht
  obtain ⟨-, hafter, hbefore⟩ := List.pairwise_append.mp h
  have hnone₁ : before.flatMap f = [] :=
    List.flatMap_eq_nil_iff.mpr fun u hu ↦ hf u (Nat.ne_of_lt (hbefore u hu t List.mem_cons_self))
  have hnone₂ : after.flatMap f = [] :=
    List.flatMap_eq_nil_iff.mpr fun u hu ↦ hf u (Nat.ne_of_gt (List.rel_of_pairwise_cons hafter hu))
  rw [List.flatMap_append, List.flatMap_cons, hnone₁, hnone₂, List.nil_append, List.append_nil]

theorem AreReportsOf.round {k : Nat} {tasks : List Task} {later : List Timed}
    (h : AreReportsOf (k + 1) (tasks.filterMap next?) later) (horder : AreInOrder tasks) :
    AreReportsOf k tasks (reportsNow k tasks ++ later) := by
  have hnow {x : Timed} (hx : x ∈ reportsNow k tasks) :
      x.yields = k ∧ ∃ t ∈ tasks, x.position = t.player.number := by
    obtain ⟨t, ht, hx⟩ := List.mem_flatMap.mp hx
    obtain ⟨finding, -, rfl⟩ := List.mem_map.mp hx
    exact ⟨rfl, t, ht, rfl⟩
  refine ⟨List.pairwise_append.mpr ⟨?_, h.pairwise, fun x hx y hy ↦ ?_⟩, fun t ht ↦ ?_,
    fun x hx ↦ ?_⟩
  · refine List.pairwise_flatMap.mpr ⟨fun t _ ↦ ?_, horder.imp fun hlt x hx y hy ↦ ?_⟩
    · exact List.pairwise_map.mpr
        (List.pairwise_of_forall fun _ _ ↦ .inr ⟨rfl, Nat.le_refl _⟩)
    · obtain ⟨_, -, rfl⟩ := List.mem_map.mp hx
      obtain ⟨_, -, rfl⟩ := List.mem_map.mp hy
      exact .inr ⟨rfl, Nat.le_of_lt hlt⟩
  · exact .inl ((hnow hx).1 ▸ (h.mem y hy).1)
  · rw [List.filter_append, ofActions_eq]
    congr 1
    · rw [reportsNow, List.filter_flatMap, horder.flatMap_eq ht fun u hu ↦ ?_]
      · simp
      · simp [hu]
    · cases hnext : afterTurn t.rest with
      | none =>
        -- the task has finished, and no other one has its number
        refine List.filter_eq_nil_iff.mpr fun x hx hposition ↦ ?_
        obtain ⟨-, u', hu', hnumber⟩ := h.mem x hx
        obtain ⟨u, hu, hu'⟩ := List.mem_filterMap.mp hu'
        obtain ⟨rest, hrest, rfl⟩ := Option.map_eq_some_iff.mp hu'
        obtain rfl := horder.eq_of_number_eq hu ht
          (hnumber.symm.trans (of_decide_eq_true hposition))
        rw [hnext] at hrest
        cases hrest
      | some rest =>
        have hmem : ⟨t.player, rest⟩ ∈ tasks.filterMap next? :=
          List.mem_filterMap.mpr ⟨t, ht, by rw [next?, hnext]; rfl⟩
        exact h.filter_eq _ hmem
  · rcases List.mem_append.mp hx with hx | hx
    · exact ⟨Nat.le_of_eq (hnow hx).1.symm, (hnow hx).2⟩
    · obtain ⟨hk, t', ht', hposition⟩ := h.mem x hx
      obtain ⟨t, ht, hnext⟩ := List.mem_filterMap.mp ht'
      obtain ⟨_, -, rfl⟩ := Option.map_eq_some_iff.mp hnext
      exact ⟨Nat.le_of_succ_le hk, t, ht, hposition⟩

theorem notMem_rest_next {tasks : List Task} {a : Action} (h : ∀ t ∈ tasks, a ∉ t.rest) :
    ∀ t ∈ tasks.filterMap next?, a ∉ t.rest := by
  intro t' ht' ha
  obtain ⟨t, ht, hnext⟩ := List.mem_filterMap.mp ht'
  exact h t ht (rest_subset_of_next hnext ha)

/-- **All rounds.** -/
theorem exists_areReportsOf {tasks : List Task} (hwait : ∀ e, ∀ t ∈ tasks, .wait e ∉ t.rest)
    (hclose : ∀ t ∈ tasks, .close ∉ t.rest) (horder : AreInOrder tasks) {s : Turns}
    (hr : s.ready = tasks) (hs : s.waiting = []) (hopen : s.report.isClosed = false) (k : Nat)
    {fuel : Nat} (hfuel : Task.total tasks ≤ fuel) :
    (playAll fuel s).waiting = [] ∧ ∃ reports, AreReportsOf k tasks reports
      ∧ (playAll fuel s).report.diagnostics.toList
        = s.report.diagnostics.toList ++ reports.map (·.finding) := by
  induction fuel using Nat.strongRecOn generalizing tasks s k with
  | ind fuel ih =>
    by_cases hnil : tasks = []
    · rw [playAll_of_ready_eq_nil (hr.trans hnil), hnil]
      exact ⟨hs, [], ⟨.nil, fun t ht ↦ absurd ht List.not_mem_nil,
        fun x hx ↦ absurd hx List.not_mem_nil⟩, (List.append_nil _).symm⟩
    · have hlength := List.length_pos_iff.mpr hnil
      have htotal := total_next_add_length_le tasks
      obtain ⟨s', hplay, hready, hwaiting, hreport⟩ :=
        exists_playAll_round (fun t ht e ↦ hwait e t ht) (hr.trans (List.append_nil _).symm) hs
          (fuel - tasks.length)
      have hclose' : ∀ t ∈ tasks.map now, .close ∉ t.rest := by
        intro t' ht' h
        obtain ⟨t, ht, rfl⟩ := List.mem_map.mp ht'
        exact hclose t ht ((List.takeWhile_sublist _).subset h)
      have hopen' : s'.report.isClosed = false := by
        rw [hreport, isClosed_foldl_tasks hclose', hopen]
      obtain ⟨hend, later, hlater, hfound⟩ := ih (fuel - tasks.length) (by omega)
        (fun e ↦ notMem_rest_next (hwait e)) (notMem_rest_next hclose) horder.filterMap_next
        hready hwaiting hopen' (k + 1) (by omega)
      have hfuel' : tasks.length + (fuel - tasks.length) = fuel := by omega
      rw [← hfuel', hplay]
      refine ⟨hend, _, hlater.round horder, ?_⟩
      rw [hfound, hreport, diagnostics_foldl_tasks hclose' hopen, List.append_assoc,
        List.map_append, reportsNow, List.map_flatMap, List.flatMap_map]
      simp only [now, List.map_map, Function.comp_def, List.map_id']

end Turns

/-! ## The run -/

variable (d : Document) (logger : String) {instances : List Rule.Instance}

theorem areInOrder_tasks (r : Run) : Turns.AreInOrder r.tasks := by
  have hnumbers : (r.tasks.map (·.player.number)).Pairwise (· < ·) := by
    rw [map_number_tasks]
    exact List.pairwise_lt_range
  exact List.pairwise_map.mp hnumbers

theorem mem_tasks_of_getElem? {r : Run} {n : Nat} {i : Rule.Instance}
    (h : r.instances[n]? = some i) : Task.ofInstance r.view r.document i n ∈ r.tasks :=
  List.mem_map.mpr ⟨(i, n), List.mem_zipIdx_iff_getElem?.mpr h, rfl⟩

theorem exists_of_mem_tasks {r : Run} {t : Task} (h : t ∈ r.tasks) :
    ∃ i, r.instances[t.player.number]? = some i := by
  obtain ⟨⟨i, n⟩, hi, rfl⟩ := List.mem_map.mp h
  exact ⟨i, List.mem_zipIdx_iff_getElem?.mp hi⟩

/-- **The order of the findings.** If rules give up the turn only by yielding and none closes the
report, then the run finishes. Its findings are the reports of its instances, those of each in the
order in which it makes them, and they stand in the order of the rounds: first by how often the
instance had yielded before, then by its position. -/
theorem diagnostics_of_yielding (hwait : ∀ i ∈ instances, i.rule.NeverWaits)
    (hopen : ∀ i ∈ instances, i.rule.KeepsOpen) :
    (ofInstances d instances logger).run.2 = .ok (finished d logger instances).state
      ∧ (finished d logger instances).isDone = true
      ∧ ∃ reports : List Timed,
        (finished d logger instances).diagnostics = reports.map (·.finding)
          ∧ reports.Pairwise Timed.Precedes
          ∧ ∀ position, reports.filter (·.position = position)
            = instances[position]?.elim [] (Timed.ofInstance ⟨d.name, logger⟩ d position) := by
  set r := ofInstances d instances logger
  have hwait' : ∀ e, ∀ t ∈ r.tasks, .wait e ∉ t.rest := by
    intro e t ht
    obtain ⟨i, hi, hrest⟩ := mem_tasks ht
    rw [hrest]
    exact wait_notMem_actionsOf (hwait i hi) _ e
  have hclose : ∀ t ∈ r.tasks, .close ∉ t.rest := by
    intro t ht
    obtain ⟨i, hi, hrest⟩ := mem_tasks ht
    rw [hrest]
    exact close_notMem_actionsOf (hopen i hi) _
  obtain ⟨hwaiting, reports, hreports, hfound⟩ := Turns.exists_areReportsOf hwait' hclose
    (areInOrder_tasks r) (s := r.begun.turns) rfl rfl rfl 0 (Nat.le_refl r.begun.turns.load)
  rw [finished, run_of_finish rfl rfl hwaiting]
  refine ⟨rfl, isDone_settle _, reports, ?_, hreports.pairwise, fun position ↦ ?_⟩
  · exact hfound
  · cases hi : instances[position]? with
    | some i =>
      exact (hreports.filter_eq _ (mem_tasks_of_getElem? (r := r) hi)).trans
        (Timed.ofActions_actionsOf d i)
    | none =>
      refine List.filter_eq_nil_iff.mpr fun x hx hposition ↦ ?_
      obtain ⟨-, t, ht, hnumber⟩ := hreports.mem x hx
      obtain ⟨i, hi'⟩ := exists_of_mem_tasks ht
      rw [← hnumber, of_decide_eq_true hposition] at hi'
      cases hi.symm.trans hi'

/-- Four instances take three turns, two, one and two; the second one fails in its second turn, and
the last one only yields before it is over. -/
theorem diagnostics_of_yielding_uneven :
    let instances : List Rule.Instance := [
      ⟨"a", .script ⟨"a", true, [.warn "1" none, .yield, .warn "2" none, .set "e", .yield,
        .error "3" none]⟩⟩,
      ⟨"b", .script ⟨"b", true, [.error "1" none, .yield, .raise ⟨.value, "2"⟩, .yield]⟩⟩,
      ⟨"c", .notice ⟨some .warning, .text "1", .standard⟩⟩,
      ⟨"d", .script ⟨"d", true, [.yield, .find "svg"]⟩⟩]
    let d : Document := ⟨⟨[.element ⟨"svg", none, []⟩ []], []⟩, none⟩
    (∀ i ∈ instances, i.rule.NeverWaits) ∧ (∀ i ∈ instances, i.rule.KeepsOpen)
      ∧ (∃ reports : List Timed,
        (finished d "" instances).diagnostics = reports.map (·.finding)
          ∧ reports.Pairwise Timed.Precedes
          ∧ (reports.filter (·.position = 0)).map (fun x ↦ (x.yields, x.finding.shown))
            = [(0, "[WARNING] a: 1"), (1, "[WARNING] a: 2"), (2, "[ERROR] a: 3")]
          ∧ (reports.filter (·.position = 1)).map (fun x ↦ (x.yields, x.finding.shown))
            = [(0, "[ERROR] b: 1"), (1, "[EXCEPTION] b: ValueError: 2")])
      ∧ (finished d "" instances).diagnostics.map (·.shown) = ["[WARNING] a: 1", "[ERROR] b: 1",
        "[WARNING] c: 1", "[WARNING] a: 2", "[EXCEPTION] b: ValueError: 2",
        "[WARNING] d: 1 for svg", "[ERROR] a: 3"] := by
  intro instances d
  have hwait : ∀ i ∈ instances, i.rule.NeverWaits := by simp [instances, Rule.NeverWaits]
  have hopen : ∀ i ∈ instances, i.rule.KeepsOpen := by simp [instances, Rule.KeepsOpen]
  obtain ⟨-, -, reports, hfound, hpairwise, hfilter⟩ := diagnostics_of_yielding d "" hwait hopen
  refine ⟨hwait, hopen, ⟨reports, hfound, hpairwise, ?_, ?_⟩, by decide +kernel⟩
  · rw [hfilter]
    decide +kernel
  · rw [hfilter]
    decide +kernel

end Run

end VectorLint
