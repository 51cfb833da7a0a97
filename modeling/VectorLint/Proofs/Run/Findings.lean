import VectorLint.Proofs.Attempt
import VectorLint.Proofs.Run.Lifecycle

/-!
# What is found

A run finds what the actions of its rules report, and no more. So whatever holds of each report that
a rule may make, of its message and of the element that it is about, holds of all findings of the
run: it holds of the findings so far and of the reports that are still to be made, and turns keep
it.
-/

namespace VectorLint

/-- Whether an action reports what may be reported, if it reports anything. -/
def Action.Reports (P : Value → Option Element → Prop) : Action → Prop
  | .report _ message element => P message element
  | _ => True

namespace Run

variable {P : Value → Option Element → Prop}

namespace Turns

/-- Whether all findings so far may be made, and those that are still to be made may. -/
structure Finds (P : Value → Option Element → Prop) (s : Turns) : Prop where
  of_diagnostics : ∀ d ∈ s.report.diagnostics.toList, P d.message d.element
  of_left : ∀ t ∈ s.left, ∀ a ∈ t.rest, a.Reports P

theorem Finds.perform {s : Turns} (h : s.Finds P) (v : View) {a : Action} (ha : a.Reports P) :
    Finds P { s with report := a.perform v s.report } := by
  refine ⟨fun d hd ↦ ?_, h.of_left⟩
  cases hclosed : s.report.isClosed with
  | true =>
    rw [Action.diagnostics_perform_of_closed hclosed] at hd
    exact h.of_diagnostics d hd
  | false =>
    rw [Action.diagnostics_perform hclosed] at hd
    rcases List.mem_append.mp hd with hd | hd
    · exact h.of_diagnostics d hd
    · cases a with
      | report severity message element =>
        rw [List.mem_singleton.mp hd]
        exact ha
      | _ => cases hd

theorem Finds.play {s : Turns} (h : s.Finds P) (p : Player) {L : List Action}
    (hL : ∀ a ∈ L, a.Reports P) : (play p L s).Finds P := by
  fun_induction Turns.play p L s with
  | case1 s => exact h
  | case2 rest s =>
    refine ⟨h.of_diagnostics, fun t ht ↦ ?_⟩
    rw [left, List.append_assoc] at ht
    rcases List.mem_cons.mp (List.perm_middle.mem_iff.mp ht) with rfl | ht
    · exact fun a ha ↦ hL a (List.mem_cons_of_mem _ ha)
    · exact h.of_left t ht
  | case3 e rest s _ ih => exact ih h fun a ha ↦ hL a (List.mem_cons_of_mem _ ha)
  | case4 e rest s =>
    refine ⟨h.of_diagnostics, fun t ht ↦ ?_⟩
    rw [left, List.map_append, ← List.append_assoc] at ht
    rcases List.mem_append.mp ht with ht | ht
    · exact h.of_left t ht
    · rw [List.mem_singleton.mp ht]
      exact fun a ha ↦ hL a (List.mem_cons_of_mem _ ha)
  | case5 e rest s ih =>
    exact ih ⟨h.of_diagnostics, fun t ht ↦ h.of_left t ((left_set s e).mem_iff.mp ht)⟩
      fun a ha ↦ hL a (List.mem_cons_of_mem _ ha)
  | case6 a rest s _ _ _ ih =>
    exact ih (h.perform p.view (hL a List.mem_cons_self))
      fun a ha ↦ hL a (List.mem_cons_of_mem _ ha)

theorem Finds.playAll {s : Turns} (h : s.Finds P) (fuel : Nat) : (playAll fuel s).Finds P := by
  induction fuel generalizing s with
  | zero => exact h
  | succ fuel ih =>
    rw [Turns.playAll]
    split
    · exact h
    · rename_i t ready hready
      have hleft : s.left = t :: ({ s with ready } : Turns).left := by
        rw [left, hready]
        rfl
      have hrest : ({ s with ready } : Turns).Finds P :=
        ⟨h.of_diagnostics, fun u hu ↦ h.of_left u (hleft ▸ List.mem_cons_of_mem _ hu)⟩
      exact ih (hrest.play t.player (h.of_left t (hleft ▸ List.mem_cons_self)))

end Turns

theorem diagnostics_foldl_note (records : List Log.Record) (report : Report) :
    (records.foldl Report.note report).diagnostics = report.diagnostics := by
  induction records generalizing report with
  | nil => rfl
  | cons record records ih => rw [List.foldl_cons, ih, Report.diagnostics_note]

end Run

theorem Document.exists_of_lint_eq_ok {d : Document} {rules : List (String × Value)} {r : Run}
    (h : d.lint rules = .ok r) : ∃ instances,
      Rule.Instance.ofConfigs .standard rules = .ok instances
        ∧ r = (Run.ofBuilt d instances).run.1 := by
  obtain ⟨r', hcreate, rfl⟩ := Attempt.exists_of_map_eq_ok h
  obtain ⟨instances, hinstances, hr'⟩ := Attempt.exists_of_bind_eq_ok hcreate
  cases hr'
  exact ⟨instances, hinstances, rfl⟩

/-- **A lint run finds what its rules report**: what may be said of every report of the configured
rules may be said of every finding. -/
theorem Document.of_mem_diagnostics_lint {P : Value → Option Element → Prop} {d : Document}
    {rules : List (String × Value)}
    (hrules : ∀ instances, Rule.Instance.ofConfigs .standard rules = .ok instances →
      ∀ i ∈ instances, ∀ a ∈ Run.actionsOf d i, a.Reports P)
    {r : Run} (hr : d.lint rules = .ok r) {finding : Diagnostic} (h : finding ∈ r.diagnostics) :
    P finding.message finding.element := by
  obtain ⟨instances, hinstances, rfl⟩ := exists_of_lint_eq_ok hr
  -- what was rejected has been logged by now, which is no finding, and all that is left to do are
  -- the actions of the instances
  have hbegun : (Run.ofBuilt d instances).begun.turns.Finds P := by
    refine ⟨fun finding hfinding ↦ ?_, fun t ht ↦ ?_⟩
    · have hnone : (Run.ofBuilt d instances).begun.turns.report.diagnostics = #[] :=
        Run.diagnostics_foldl_note _ _
      rw [hnone] at hfinding
      cases hfinding
    · have htask : t ∈ (Run.ofBuilt d instances).tasks := by
        rcases List.mem_append.mp ht with ht | ht
        · exact ht
        · cases ht
      obtain ⟨i, hi, hrest⟩ := Run.mem_tasks htask
      rw [hrest]
      exact hrules instances hinstances i hi
  rw [Run.run_eq_endingWith_finish rfl, Run.diagnostics_endingWith] at h
  exact (hbegun.playAll _).of_diagnostics finding h

end VectorLint
