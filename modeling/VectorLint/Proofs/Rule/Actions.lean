import VectorLint.Rule.Basic

/-!
# What actions find

A rule acts on a report, and all that the report keeps of its actions is what they find. While the
report is open this is a plain list: the findings of the actions, in their order. Once it is closed
nothing is added any more.

Only four actions are about more than the log and the findings, namely to close, to set, to yield
and to wait, and only scripts have them. The second half says so once, for all kinds of rule, so
that no later proof looks into what a rule does.
-/

namespace VectorLint

namespace Action

/-! ## Findings -/

/-- The finding that an action makes through a view, if it makes one. -/
def finding? (v : View) : Action → Option Diagnostic
  | .report severity message element => some ⟨severity, message, v.name, element⟩
  | _ => none

/-- The findings that actions make through a view, in order. -/
def findings (v : View) (actions : List Action) : List Diagnostic :=
  actions.filterMap (finding? v)

@[simp] theorem findings_nil (v : View) : findings v [] = [] := rfl

@[simp] theorem findings_cons (v : View) (a : Action) (actions : List Action) :
    findings v (a :: actions) = (a.finding? v).toList ++ findings v actions := by
  rw [findings, findings, List.filterMap_cons]
  cases a.finding? v <;> rfl

@[simp] theorem findings_append (v : View) (xs ys : List Action) :
    findings v (xs ++ ys) = findings v xs ++ findings v ys := List.filterMap_append

theorem findings_map_exception (v : View) (fs : List Failure) :
    findings v (fs.map exception) = fs.map fun f ↦ ⟨.exception, .text f.message, v.name, none⟩ := by
  rw [findings, List.filterMap_map, ← List.filterMap_eq_map]
  rfl

theorem diagnostics_perform {r : Report} (hr : r.isClosed = false) (v : View) (a : Action) :
    (a.perform v r).diagnostics.toList = r.diagnostics.toList ++ (a.finding? v).toList := by
  cases a with
  | report severity message element =>
    rw [perform, Report.report, Report.diagnostics_add_of_open _ _ _ hr, Array.toList_push]
    rfl
  | _ => simp [perform, finding?]

theorem diagnostics_perform_of_closed {r : Report} (hr : r.isClosed = true) (v : View)
    (a : Action) : (a.perform v r).diagnostics = r.diagnostics := by
  cases a with
  | report severity message element => exact Report.diagnostics_add_of_closed _ _ _ hr
  | _ => rfl

theorem isClosed_perform {a : Action} (ha : a ≠ .close) (v : View) (r : Report) :
    (a.perform v r).isClosed = r.isClosed := by
  cases a with
  | report severity message element => exact Report.isClosed_add _ _ _
  | close => exact absurd rfl ha
  | _ => rfl

theorem isClosed_foldl_perform {actions : List Action} (h : .close ∉ actions) (v : View)
    (r : Report) : (actions.foldl (perform v) r).isClosed = r.isClosed := by
  induction actions generalizing r with
  | nil => rfl
  | cons a actions ih =>
    rw [List.mem_cons, not_or] at h
    rw [List.foldl_cons, ih h.2, isClosed_perform (Ne.symm h.1)]

/-- What actions do to the findings of an open report: they add their own, as long as none of them
closes it. -/
theorem diagnostics_foldl_perform {actions : List Action} (h : .close ∉ actions) (v : View)
    {r : Report} (hr : r.isClosed = false) :
    (actions.foldl (perform v) r).diagnostics.toList
      = r.diagnostics.toList ++ findings v actions := by
  induction actions generalizing r with
  | nil => simp
  | cons a actions ih =>
    rw [List.mem_cons, not_or] at h
    have hclosed : (a.perform v r).isClosed = false := by
      rw [isClosed_perform (Ne.symm h.1), hr]
    rw [List.foldl_cons, ih h.2 hclosed, diagnostics_perform hr, findings_cons, List.append_assoc]

end Action

/-- What the reports of outcomes find is what stands of them. -/
theorem Outcome.findings_reports (v : View) (outcomes : List Outcome) :
    Action.findings v (Outcome.reports outcomes) = (Outcome.standing outcomes).map fun f ↦
      ⟨.error, .text f.message, v.name, f.element⟩ := by
  rw [Action.findings, Outcome.reports, List.filterMap_map, ← List.filterMap_eq_map]
  rfl

namespace Action

/-! ## Who does what -/

/-- Whether an action is only about the log and the findings. -/
def IsPlain : Action → Prop
  | .note .. => True
  | .report .. => True
  | _ => False

/-- Whether an action logs, or reports a text. -/
def IsRemark : Action → Prop
  | .note .. => True
  | .report _ (.text _) _ => True
  | _ => False

theorem IsRemark.isPlain {a : Action} (h : a.IsRemark) : a.IsPlain := by
  cases a with
  | note => trivial
  | report => trivial
  | _ => cases h

end Action

theorem Outcome.isRemark_of_mem_reports {outcomes : List Outcome} {a : Action}
    (h : a ∈ Outcome.reports outcomes) : a.IsRemark := by
  obtain ⟨f, -, rfl⟩ := List.mem_map.mp h
  trivial

theorem AttributeRule.isRemark_of_mem_conduct {r : AttributeRule} {d : Document} {a : Action}
    (h : a ∈ (r.conduct d).actions) : a.IsRemark := by
  rw [conduct] at h
  rcases List.mem_append.mp h with h | h
  · rcases List.mem_cons.mp h with rfl | h
    · trivial
    · obtain ⟨f, -, rfl⟩ := List.mem_map.mp h
      trivial
  · split at h
    · rcases List.mem_cons.mp h with rfl | h
      · trivial
      · exact Outcome.isRemark_of_mem_reports h
    · simp only [List.mem_cons, List.not_mem_nil, or_false] at h
      rcases h with rfl | rfl <;> trivial

theorem ElementRule.isRemark_of_mem_clause {limits : Limits} {d : Document} {selector : String}
    {q : Except Failure Requirement} {a : Action} (h : a ∈ (clause limits d selector q).1) :
    a.IsRemark := by
  unfold clause at h
  split at h
  · rw [List.mem_singleton.mp h]
    trivial
  · split at h
    · rw [List.mem_singleton.mp h]
      trivial
    · simp only [List.mem_cons, List.not_mem_nil, or_false] at h
      rcases h with rfl | rfl <;> trivial

theorem ElementRule.isRemark_of_mem_conduct {r : ElementRule} {d : Document} {a : Action}
    (h : a ∈ (r.conduct d).actions) : a.IsRemark := by
  rw [conduct] at h
  rcases List.mem_append.mp h with h | h
  · rcases List.mem_cons.mp h with rfl | h
    · trivial
    · obtain ⟨c, hc, h⟩ := List.mem_flatMap.mp h
      obtain ⟨⟨selector, q⟩, -, rfl⟩ := List.mem_map.mp hc
      exact isRemark_of_mem_clause h
  · exact Outcome.isRemark_of_mem_reports h

theorem ElementRule.isPlain_of_mem_conduct {r : ElementRule} {d : Document} {a : Action}
    (h : a ∈ (r.conduct d).actions) : a.IsPlain := (isRemark_of_mem_conduct h).isPlain

/-- A fixed message is reported, unless it cannot be. -/
theorem Notice.eq_of_mem_conduct {n : Notice} {a : Action} (h : a ∈ n.conduct.actions) :
    (∃ message, a = .debug message) ∨ ∃ s, n.severity = some s ∧ a = .report s n.message none := by
  rw [conduct] at h
  rcases List.mem_cons.mp h with rfl | h
  · exact .inl ⟨_, rfl⟩
  · split at h
    · cases h
    · obtain ⟨s, hs, rfl⟩ := Option.map_eq_some_iff.mp (Option.mem_toList.mp h)
      exact .inr ⟨s, hs, rfl⟩

theorem Notice.isPlain_of_mem_conduct {n : Notice} {a : Action} (h : a ∈ n.conduct.actions) :
    a.IsPlain := by
  rcases eq_of_mem_conduct h with ⟨message, rfl⟩ | ⟨s, -, rfl⟩ <;> trivial

namespace Script

/-- What a step does beyond the log and the findings: what it says, and a step that gives up the
turn only in a script that suspends. -/
theorem Step.mem_actions {suspends : Bool} {d : Document} {step : Step} {actions : List Action}
    (h : step.actions suspends d = .ok actions) {a : Action} (ha : a ∈ actions) :
    a.IsRemark ∨ (a = .close ∧ step = .close) ∨ (∃ e, a = .set e ∧ step = .set e)
      ∨ suspends = true ∧ ((a = .yield ∧ step = .yield) ∨ ∃ e, a = .wait e ∧ step = .wait e) := by
  cases step with
  | warn message selector | error message selector =>
    simp only [Step.actions, bind, Except.bind, pure, Except.pure] at h
    split at h
    · cases h
    · cases h
      rw [List.mem_singleton.mp ha]
      exact .inl trivial
  | exception f =>
    cases h
    rw [List.mem_singleton.mp ha]
    exact .inl trivial
  | raise f => cases h
  | find selector =>
    simp only [Step.actions, bind, Except.bind, pure, Except.pure] at h
    split at h
    · cases h
    · cases h
      rw [List.mem_singleton.mp ha]
      exact .inl trivial
  | close =>
    cases h
    exact .inr (.inl ⟨List.mem_singleton.mp ha, rfl⟩)
  | set event =>
    cases h
    exact .inr (.inr (.inl ⟨event, List.mem_singleton.mp ha, rfl⟩))
  | yield =>
    cases h
    cases suspends with
    | false => cases ha
    | true => exact .inr (.inr (.inr ⟨rfl, .inl ⟨List.mem_singleton.mp ha, rfl⟩⟩))
  | wait event =>
    cases h
    cases suspends with
    | false => cases ha
    | true => exact .inr (.inr (.inr ⟨rfl, .inr ⟨event, List.mem_singleton.mp ha, rfl⟩⟩))

/-- Every action of a script comes from one of its steps, or only logs its call. -/
theorem mem_conduct {s : Script} {d : Document} {a : Action} (h : a ∈ (s.conduct d).actions) :
    a.IsRemark ∨ ∃ step ∈ s.steps, ∃ actions, step.actions s.suspends d = .ok actions
      ∧ a ∈ actions := by
  rcases List.mem_append.mp h with h | h
  · rw [List.mem_singleton.mp h]
    exact .inl trivial
  · refine .inr ?_
    generalize s.steps = steps at h
    induction steps with
    | nil => cases h
    | cons step steps ih =>
      rw [conductOf] at h
      split at h
      · rename_i actions hstep
        rcases List.mem_append.mp h with h | h
        · exact ⟨step, List.mem_cons_self, actions, hstep, h⟩
        · obtain ⟨step', hmem, hrest⟩ := ih h
          exact ⟨step', List.mem_cons_of_mem _ hmem, hrest⟩
      · cases h

end Script

namespace Rule

/-- Whether a rule leaves the report open. Only a script can close it. -/
def KeepsOpen : Rule → Prop
  | .script s => .close ∉ s.steps
  | _ => True

/-- Whether a rule does all that it does in one turn. Only a script that suspends may give up its
turn, and it does so by yielding or waiting. -/
def IsSynchronous : Rule → Prop
  | .script s => s.suspends = true → .yield ∉ s.steps ∧ ∀ e, .wait e ∉ s.steps
  | _ => True

/-- Whether a rule never waits for an event. Only a script that suspends can. -/
def NeverWaits : Rule → Prop
  | .script s => s.suspends = true → ∀ e, .wait e ∉ s.steps
  | _ => True

theorem IsSynchronous.neverWaits {rule : Rule} (h : rule.IsSynchronous) : rule.NeverWaits := by
  cases rule with
  | script s => exact fun hs ↦ (h hs).2
  | _ => trivial

/-- What a rule does beyond the log and the findings: nothing, unless it is a script with such a
step. -/
theorem mem_conduct {rule : Rule} {d : Document} {a : Action}
    (h : a ∈ (rule.conduct d).actions) :
    a.IsPlain ∨ ∃ s, rule = .script s ∧ ((a = .close ∧ .close ∈ s.steps)
      ∨ (∃ e, a = .set e ∧ .set e ∈ s.steps)
      ∨ s.suspends = true ∧ ((a = .yield ∧ .yield ∈ s.steps)
        ∨ ∃ e, a = .wait e ∧ .wait e ∈ s.steps)) := by
  cases rule with
  | attributes r => exact .inl (AttributeRule.isRemark_of_mem_conduct h).isPlain
  | elements r => exact .inl (ElementRule.isPlain_of_mem_conduct h)
  | notice n => exact .inl (Notice.isPlain_of_mem_conduct h)
  | rejected f => cases h
  | unknown name => cases h
  | script s =>
    rcases Script.mem_conduct h with h | ⟨step, hstep, actions, hok, ha⟩
    · exact .inl h.isPlain
    · rcases Script.Step.mem_actions hok ha with
        h | ⟨rfl, rfl⟩ | ⟨e, rfl, rfl⟩ | ⟨hs, ⟨rfl, rfl⟩ | ⟨e, rfl, rfl⟩⟩
      · exact .inl h.isPlain
      · exact .inr ⟨s, rfl, .inl ⟨rfl, hstep⟩⟩
      · exact .inr ⟨s, rfl, .inr (.inl ⟨e, rfl, hstep⟩)⟩
      · exact .inr ⟨s, rfl, .inr (.inr ⟨hs, .inl ⟨rfl, hstep⟩⟩)⟩
      · exact .inr ⟨s, rfl, .inr (.inr ⟨hs, .inr ⟨e, rfl, hstep⟩⟩)⟩

theorem close_notMem_conduct {rule : Rule} (hr : rule.KeepsOpen) (d : Document) :
    .close ∉ (rule.conduct d).actions := by
  intro h
  rcases mem_conduct h with h | ⟨s, rfl, ⟨-, h⟩ | ⟨e, h, -⟩ | ⟨-, ⟨h, -⟩ | ⟨e, h, -⟩⟩⟩
  · exact h
  · exact hr h
  all_goals cases h

theorem yield_notMem_conduct {rule : Rule} (hr : rule.IsSynchronous) (d : Document) :
    .yield ∉ (rule.conduct d).actions := by
  intro h
  rcases mem_conduct h with h | ⟨s, rfl, ⟨h, -⟩ | ⟨e, h, -⟩ | ⟨hs, ⟨-, h⟩ | ⟨e, h, -⟩⟩⟩
  · exact h
  · cases h
  · cases h
  · exact (hr hs).1 h
  · cases h

theorem wait_notMem_conduct {rule : Rule} (hr : rule.NeverWaits) (d : Document) (e : String) :
    .wait e ∉ (rule.conduct d).actions := by
  intro h
  rcases mem_conduct h with h | ⟨s, rfl, ⟨h, -⟩ | ⟨e', h, -⟩ | ⟨hs, ⟨h, -⟩ | ⟨e', h, hm⟩⟩⟩
  · exact h
  · cases h
  · cases h
  · cases h
  · cases h
    exact hr hs e hm

end Rule

end VectorLint
