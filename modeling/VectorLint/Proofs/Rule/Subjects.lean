import VectorLint.Proofs.Attempt
import VectorLint.Proofs.Document.Matched
import VectorLint.Proofs.Rule.Actions

/-!
# What reports are about

A report is about no element, or about an element of the document that was linted. Rules get hold of
elements by searching the document alone, and a search finds elements of the document.
-/

namespace VectorLint

/-- Whether something is about no element, or about an element of a document. -/
def Document.IsSubject (d : Document) (element : Option Element) : Prop :=
  ∀ e ∈ element, e ∈ d.elements

namespace Document

variable {d : Document}

theorem isSubject_none : d.IsSubject none := fun e he ↦ by cases he

theorem isSubject_of_mem_find {selector : String} {found : List Element}
    (h : d.find selector = .ok found) {e : Element} (he : e ∈ found) : d.IsSubject (some e) :=
  fun _ he' ↦ Option.some.inj he' ▸ (sublist_of_find h).subset he

end Document

/-- Whether a report is about no element, or about an element of a document. -/
def Action.IsAbout (d : Document) : Action → Prop
  | .report _ _ element => d.IsSubject element
  | _ => True

variable {d : Document} {a : Action}

theorem Outcome.isAbout_of_mem_reports {outcomes : List Outcome}
    (h : ∀ o ∈ outcomes, ∀ f ∈ o.disallowed, d.IsSubject f.element)
    (ha : a ∈ Outcome.reports outcomes) : a.IsAbout d := by
  obtain ⟨f, hf, rfl⟩ := List.mem_map.mp ha
  obtain ⟨o, ho, hf⟩ := List.mem_flatMap.mp (List.mem_of_mem_filter hf)
  exact h o ho f hf

theorem AttributeRule.isAbout_of_mem_conduct {r : AttributeRule}
    (h : a ∈ (r.conduct d).actions) : a.IsAbout d := by
  rw [conduct] at h
  rcases List.mem_append.mp h with h | h
  · rcases List.mem_cons.mp h with rfl | h
    · trivial
    · obtain ⟨f, -, rfl⟩ := List.mem_map.mp h
      exact Document.isSubject_none
  · split at h
    · rename_i o ho
      rcases List.mem_cons.mp h with rfl | h
      · trivial
      · refine Outcome.isAbout_of_mem_reports (List.forall_mem_singleton.mpr fun f hf ↦ ?_) h
        simp only [outcome, bind, Except.bind] at ho
        split at ho
        · cases ho
        · rename_i found hfound
          cases ho
          obtain ⟨e, he, hf⟩ := List.mem_flatMap.mp hf
          obtain ⟨message, -, rfl⟩ := List.mem_map.mp hf
          exact Document.isSubject_of_mem_find hfound he
    · simp only [List.mem_cons, List.not_mem_nil, or_false] at h
      rcases h with rfl | rfl
      · trivial
      · exact Document.isSubject_none

namespace ElementRule

variable {limits : Limits}

theorem isSubject_of_mem_judge {selector : String} {matched : List Element}
    (h : ∀ e ∈ matched, d.IsSubject (some e)) {q : Requirement} {o : Outcome}
    (ho : q.judge limits selector matched = .ok o) {f : Finding} (hf : f ∈ o.disallowed) :
    d.IsSubject f.element := by
  have hall {message : String} (hf : f ∈ Requirement.judge.all matched message) :
      d.IsSubject f.element := by
    obtain ⟨e, he, rfl⟩ := List.mem_map.mp hf
    exact h e he
  have hnone {message : String} (hf : f ∈ [(⟨none, message⟩ : Finding)]) :
      d.IsSubject f.element := by
    rw [List.mem_singleton.mp hf]
    exact Document.isSubject_none
  cases q with
  | forbidden =>
    cases ho
    exact hall hf
  | required =>
    cases ho
    split at hf
    · exact hnone hf
    · cases hf
  | exactly n =>
    rw [Requirement.judge] at ho
    split at ho
    · cases ho
      cases hf
    · obtain ⟨text, -, ho⟩ := Attempt.exists_of_bind_eq_ok ho
      cases ho
      split at hf
      · exact hnone hf
      · exact hall hf
  | between minimum maximum =>
    rw [Requirement.judge] at ho
    split at ho
    · cases ho
      cases hf
    · obtain ⟨low, -, ho⟩ := Attempt.exists_of_bind_eq_ok ho
      obtain ⟨high, -, ho⟩ := Attempt.exists_of_bind_eq_ok ho
      cases ho
      exact hnone hf

theorem isAbout_of_mem_clause {selector : String} {q : Except Failure Requirement}
    (h : a ∈ (clause limits d selector q).1) : a.IsAbout d := by
  unfold clause at h
  split at h
  · rw [List.mem_singleton.mp h]
    exact Document.isSubject_none
  · split at h
    · rw [List.mem_singleton.mp h]
      trivial
    · simp only [List.mem_cons, List.not_mem_nil, or_false] at h
      rcases h with rfl | rfl
      · trivial
      · exact Document.isSubject_none

theorem isSubject_of_clause {selector : String} {q : Except Failure Requirement} {o : Outcome}
    (h : (clause limits d selector q).2 = some o) {f : Finding} (hf : f ∈ o.disallowed) :
    d.IsSubject f.element := by
  unfold clause at h
  split at h
  · cases h
  · split at h
    · rename_i o' ho
      cases h
      obtain ⟨found, hfound, ho⟩ := Attempt.exists_of_bind_eq_ok ho
      exact isSubject_of_mem_judge (fun e ↦ Document.isSubject_of_mem_find hfound) ho hf
    · cases h

theorem isAbout_of_mem_conduct {r : ElementRule} (h : a ∈ (r.conduct d).actions) :
    a.IsAbout d := by
  rw [conduct] at h
  rcases List.mem_append.mp h with h | h
  · rcases List.mem_cons.mp h with rfl | h
    · trivial
    · obtain ⟨c, hc, h⟩ := List.mem_flatMap.mp h
      obtain ⟨⟨selector, q⟩, -, rfl⟩ := List.mem_map.mp hc
      exact isAbout_of_mem_clause h
  · refine Outcome.isAbout_of_mem_reports (fun o ho f hf ↦ ?_) h
    obtain ⟨c, hc, ho⟩ := List.mem_filterMap.mp ho
    obtain ⟨⟨selector, q⟩, -, rfl⟩ := List.mem_map.mp hc
    exact isSubject_of_clause ho hf

end ElementRule

namespace Script

theorem isSubject_of_subject {selector : Option String} {element : Option Element}
    (h : subject d selector = .ok element) : d.IsSubject element := by
  cases selector with
  | none =>
    cases h
    exact Document.isSubject_none
  | some selector =>
    simp only [subject, bind, Except.bind] at h
    split at h
    · cases h
    · rename_i found hfound
      split at h
      · rename_i e he
        cases h
        exact Document.isSubject_of_mem_find hfound (List.mem_of_head? he)
      · cases h

theorem Step.isAbout_of_mem_actions {suspends : Bool} {step : Step} {actions : List Action}
    (h : step.actions suspends d = .ok actions) (ha : a ∈ actions) : a.IsAbout d := by
  cases step with
  | warn message selector | error message selector =>
    simp only [Step.actions, bind, Except.bind, pure, Except.pure] at h
    split at h
    · cases h
    · rename_i element helement
      cases h
      rw [List.mem_singleton.mp ha]
      exact isSubject_of_subject helement
  | exception f =>
    cases h
    rw [List.mem_singleton.mp ha]
    exact Document.isSubject_none
  | raise f => cases h
  | find selector =>
    simp only [Step.actions, bind, Except.bind, pure, Except.pure] at h
    split at h
    · cases h
    · cases h
      rw [List.mem_singleton.mp ha]
      exact Document.isSubject_none
  | close | set event =>
    cases h
    rw [List.mem_singleton.mp ha]
    trivial
  | yield | wait event =>
    cases h
    cases suspends with
    | false => cases ha
    | true =>
      rw [List.mem_singleton.mp ha]
      trivial

theorem isAbout_of_mem_conduct {s : Script} (h : a ∈ (s.conduct d).actions) : a.IsAbout d := by
  rcases List.mem_append.mp h with h | h
  · rw [List.mem_singleton.mp h]
    trivial
  · generalize s.steps = steps at h
    induction steps with
    | nil => cases h
    | cons step steps ih =>
      rw [conductOf] at h
      split at h
      · rename_i actions hstep
        rcases List.mem_append.mp h with h | h
        · exact Step.isAbout_of_mem_actions hstep h
        · exact ih h
      · cases h

end Script

/-- **What a rule reports on a document is about that document.** -/
theorem Rule.isAbout_of_mem_conduct {rule : Rule} (h : a ∈ (rule.conduct d).actions) :
    a.IsAbout d := by
  cases rule with
  | attributes r => exact AttributeRule.isAbout_of_mem_conduct h
  | elements r => exact ElementRule.isAbout_of_mem_conduct h
  | script s => exact Script.isAbout_of_mem_conduct h
  | rejected f => cases h
  | unknown name => cases h
  | notice n =>
    rcases Notice.eq_of_mem_conduct h with ⟨message, rfl⟩ | ⟨s, -, rfl⟩
    · trivial
    · exact Document.isSubject_none

end VectorLint
