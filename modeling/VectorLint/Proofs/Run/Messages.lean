import VectorLint.Proofs.Run.Findings

/-!
# What findings say

A finding says a text, unless a rule with a fixed message was given another value for it. Rules of
all other kinds report texts only, whatever their configuration, and so do runs on behalf of rules
that fail. That all findings of a run say texts is therefore a matter of its fixed messages alone.
-/

namespace VectorLint

/-- Whether a value is a text. -/
def Value.IsText (v : Value) : Prop := ∃ s, v = .text s

instance : DecidablePred Value.IsText := fun v ↦
  decidable_of_iff (v.text?.isSome = true) (by cases v <;> simp [Value.text?, Value.IsText])

/-- Whether the message of a rule with a fixed message is a text, if it is reported. -/
def Rule.SaysText : Rule → Prop
  | .notice n => n.severity.isSome → n.message.IsText
  | _ => True

instance : DecidablePred Rule.SaysText
  | .notice n => inferInstanceAs (Decidable (n.severity.isSome → n.message.IsText))
  | .attributes _ | .elements _ | .script _ | .rejected _ | .unknown _ => .isTrue trivial

section

variable {Q : Value → Prop}

theorem Action.IsRemark.reports {a : Action} (h : a.IsRemark) (htext : ∀ s, Q (.text s)) :
    a.Reports fun message _ ↦ Q message := by
  cases a with
  | report severity message element =>
    cases message with
    | text s => exact htext s
    | _ => cases h
  | _ => trivial

theorem Script.reports_of_mem_conduct {s : Script} {d : Document} {a : Action}
    (h : a ∈ (s.conduct d).actions) (htext : ∀ s, Q (.text s)) :
    a.Reports fun message _ ↦ Q message := by
  rcases mem_conduct h with h | ⟨step, -, actions, hok, ha⟩
  · exact h.reports htext
  · rcases Step.mem_actions hok ha with
      h | ⟨rfl, -⟩ | ⟨e, rfl, -⟩ | ⟨-, ⟨rfl, -⟩ | ⟨e, rfl, -⟩⟩
    · exact h.reports htext
    all_goals trivial

theorem Rule.reports_of_mem_conduct {rule : Rule} {d : Document} {a : Action}
    (h : a ∈ (rule.conduct d).actions) (htext : ∀ s, Q (.text s))
    (hrule : ∀ n, rule = .notice n → n.severity.isSome → Q n.message) :
    a.Reports fun message _ ↦ Q message := by
  cases rule with
  | attributes r => exact (AttributeRule.isRemark_of_mem_conduct h).reports htext
  | elements r => exact (ElementRule.isRemark_of_mem_conduct h).reports htext
  | script s => exact Script.reports_of_mem_conduct h htext
  | rejected f => cases h
  | unknown name => cases h
  | notice n =>
    rcases Notice.eq_of_mem_conduct h with ⟨message, rfl⟩ | ⟨s, hs, rfl⟩
    · trivial
    · exact hrule n rfl (by rw [hs, Option.isSome_some])

/-- What holds of all texts and of all fixed messages among the configured rules holds of what the
findings of a document say. -/
theorem Document.says_of_mem_diagnostics_lint {d : Document} {rules : List (String × Value)}
    (htext : ∀ s, Q (.text s))
    (hrules : ∀ instances, Rule.Instance.ofConfigs .standard rules = .ok instances →
      ∀ i ∈ instances, ∀ n, i.rule = .notice n → n.severity.isSome → Q n.message)
    {r : Run} (hr : d.lint rules = .ok r) {finding : Diagnostic} (h : finding ∈ r.diagnostics) :
    Q finding.message := by
  refine Document.of_mem_diagnostics_lint (P := fun message _ ↦ Q message)
    (fun instances hinstances i hi a ha ↦ ?_) hr h
  rcases List.mem_append.mp ha with ha | ha
  · exact Rule.reports_of_mem_conduct ha htext (hrules instances hinstances i hi)
  · exact (Run.isRemark_of_mem_ending ha).reports htext

end

/-- Whether all fixed messages among configured rules are texts, if they are reported. -/
def Rule.SayTexts (rules : List (String × Value)) : Prop :=
  ∀ instances, Rule.Instance.ofConfigs .standard rules = .ok instances →
    ∀ i ∈ instances, i.rule.SaysText

instance : DecidablePred Rule.SayTexts := fun rules ↦
  decidable_of_iff ((Rule.Instance.ofConfigs .standard rules).toOption.all fun instances ↦
      decide (∀ i ∈ instances, i.rule.SaysText)) (by
    rw [Rule.SayTexts]
    cases Rule.Instance.ofConfigs .standard rules <;> simp [Except.toOption])

/-- **All findings of a document say texts** if all fixed messages among the configured rules are
texts. -/
theorem Document.isText_of_mem_diagnostics_lint {d : Document} {rules : List (String × Value)}
    (hrules : Rule.SayTexts rules) {r : Run} (hr : d.lint rules = .ok r) {finding : Diagnostic}
    (h : finding ∈ r.diagnostics) : finding.message.IsText := by
  refine Document.says_of_mem_diagnostics_lint (fun s ↦ ⟨s, rfl⟩)
    (fun instances hinstances i hi n hn ↦ ?_) hr h
  have hsays := hrules instances hinstances i hi
  rw [hn] at hsays
  exact hsays

end VectorLint
