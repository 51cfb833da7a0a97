import VectorLint.Config.Load
import VectorLint.Proofs.Rule.Instances
import VectorLint.Proofs.Run.Messages
import VectorLint.Proofs.Value.Reading

/-!
# The values of a configuration

A configuration that is loaded is made of values that were read from JSON text, so each of them is
one that JSON has. The findings of a run say texts, or such a value: whatever is configured as a
fixed message can be written.
-/

namespace VectorLint

open Attempt

/-! ## Parts of values -/

namespace Value.IsJson

variable {depth : ℕ} {v : Value}

theorem of_mem_fields {fields : List (String × Value)} (h : v.IsJson depth)
    (hv : v.fields? = some fields) : ∀ f ∈ fields, f.2.IsJson depth := by
  cases h with
  | object hnames h =>
    cases hv
    exact fun f hf ↦ (h f hf).mono (Nat.le_succ _)
  | _ => cases hv

theorem of_mem_items {items : List Value} (h : v.IsJson depth) (hv : v.items? = some items) :
    ∀ item ∈ items, item.IsJson depth := by
  cases h with
  | list h =>
    cases hv
    exact fun item hitem ↦ (h item hitem).mono (Nat.le_succ _)
  | _ => cases hv

theorem of_get? {fields : List (String × Value)} {name : String} {w : Value}
    (h : ∀ f ∈ fields, f.2.IsJson depth) (hw : Fields.get? fields name = some w) :
    w.IsJson depth := by
  obtain ⟨before, after, rfl, -⟩ := List.lookup_eq_some_iff.mp hw
  exact h (name, w) (by simp)

end Value.IsJson

namespace Config

variable {fs : Files} {depth : ℕ} {c : Config}

theorem isJson_of_ofFields {fields : List (String × Value)} (h : ofFields fields = .ok c)
    (hfields : ∀ f ∈ fields, f.2.IsJson depth) : ∀ rule ∈ c.rules, rule.2.IsJson depth := by
  rw [ofFields] at h
  split at h
  · cases h
    intro rule hrule
    cases hrules : (Fields.get? fields "rules").bind Value.fields? with
    | none =>
      simp only [hrules] at hrule
      cases hrule
    | some rules =>
      simp only [hrules] at hrule
      obtain ⟨v, hv, hv'⟩ := Option.bind_eq_some_iff.mp hrules
      exact (Value.IsJson.of_get? hfields hv).of_mem_fields hv' rule hrule
  · cases h

theorem isJson_of_valueOfText {cs : List Char} {v : Value} (h : valueOfText depth cs = .ok v) :
    v.IsJson depth := by
  rw [valueOfText] at h
  split at h
  · rename_i hread
    cases h
    exact Json.isJson_of_read hread
  · cases h
  · cases h

theorem isJson_of_ofOctets {octets : List UInt8} (h : ofOctets depth octets = .ok c) :
    ∀ rule ∈ c.rules, rule.2.IsJson depth := by
  rw [ofOctets] at h
  split at h
  · obtain ⟨cs, -, h⟩ := exists_of_bind_eq_ok h
    obtain ⟨v, hv, h⟩ := exists_of_bind_eq_ok h
    split at h
    · cases h
    · rename_i fields hfields
      exact isJson_of_ofFields (eq_ok_of_mapError_eq_ok h)
        ((isJson_of_valueOfText hv).of_mem_fields hfields)
  · cases h

theorem isJson_of_loadFrom {p : FilePath} (h : loadFrom fs depth p = .ok c) :
    ∀ rule ∈ c.rules, rule.2.IsJson depth := by
  rw [loadFrom] at h
  obtain ⟨isThere, -, h⟩ := exists_of_bind_eq_ok h
  split at h
  · split at h
    · cases h
    · exact isJson_of_ofOctets (eq_ok_of_mapError_eq_ok h)
  · cases h
    exact fun rule hrule ↦ absurd hrule List.not_mem_nil

/-- **The values of a loaded configuration are values that JSON has.** -/
theorem isJson_of_load {path : Option FilePath} (h : load fs depth path = .ok c) :
    ∀ rule ∈ c.rules, rule.2.IsJson depth := by
  rw [load.eq_def] at h
  split at h
  · exact isJson_of_loadFrom h
  · obtain ⟨p?, -, h⟩ := exists_of_bind_eq_ok h
    split at h
    · exact isJson_of_loadFrom h
    · cases h
      exact fun rule hrule ↦ absurd hrule List.not_mem_nil

end Config

/-! ## The rules of a configuration -/

section Rules

variable {depth : ℕ} {limits : Limits}

theorem Notice.isJson_of_ofConfig {config : Value} {n : Notice}
    (h : Notice.ofConfig limits config = .ok n) (hconfig : config.IsJson depth) :
    n.message.IsJson depth := by
  rw [Notice.ofConfig] at h
  split at h
  · rename_i fields hfields
    have hmessage : ((Fields.get? fields "message").getD (.text "")).IsJson depth := by
      cases hget : Fields.get? fields "message" with
      | none => exact .text ""
      | some v => exact Value.IsJson.of_get? (hconfig.of_mem_fields hfields) hget
    generalize (Fields.get? fields "message").getD (.text "") = message at h hmessage
    split at h
    · cases h
      exact hmessage
    · split at h
      · cases h
        exact hmessage
      · rw [Value.refused_eq] at h
        cases h
  · cases h

theorem Rule.isJson_of_ofConfig {name : String} {config : Value} {n : Notice}
    (h : Rule.ofConfig limits name config = .ok (.notice n)) (hconfig : config.IsJson depth) :
    n.message.IsJson depth := by
  rw [Rule.ofConfig] at h
  split at h
  · cases h
  · rename_i kind _
    obtain ⟨kept, hkept, h⟩ := exists_of_bind_eq_ok h
    cases hgenerate : kind.generate limits config with
    | error f =>
      rw [hgenerate, Failure.kept] at hkept
      split at hkept
      · cases hkept
        cases h
      · cases hkept
    | ok rule =>
      rw [hgenerate, Failure.kept] at hkept
      cases hkept
      cases h
      cases kind with
      | notice =>
        obtain ⟨n', hn', heq⟩ := exists_of_map_eq_ok hgenerate
        cases heq
        exact Notice.isJson_of_ofConfig hn' hconfig
      | attributes =>
        obtain ⟨r, -, heq⟩ := exists_of_map_eq_ok hgenerate
        cases heq
      | elements =>
        obtain ⟨r, -, heq⟩ := exists_of_map_eq_ok hgenerate
        cases heq
      | custom =>
        cases config <;> cases hgenerate

variable {rules : List (String × Value)} (hrules : ∀ rule ∈ rules, rule.2.IsJson depth)

include hrules

theorem Rule.Occurrence.isJson_of_mem_ofRules {o : Occurrence} (ho : o ∈ ofRules rules) :
    o.config.IsJson depth := by
  obtain ⟨⟨name, v⟩, hrule, ho⟩ := List.mem_flatMap.mp ho
  have hv : v.IsJson depth := hrules (name, v) hrule
  simp only [ofEntry.eq_def] at ho
  split at ho
  · obtain ⟨⟨item, number⟩, hitem, rfl⟩ := List.mem_map.mp ho
    exact hv.of_mem_items rfl item (List.fst_mem_of_mem_zipIdx hitem)
  · rwa [List.mem_singleton.mp ho]

theorem Rule.Instance.isJson_of_mem_ofConfigs {instances : List Rule.Instance}
    (hinstances : Rule.Instance.ofConfigs limits rules = .ok instances) {i : Rule.Instance}
    (hi : i ∈ instances) {n : Notice} (hn : i.rule = .notice n) : n.message.IsJson depth := by
  obtain ⟨o, ho, hbuild⟩ := exists_of_mem_mapM hinstances hi
  obtain ⟨rule, hrule, rfl⟩ := exists_of_map_eq_ok hbuild
  cases hn
  exact Rule.isJson_of_ofConfig hrule (Rule.Occurrence.isJson_of_mem_ofRules hrules ho)

/-- **The findings of a run say values that JSON has**, if the configuration is made of such
values. -/
theorem Document.isJson_of_mem_diagnostics_lint {d : Document} {r : Run} (hr : d.lint rules = .ok r)
    {finding : Diagnostic} (h : finding ∈ r.diagnostics) : finding.message.IsJson depth :=
  Document.says_of_mem_diagnostics_lint .text
    (fun _ hinstances _ hi _ hn _ ↦
      Rule.Instance.isJson_of_mem_ofConfigs hrules hinstances hi hn) hr h

end Rules

/-! ## Building the rules -/

section Building

variable {depth : ℕ} {limits : Limits} (hdepth : depth < limits.depth)
  (hdigits : Json.maxDigits ≤ limits.digits)

section Fields

variable {fields : List (String × Value)} (hfields : ∀ f ∈ fields, f.2.IsJson depth)

include hfields

theorem Fields.isJson_getD_get? (name : String) {v : Value} (hv : v.IsJson depth) :
    ((Fields.get? fields name).getD v).IsJson depth := by
  cases hget : Fields.get? fields name with
  | none => exact hv
  | some w => exact Value.IsJson.of_get? hfields hget

include hdepth hdigits

theorem AttributeRule.rejection?_eq_none : rejection? limits fields = none := by
  rw [rejection?]
  cases settings fields with
  | error f =>
    have hselector := Fields.isJson_getD_get? hfields selectorKey (.text "*")
    have hwhitelist := Fields.isJson_getD_get? hfields whitelistKey (.bool false)
    simp only [unsettled?]
    split
    · rfl
    · exact hwhitelist.obstacle?_eq_none hdepth hdigits
    · exact hselector.obstacle?_eq_none hdepth hdigits
  | ok s =>
    refine List.findSome?_eq_none_iff.mpr fun c hc ↦ ?_
    rw [unwritten?]
    exact (hfields c (List.mem_of_mem_filter hc)).ite_eq_none hdepth hdigits

theorem ElementRule.findSome?_unwritten? :
    fields.findSome? (fun c ↦ unwritten? limits c.2) = none := by
  refine List.findSome?_eq_none_iff.mpr fun c hc ↦ ?_
  rw [unwritten?]
  exact (hfields c hc).ite_eq_none hdepth hdigits

theorem Notice.rejection?_eq_none : rejection? limits fields = none := by
  have hmethod := Fields.isJson_getD_get? hfields "method" .null
  rw [rejection?]
  split
  · rfl
  · split
    · rfl
    · exact hmethod.obstacle?_eq_none hdepth hdigits

end Fields

include hdepth hdigits

theorem Rule.Kind.unwritten?_eq_none {config : Value} (h : config.IsJson depth) (kind : Kind) :
    kind.unwritten? limits config = none := by
  cases hfields : config.fields? with
  | none => cases kind <;> simp [unwritten?, hfields]
  | some fields =>
    have hall := h.of_mem_fields hfields
    cases kind with
    | attributes =>
      rw [unwritten?, hfields]
      exact AttributeRule.rejection?_eq_none hdepth hdigits hall
    | elements =>
      rw [unwritten?, hfields]
      exact ElementRule.findSome?_unwritten? hdepth hdigits hall
    | notice =>
      rw [unwritten?, hfields]
      exact Notice.rejection?_eq_none hdepth hdigits hall
    | custom => rfl

/-- **Loaded rules can be built**: whatever JSON has can be written where it is refused. -/
theorem Rule.Instance.exists_ofConfigs_eq_ok {rules : List (String × Value)}
    (hrules : ∀ rule ∈ rules, rule.2.IsJson depth) :
    ∃ instances, Rule.Instance.ofConfigs limits rules = .ok instances := by
  refine exists_mapM_eq_ok fun o ho ↦ ?_
  have hunwritten : o.unwritten? limits = none := by
    rw [Occurrence.unwritten?]
    cases Kind.ofName? o.rule with
    | none => rfl
    | some kind =>
      exact kind.unwritten?_eq_none hdepth hdigits (Occurrence.isJson_of_mem_ofRules hrules ho)
  obtain ⟨i, hi, -⟩ := (o.comesTo_build limits).exists_eq_ok hunwritten
  exact ⟨i, hi⟩

end Building

theorem Document.exists_lint_eq_ok {depth : ℕ} {rules : List (String × Value)}
    (hdepth : depth < Limits.standard.depth) (hrules : ∀ rule ∈ rules, rule.2.IsJson depth)
    (d : Document) : ∃ r, d.lint rules = .ok r := by
  obtain ⟨instances, hinstances⟩ :=
    Rule.Instance.exists_ofConfigs_eq_ok hdepth le_rfl hrules
  refine ⟨(Run.ofBuilt d instances).run.1, ?_⟩
  rw [Document.lint, Run.create, hinstances]
  rfl

end VectorLint
