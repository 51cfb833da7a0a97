import VectorLint.Proofs.Attempt
import VectorLint.Proofs.Document.Matched
import VectorLint.Proofs.Rule.Actions
import VectorLint.Proofs.Value.Limits

/-!
# What the attribute rule reports

The attribute rule reads its configuration into requirements, names and failures, checks every
match, sorts the matches into allowed and disallowed ones, and resolves the two. The reports can be
said from the configuration and the attributes of the matches alone. A key that is not a setting is
*named*; its value asks for something or cannot be read; and a value that asks for something is
*violated* by the attribute of that name or by the lack of one.

That the resolution takes nothing away is due to the numbers of elements: a match is allowed only if
it has no failure, and no other match has its number. The requirements look an attribute up by its
name while the whitelist goes through all attributes, so it is also said that the two see the same.

What is refused is written in the text of the refusal. A value that cannot be written ends the
configuration with that failure instead, be it a setting of the wrong type or the value of a key.
-/

namespace VectorLint

namespace AttributeRule

/-! ## Keys, said by their values -/

/-- Whether a value asks for something: a truth value, a text or texts. -/
def isRequirement : Value → Bool
  | .bool _ => true
  | .text _ => true
  | v => v.texts?.isSome

/-- Whether an attribute with this value, or the lack of one, violates what is asked for. -/
def isViolated (value : Option String) : Value → Bool
  | .bool b => value.isSome ≠ b
  | .text s => value ≠ some s
  | v => v.texts?.any fun texts ↦ !value.any texts.contains

/-- What is said about an attribute whose value is not as a text or texts ask. -/
def mismatch (name value : String) : Value → String
  | .text s => "Expected attribute '" ++ name ++ "' to be '" ++ s ++ "', was '" ++ value ++ "'"
  | v => "Expected attribute '" ++ name ++ "' to be one of "
      ++ Value.shownTexts (v.texts?.getD []) ++ ", was '" ++ value ++ "'"

/-- What is said about an attribute that violates what is asked for, or about the lack of one. -/
def complaint (name : String) (value : Option String) : Value → String
  | .bool false => "Attribute '" ++ name ++ "' is disallowed"
  | v => match value with
    | none => "Expected attribute '" ++ name ++ "', didn't find it"
    | some value => mismatch name value v

/-- What is said about a key whose value asks for nothing and is written so. -/
def unknown (name : String) (v : Value) (text : String) : String :=
  "Unknown config type '" ++ v.kindName ++ "' for attribute '" ++ name ++ "' (" ++ text ++ ")"

/-- The failure of a key whose value cannot be read. -/
def unreadable (name : String) (v : Value) : Failure :=
  ⟨.configuration, unknown name v v.json⟩

/-- What keeps the failure of such a key from being written, and the rule from being made. -/
def unwritten? (limits : Limits) (v : Value) : Option Failure :=
  if isRequirement v then none else v.obstacle? limits .json limits.depth

/-- The value of the attribute of a name, as it is found among all attributes. -/
def valueOf (e : Element) (name : String) : Option String :=
  (e.attributes.map fun a ↦ (a.name, a.value)).lookup name

/-! ## The reports -/

section Reports

variable (limits : Limits) (fields : List (String × Value))

/-- The keys that are not settings, with their values. -/
def named : List (String × Value) := fields.filter fun c ↦ !isSetting c.1

/-- The selector and whether attributes have to be named, unless a setting has the wrong type. -/
def settings : Except Failure (String × Bool) :=
  match (Fields.get? fields selectorKey).getD (.text "*"),
    (Fields.get? fields whitelistKey).getD (.bool false) with
  | .text selector, .bool whitelist => .ok (selector, whitelist)
  | .text _, v => .error ⟨.configuration, "'rule::whitelist' must be a boolean, got " ++ v.shown⟩
  | v, _ => .error ⟨.configuration, "'rule::selector' must be a string, got " ++ v.shown⟩

/-- What keeps the failure of a setting of the wrong type from being written. -/
def unsettled? : Option Failure :=
  match (Fields.get? fields selectorKey).getD (.text "*"),
    (Fields.get? fields whitelistKey).getD (.bool false) with
  | .text _, .bool _ => none
  | .text _, v => v.obstacle? limits .shown limits.depth
  | v, _ => v.obstacle? limits .shown limits.depth

/-- The exceptions of the keys that cannot be read, in the order of the keys. -/
def refusals (view : View) : List Diagnostic :=
  ((named fields).filter fun c ↦ !isRequirement c.2).map fun c ↦
    ⟨.exception, .text (unreadable c.1 c.2).message, view.name, none⟩

/-- What is wrong with an element: what is said about each key that it violates, in the order of the
keys, and under a whitelist about each of its attributes that is not named, in their order. -/
def complaints (whitelist : Bool) (e : Element) : List String :=
  ((named fields).filter fun c ↦ isViolated (valueOf e c.1) c.2).map
      (fun c ↦ complaint c.1 (valueOf e c.1) c.2)
    ++ if whitelist then
        (e.attributes.filter fun a ↦ (named fields).all (·.1 ≠ a.name)).map
          fun a ↦ "Found unexpected attribute '" ++ a.name ++ "'"
      else []

/-- The exception of a selector that is rejected, or the errors of the elements that match it, in
document order. -/
def errors (d : Document) (selector : String) (whitelist : Bool) (view : View) : List Diagnostic :=
  match d.find selector with
  | .error f => [⟨.exception, .text f.message, view.name, none⟩]
  | .ok _ => (d.matched selector).flatMap fun e ↦ (complaints fields whitelist e).map fun message ↦
      ⟨.error, .text message, view.name, some e⟩

end Reports

/-! ## One key -/

theorem valueOf_eq_get? (e : Element) (name : String) : valueOf e name = e.get? name := by
  rw [valueOf, Element.get?, Markup.Tag.get?, Element.attributes]
  induction e.place.tag.attributes with
  | nil => rfl
  | cons a as ih =>
    rw [List.map_cons, List.lookup_cons, List.find?_cons, ih]
    by_cases h : a.name = name
    · simp [h]
    · have h' : (name == a.name) = false := beq_false_of_ne (Ne.symm h)
      simp [h, h']

section Texts

variable {v : Value} {texts : List String} (hv : v.texts? = some texts)

include hv

theorem isRequirement_of_texts? : isRequirement v = true := by
  cases v with
  | list | tuple =>
    change (Value.texts? _).isSome = true
    rw [hv, Option.isSome_some]
  | _ => cases hv

theorem isViolated_of_texts? (value : Option String) :
    isViolated value v = !value.any texts.contains := by
  cases v with
  | list | tuple =>
    change (Value.texts? _).any _ = _
    rw [hv, Option.any_some]
  | _ => cases hv

theorem mismatch_of_texts? (name value : String) : mismatch name value v
    = "Expected attribute '" ++ name ++ "' to be one of " ++ Value.shownTexts texts ++ ", was '"
      ++ value ++ "'" := by
  cases v with
  | list | tuple =>
    change _ ++ Value.shownTexts ((Value.texts? _).getD []) ++ _ ++ _ ++ _ = _
    rw [hv, Option.getD_some]
  | _ => cases hv

theorem complaint_of_texts? (name : String) (value : Option String) : complaint name value v
    = value.elim ("Expected attribute '" ++ name ++ "', didn't find it")
      fun value ↦ mismatch name value v := by
  cases v with
  | list | tuple => cases value <;> rfl
  | _ => cases hv

end Texts

private theorem fault?_oneOf {v : Value} {texts : List String} (hv : v.texts? = some texts)
    (name : String) (value : Option String) :
    (Requirement.oneOf texts).fault? name value
      = if isViolated value v then some (complaint name value v) else none := by
  rw [isViolated_of_texts? hv, complaint_of_texts? hv]
  cases value with
  | none => rfl
  | some value =>
    rw [Option.elim_some, mismatch_of_texts? hv, Requirement.fault?, Option.any_some]
    cases texts.contains value <;> rfl

private theorem ofValue_of_items {v : Value} {items : List Value} (hitems : v.items? = some items)
    (limits : Limits) (name : String) : Requirement.ofValue limits name v = match v.texts? with
      | some texts => .ok (.oneOf texts)
      | none => v.refused limits .json (unknown name v) := by
  cases v with
  | list | tuple => rfl
  | _ => cases hitems

private theorem isRequirement_of_items {v : Value} {items : List Value}
    (hitems : v.items? = some items) (hv : v.texts? = none) :
    isRequirement v = false ∧ ∀ value, isViolated value v = false := by
  cases v with
  | list | tuple =>
    refine ⟨?_, fun value ↦ ?_⟩
    · change (Value.texts? _).isSome = false
      rw [hv, Option.isSome_none]
    · change (Value.texts? _).any _ = false
      rw [hv, Option.any_none]
  | _ => cases hitems

/-- **A key.** Its value is read exactly if it asks for something, and then the check finds a fault
exactly if the value is violated, and says what is said about it. -/
theorem ofValue_eq (limits : Limits) (name : String) (v : Value) :
    (isRequirement v = false
        ∧ Requirement.ofValue limits name v = v.refused limits .json (unknown name v)
        ∧ ∀ value, isViolated value v = false)
      ∨ isRequirement v = true ∧ ∃ q, Requirement.ofValue limits name v = .ok q ∧ ∀ value,
        q.fault? name value
          = if isViolated value v then some (complaint name value v) else none := by
  have hsequence {items : List Value} (hitems : v.items? = some items) :
      (isRequirement v = false
          ∧ Requirement.ofValue limits name v = v.refused limits .json (unknown name v)
          ∧ ∀ value, isViolated value v = false)
        ∨ isRequirement v = true ∧ ∃ q, Requirement.ofValue limits name v = .ok q ∧ ∀ value,
          q.fault? name value
            = if isViolated value v then some (complaint name value v) else none := by
    rw [ofValue_of_items hitems]
    cases hv : v.texts? with
    | none =>
      obtain ⟨hr, hviolated⟩ := isRequirement_of_items hitems hv
      exact .inl ⟨hr, rfl, hviolated⟩
    | some texts =>
      exact .inr ⟨isRequirement_of_texts? hv, .oneOf texts, rfl, fault?_oneOf hv name⟩
  cases v with
  | bool b =>
    refine .inr ⟨rfl, ?_⟩
    cases b with
    | true => exact ⟨.present, rfl, fun value ↦ by cases value <;> rfl⟩
    | false => exact ⟨.absent, rfl, fun value ↦ by cases value <;> rfl⟩
  | text s =>
    refine .inr ⟨rfl, .equals s, rfl, fun value ↦ ?_⟩
    cases value with
    | none => rfl
    | some value =>
      have hviolated : isViolated (some value) (.text s) = decide (some value ≠ some s) := rfl
      have hfault : (Requirement.equals s).fault? name (some value)
          = if value = s then none else some (mismatch name value (.text s)) := rfl
      rw [hviolated, hfault]
      by_cases h : value = s
      · rw [if_pos h, if_neg (by simp [h])]
      · rw [if_neg h, if_pos (by simp [h])]
        rfl
  | list | tuple => exact hsequence rfl
  | _ => exact .inl ⟨rfl, rfl, fun _ ↦ rfl⟩

theorem comesTo_kept_ofValue (limits : Limits) (name : String) (v : Value) :
    ComesTo (· = Requirement.ofValue limits name v)
      (Failure.kept (Requirement.ofValue limits name v)) (unwritten? limits v) := by
  rw [unwritten?]
  rcases ofValue_eq limits name v with ⟨hr, hq, -⟩ | ⟨hr, q, hq, -⟩
  · rw [hr, hq]
    exact Value.comesTo_kept_refused v (unknown name v)
  · rw [hr, hq]
    exact .done _ rfl

/-! ## All keys -/

section Keys

variable (limits : Limits) (fields : List (String × Value))

/-- The rule that a configuration describes, once its settings are read. -/
def ofFields (selector : String) (whitelist : Bool) : AttributeRule where
  selector := selector
  requirements := (named fields).filterMap fun c ↦
    (Requirement.ofValue limits c.1 c.2).toOption.map fun q ↦ (c.1, q)
  whitelist := whitelist
  expected := (named fields).map (·.1)
  faults := (named fields).filterMap fun c ↦ match Requirement.ofValue limits c.1 c.2 with
    | .ok _ => none
    | .error f => some f

/-- A setting of the wrong type is refused, unless it cannot be written. -/
theorem ofConfig_of_settings_eq_error {f : Failure} (h : settings fields = .error f) :
    ofConfig limits (.object fields) = .error ((unsettled? limits fields).getD f) := by
  rw [settings] at h
  rw [ofConfig, unsettled?]
  simp only [Value.fields?, Value.refused_eq]
  generalize (Fields.get? fields selectorKey).getD (.text "*") = selector at h
  generalize (Fields.get? fields whitelistKey).getD (.bool false) = whitelist at h
  cases selector with
  | text selector =>
    cases whitelist with
    | bool whitelist => cases h
    | _ => cases h; rfl
  | _ => cases h; rfl

/-- Once the settings are read, there is a rule unless the failure of a key cannot be written. -/
theorem comesTo_ofConfig {selector : String} {whitelist : Bool}
    (h : settings fields = .ok (selector, whitelist)) :
    ComesTo (· = ofFields limits fields selector whitelist) (ofConfig limits (.object fields))
      ((named fields).findSome? fun c ↦ unwritten? limits c.2) := by
  have hread : ofFields limits fields selector whitelist = {
      selector, whitelist
      requirements := ((named fields).map fun c ↦
          (c.1, Requirement.ofValue limits c.1 c.2)).filterMap
        fun c ↦ c.2.toOption.map fun q ↦ (c.1, q)
      expected := (named fields).map (·.1)
      faults := ((named fields).map fun c ↦ (c.1, Requirement.ofValue limits c.1 c.2)).filterMap
        fun c ↦ match c.2 with
          | .ok _ => none
          | .error f => some f } := by
    rw [ofFields, List.filterMap_map, List.filterMap_map]
    rfl
  have hkey (c : String × Value) :
      ComesTo (· = (c.1, Requirement.ofValue limits c.1 c.2))
        ((Failure.kept (Requirement.ofValue limits c.1 c.2)).map fun q ↦ (c.1, q))
        (unwritten? limits c.2) :=
    (comesTo_kept_ofValue limits c.1 c.2).map fun q hq ↦ congrArg (Prod.mk c.1) hq
  have hkeys := comesTo_mapM_eq fun c (_ : c ∈ named fields) ↦ hkey c
  rw [settings] at h
  rw [ofConfig, hread]
  simp only [Value.fields?]
  generalize (Fields.get? fields selectorKey).getD (.text "*") = selector' at h
  generalize (Fields.get? fields whitelistKey).getD (.bool false) = whitelist' at h
  cases selector' with
  | text selector' =>
    cases whitelist' with
    | bool whitelist' =>
      cases h
      refine hkeys.map fun read hread ↦ ?_
      rw [hread]
      rfl
    | _ => cases h
  | _ => cases h

theorem kind_ne_of_unwritten? {v : Value} {f : Failure} (h : unwritten? limits v = some f) :
    f.kind ≠ .configuration := by
  rw [unwritten?] at h
  exact Value.kind_ne_of_ite h

theorem kind_ne_of_unsettled? {f : Failure} (h : unsettled? limits fields = some f) :
    f.kind ≠ .configuration := by
  rw [unsettled?] at h
  split at h
  · cases h
  · exact Value.kind_ne_of_obstacle? h
  · exact Value.kind_ne_of_obstacle? h

theorem kind_of_settings_eq_error {f : Failure} (h : settings fields = .error f) :
    f.kind = .configuration := by
  rw [settings] at h
  split at h <;> cases h <;> rfl

theorem faults_ofFields (hwritten : ∀ c ∈ named fields, unwritten? limits c.2 = none)
    (selector : String) (whitelist : Bool) :
    (ofFields limits fields selector whitelist).faults
      = ((named fields).filter fun c ↦ !isRequirement c.2).map fun c ↦ unreadable c.1 c.2 := by
  change (named fields).filterMap _ = _
  generalize named fields = keys at hwritten ⊢
  induction keys with
  | nil => rfl
  | cons c cs ih =>
    obtain ⟨hc, hcs⟩ := List.forall_mem_cons.mp hwritten
    rcases ofValue_eq limits c.1 c.2 with ⟨hr, hq, -⟩ | ⟨hr, q, hq, -⟩
    · have hobstacle : c.2.obstacle? limits .json limits.depth = none := by
        rwa [unwritten?, hr] at hc
      rw [List.filterMap_cons, hq, Value.refused_eq, hobstacle,
        List.filter_cons_of_pos (by rw [hr]; rfl), List.map_cons]
      exact congrArg _ (ih hcs)
    · rw [List.filterMap_cons, hq, List.filter_cons_of_neg (by rw [hr]; simp)]
      exact ih hcs

private theorem filterMap_requirements (selector : String) (whitelist : Bool) (e : Element) :
    (ofFields limits fields selector whitelist).requirements.filterMap
        (fun c ↦ c.2.fault? c.1 (e.get? c.1))
      = ((named fields).filter fun c ↦ isViolated (valueOf e c.1) c.2).map
          fun c ↦ complaint c.1 (valueOf e c.1) c.2 := by
  simp only [valueOf_eq_get?, ofFields]
  induction named fields with
  | nil => rfl
  | cons c cs ih =>
    rcases ofValue_eq limits c.1 c.2 with ⟨-, hq, hviolated⟩ | ⟨-, q, hq, hfault⟩
    · rw [List.filterMap_cons, hq, Value.refused_eq, List.filter_cons_of_neg (by simp [hviolated])]
      exact ih
    · have hsome : (Except.ok q : Except Failure Requirement).toOption = some q := rfl
      rw [List.filterMap_cons, hq, hsome, Option.map_some, List.filterMap_cons, hfault,
        List.filter_cons]
      cases isViolated (e.get? c.1) c.2 with
      | false => exact ih
      | true => exact congrArg _ ih

private theorem isExpected_ofFields (selector : String) (whitelist : Bool) (name : String) :
    (!(ofFields limits fields selector whitelist).expected.contains name
        && !((ofFields limits fields selector whitelist).requirements.map (·.1)).contains name)
      = (named fields).all (·.1 ≠ name) := by
  -- what is required is named, so the second look at the names of the requirements adds nothing
  have hnamed : name ∈ (ofFields limits fields selector whitelist).requirements.map (·.1)
      → name ∈ (named fields).map (·.1) := by
    simp only [ofFields, List.mem_map, List.mem_filterMap]
    rintro ⟨⟨name, q⟩, ⟨c, hc, hq⟩, rfl⟩
    obtain ⟨q', -, hq'⟩ := Option.map_eq_some_iff.mp hq
    exact ⟨c, hc, congrArg Prod.fst hq'⟩
  have hexpected : (ofFields limits fields selector whitelist).expected
      = (named fields).map (·.1) := rfl
  rw [hexpected, Bool.eq_iff_iff, List.all_eq_true]
  simp only [Bool.and_eq_true, Bool.not_eq_true', List.contains_eq_mem, decide_eq_false_iff_not,
    decide_eq_true_eq]
  constructor
  · rintro ⟨h, -⟩ c hc hname
    exact h (List.mem_map.mpr ⟨c, hc, hname⟩)
  · intro h
    have hnot : name ∉ (named fields).map (·.1) := by
      rintro hmem
      obtain ⟨c, hc, hname⟩ := List.mem_map.mp hmem
      exact h c hc hname
    exact ⟨hnot, fun hmem ↦ hnot (hnamed hmem)⟩

theorem failures_ofFields (selector : String) (whitelist : Bool) (e : Element) :
    (ofFields limits fields selector whitelist).failures e = complaints fields whitelist e := by
  rw [failures, complaints]
  congr 1
  · exact filterMap_requirements limits fields selector whitelist e
  · simp only [isExpected_ofFields]
    rfl

end Keys

/-! ## The matches -/

private theorem stands_judge {r : AttributeRule} {found : List Element}
    (hnodup : (found.map (·.index)).Nodup) {f : Finding} (hf : f ∈ (r.judge found).disallowed) :
    Outcome.stands (Outcome.allowedIndexes [r.judge found]) f = true := by
  obtain ⟨e, he, hf⟩ := List.mem_flatMap.mp hf
  obtain ⟨message, hmessage, rfl⟩ := List.mem_map.mp hf
  -- an allowed match of the same number would be this one, which has a failure
  have hnot : e.index ∉ Outcome.allowedIndexes [r.judge found] := by
    simp only [Outcome.allowedIndexes, judge, List.flatMap_cons, List.flatMap_nil, List.append_nil,
      List.filterMap_map, List.mem_filterMap, Function.comp_apply, Option.map_some, Option.some_inj,
      List.mem_filter]
    rintro ⟨e', ⟨he', hempty⟩, hindex⟩
    obtain rfl := List.inj_on_of_nodup_map hnodup he' he hindex
    rw [List.isEmpty_iff.mp hempty] at hmessage
    cases hmessage
  rw [Outcome.stands]
  simpa using hnot

/-- **The resolution.** It takes nothing from the outcome of elements of different numbers. -/
theorem standing_judge {r : AttributeRule} {found : List Element}
    (hnodup : (found.map (·.index)).Nodup) :
    Outcome.standing [r.judge found] = (r.judge found).disallowed := by
  rw [Outcome.standing, List.flatMap_singleton]
  exact List.filter_eq_self.mpr fun f hf ↦ stands_judge hnodup hf

/-! ## The whole rule -/

private theorem findings_reports_judge {d : Document} {selector : String} {found : List Element}
    (hfind : d.find selector = .ok found) (r : AttributeRule) (view : View) :
    Action.findings view (Outcome.reports [r.judge found])
      = (d.matched selector).flatMap fun e ↦ (r.failures e).map fun message ↦
        ⟨.error, .text message, view.name, some e⟩ := by
  have hnodup : (found.map (·.index)).Nodup :=
    (Document.nodup_map_index_elements d).sublist ((Document.sublist_of_find hfind).map _)
  rw [Outcome.findings_reports, standing_judge hnodup, ← Document.eq_matched_of_find hfind, judge,
    List.map_flatMap]
  refine List.flatMap_congr fun e _ ↦ ?_
  rw [List.map_map]
  rfl

private theorem findings_conduct {limits : Limits} {fields : List (String × Value)}
    (hwritten : ∀ c ∈ named fields, unwritten? limits c.2 = none) (d : Document) (selector : String)
    (whitelist : Bool) (view : View) :
    Action.findings view ((ofFields limits fields selector whitelist).conduct d).actions
      = refusals fields view ++ errors fields d selector whitelist view := by
  have hselector : (ofFields limits fields selector whitelist).selector = selector := rfl
  rw [conduct, Action.findings_append, Action.findings_cons, Action.findings_map_exception,
    faults_ofFields limits fields hwritten, List.map_map]
  refine congrArg (refusals fields view ++ ·) ?_
  rw [outcome, errors, hselector]
  cases hfind : d.find selector with
  | error f => rfl
  | ok found =>
    simp only [← failures_ofFields limits fields selector whitelist]
    exact findings_reports_judge hfind (ofFields limits fields selector whitelist) view

/-- **The attribute rule.** A configuration with a setting of the wrong type is rejected, be it with
what keeps the setting from being written. Otherwise there is a rule, unless the value of a key asks
for nothing and cannot be written. On an open report, the rule adds exactly one exception for each
key that cannot be read, and then either the exception of a rejected selector or the errors of the
elements that match it. It never fails. -/
theorem diagnostics_of_settings (limits : Limits) (d : Document) (fields : List (String × Value))
    (view : View) {r : Report} (hr : r.isClosed = false) :
    match settings fields with
    | .error f => f.kind = .configuration
      ∧ Rule.generate limits "attr" (.object fields)
        = .error ((unsettled? limits fields).getD f)
    | .ok (selector, whitelist) =>
      ComesTo (fun rule ↦ (rule.conduct d).failure = none
          ∧ ((rule.conduct d).perform view r).diagnostics.toList
            = r.diagnostics.toList ++ refusals fields view
              ++ errors fields d selector whitelist view)
        (Rule.generate limits "attr" (.object fields))
        ((named fields).findSome? fun c ↦ unwritten? limits c.2) := by
  have hgenerate : Rule.generate limits "attr" (.object fields)
      = (ofConfig limits (.object fields)).map .attributes := rfl
  rw [hgenerate]
  cases hsettings : settings fields with
  | error f =>
    refine ⟨kind_of_settings_eq_error fields hsettings, ?_⟩
    rw [ofConfig_of_settings_eq_error limits fields hsettings]
    rfl
  | ok s =>
    obtain ⟨selector, whitelist⟩ := s
    have hcomes := comesTo_ofConfig limits fields hsettings
    cases htold : (named fields).findSome? fun c ↦ unwritten? limits c.2 with
    | some f =>
      rw [hcomes.eq_error htold]
      exact .failed f
    | none =>
      obtain ⟨rule, hrule, rfl⟩ := hcomes.exists_eq_ok htold
      have hwritten : ∀ c ∈ named fields, unwritten? limits c.2 = none :=
        List.findSome?_eq_none_iff.mp htold
      have hclose : .close ∉ ((ofFields limits fields selector whitelist).conduct d).actions :=
        fun h ↦ isRemark_of_mem_conduct h
      rw [hrule]
      refine .done _ ⟨rfl, ?_⟩
      rw [List.append_assoc, ← findings_conduct hwritten d selector whitelist view]
      exact Action.diagnostics_foldl_perform hclose view hr

/-- Two shapes, of which the first has one attribute more. -/
private def shapes : Document where
  tree := ⟨[.element ⟨"svg", none, []⟩ [
    .element ⟨"rect", none, [⟨"id", none, "id", "a"⟩, ⟨"fill", none, "fill", "red"⟩,
      ⟨"rx", none, "rx", "1"⟩]⟩ [],
    .element ⟨"rect", none, [⟨"fill", none, "fill", "blue"⟩]⟩ []]], []⟩
  name := none

/-- Every kind of key at once, under a whitelist: the key that cannot be read still counts as named,
so that the attribute `id` of the first shape is expected. -/
theorem diagnostics_of_settings_shapes :
    ({} : Report).isClosed = false
      ∧ ∃ rule, Rule.generate .standard "attr" (.object [("rule::selector", .text "rect"),
          ("id", .int 1), ("rule::whitelist", .bool true), ("fill", .text "blue"),
          ("width", .bool true), ("class", .bool false), ("rx", .list [.text "2", .text "3"])])
        = .ok rule
        ∧ (rule.conduct shapes).failure = none
        ∧ ((rule.conduct shapes).perform ⟨some "attr", ""⟩ {}).diagnostics.toList.map
            (fun f ↦ (f.severity, f.location)) = [(.exception, none),
              (.error, some "/svg[1]/rect[1]"), (.error, some "/svg[1]/rect[1]"),
              (.error, some "/svg[1]/rect[1]"), (.error, some "/svg[1]/rect[2]"),
              (.error, some "/svg[1]/rect[2]")] := by
  obtain ⟨rule, hrule, hfailure, hfound⟩ := (diagnostics_of_settings .standard shapes
    [("rule::selector", .text "rect"), ("id", .int 1), ("rule::whitelist", .bool true),
      ("fill", .text "blue"), ("width", .bool true), ("class", .bool false),
      ("rx", .list [.text "2", .text "3"])] ⟨some "attr", ""⟩ (r := {}) rfl).exists_eq_ok
    (by decide +kernel)
  refine ⟨rfl, rule, hrule, hfailure, ?_⟩
  rw [hfound]
  decide +kernel

/-- A selector that is a number of too many digits: it is no text, but this is not what is said. -/
theorem generate_of_long_selector :
    Rule.generate .standard "attr" (.object [("rule::selector", .int (.ofNat (Nat.pow 10 5000)))])
      = .error ⟨.value, "Exceeds the limit (4300 digits) for integer string conversion; use "
        ++ "sys.set_int_max_str_digits() to increase the limit"⟩ :=
  Attempt.eq_error_of_map_eq_error (f := fun _ ↦ ()) (by decide +kernel)

end AttributeRule

end VectorLint
