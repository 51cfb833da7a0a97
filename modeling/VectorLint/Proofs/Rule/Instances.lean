import VectorLint.Proofs.Document.Paths
import VectorLint.Proofs.Rule.Attributes
import VectorLint.Proofs.Rule.Elements
import VectorLint.Proofs.Run.Concatenation

/-!
# Instances of configured rules

Rules are built before anything runs, and a mistake in their configuration does not keep them from
being built: it is kept for the run, where it is the one finding of the instance that it belongs to.
Only a failure to configure is kept in this way, and any other ends the building. There is one other
failure: what a kind of rule refuses is written in the text of the refusal, and a value of too many
digits or of too many levels cannot be. So it is said for each kind which values it writes, and that
it refuses no value with any other failure than to configure it or to write it.

The names of instances tell the configurations apart, if no rule has a bracket in its name: an item
of a list gives an instance with the name of a step of a path, and a step can be told from its text.
-/

namespace VectorLint

/-! ## What configurations are refused with -/

/-- What keeps the refusal of a configuration of attributes from being written: the first setting of
the wrong type, or else the keys whose values ask for nothing. -/
def AttributeRule.rejection? (limits : Limits) (fields : List (String × Value)) : Option Failure :=
  match settings fields with
  | .error _ => unsettled? limits fields
  | .ok _ => (named fields).findSome? fun c ↦ unwritten? limits c.2

/-- What keeps the refusal of a fixed message from being written: a method that is not known. -/
def Notice.rejection? (limits : Limits) (fields : List (String × Value)) : Option Failure :=
  match (Fields.get? fields "method").getD .null with
  | .null => none
  | method =>
    match method.text?.bind fun name ↦ methods.lookup name with
    | some _ => none
    | none => method.obstacle? limits .shown limits.depth

/-- What keeps the refusal of a configuration from being written. -/
def Rule.Kind.unwritten? (limits : Limits) (config : Value) : Kind → Option Failure
  | .attributes => config.fields?.bind (AttributeRule.rejection? limits)
  | .elements => config.fields?.bind fun fields ↦
      fields.findSome? fun c ↦ ElementRule.unwritten? limits c.2
  | .notice => config.fields?.bind (Notice.rejection? limits)
  | .custom => none

section Refusal

variable {limits : Limits}

theorem AttributeRule.kind_ne_of_rejection? {fields : List (String × Value)} {f : Failure}
    (h : rejection? limits fields = some f) : f.kind ≠ .configuration := by
  rw [rejection?] at h
  cases hsettings : settings fields with
  | error g =>
    rw [hsettings] at h
    exact kind_ne_of_unsettled? limits fields h
  | ok s =>
    rw [hsettings] at h
    obtain ⟨c, -, hc⟩ := List.exists_of_findSome?_eq_some h
    exact kind_ne_of_unwritten? limits hc

theorem AttributeRule.comesTo_kept_ofConfig (fields : List (String × Value)) :
    ComesTo (· = ofConfig limits (.object fields))
      (Failure.kept (ofConfig limits (.object fields))) (rejection? limits fields) := by
  have hkind : ∀ g, rejection? limits fields = some g → g.kind ≠ .configuration :=
    fun g ↦ kind_ne_of_rejection?
  rw [rejection?] at hkind ⊢
  cases hsettings : settings fields with
  | error f =>
    rw [hsettings] at hkind
    rw [ofConfig_of_settings_eq_error limits fields hsettings]
    exact Failure.comesTo_kept_error (kind_of_settings_eq_error fields hsettings) hkind
  | ok s =>
    rw [hsettings] at hkind
    exact Failure.comesTo_kept (comesTo_ofConfig limits fields hsettings) hkind

theorem ElementRule.comesTo_kept_ofConfig (fields : List (String × Value)) :
    ComesTo (· = ofConfig limits (.object fields))
      (Failure.kept (ofConfig limits (.object fields)))
      (fields.findSome? fun c ↦ unwritten? limits c.2) := by
  refine Failure.comesTo_kept (comesTo_ofConfig limits fields) fun g hg ↦ ?_
  obtain ⟨c, -, hc⟩ := List.exists_of_findSome?_eq_some hg
  exact kind_ne_of_unwritten? hc

theorem Notice.comesTo_kept_ofConfig (fields : List (String × Value)) :
    ComesTo (· = ofConfig limits (.object fields))
      (Failure.kept (ofConfig limits (.object fields))) (rejection? limits fields) := by
  rw [ofConfig, rejection?]
  simp only [Value.fields?]
  generalize (Fields.get? fields "method").getD .null = method
  cases method with
  | null => exact .done _ rfl
  | text name =>
    simp only [Value.text?, Option.bind_some]
    cases methods.lookup name with
    | none => exact Value.comesTo_kept_refused (.text name) _
    | some severity => exact .done _ rfl
  | _ => exact Value.comesTo_kept_refused _ _

namespace Rule

/-- **Refusal.** What is configured is refused with a failure to configure, whatever it is, unless
the refusal cannot be written. -/
theorem Kind.comesTo_kept_generate (kind : Kind) (limits : Limits) (config : Value) :
    ComesTo (· = kind.generate limits config) (Failure.kept (kind.generate limits config))
      (kind.unwritten? limits config) := by
  cases kind with
  | attributes =>
    cases config with
    | object fields => exact Failure.comesTo_kept_map _ (AttributeRule.comesTo_kept_ofConfig fields)
    | _ => exact .done _ rfl
  | elements =>
    cases config with
    | object fields => exact Failure.comesTo_kept_map _ (ElementRule.comesTo_kept_ofConfig fields)
    | _ => exact .done _ rfl
  | notice =>
    cases config with
    | object fields => exact Failure.comesTo_kept_map _ (Notice.comesTo_kept_ofConfig fields)
    | _ => exact .done _ rfl
  | custom => cases config <;> exact .done _ rfl

end Rule

end Refusal

namespace Rule

/-! ## Runs of what was not configured -/

/-- The finding of an instance that could not be configured. -/
def Instance.refusal (i : Instance) (text : String) : Diagnostic :=
  ⟨.exception, .text ("ConfigurationError: " ++ text), some i.name, none⟩

/-- That an instance finds that it could not be configured, and nothing else: on any document, alone
or between other instances. -/
structure Instance.Refuses (i : Instance) (text : String) : Prop where
  alone : ∀ (d : Document) (logger : String), (Run.finished d logger [i]).isDone = true
    ∧ (Run.finished d logger [i]).diagnostics = [i.refusal text]
  among : ∀ (d : Document) (logger : String) (before after : List Instance),
    (∀ j ∈ before ++ after, j.rule.IsSynchronous ∧ j.rule.KeepsOpen) →
      (Run.finished d logger (before ++ i :: after)).diagnostics
        = (Run.finished d logger before).diagnostics
          ++ i.refusal text :: (Run.finished d logger after).diagnostics

theorem Instance.refuses_of_conduct {i : Instance} {f : Failure} (hf : f.kind = .configuration)
    (hsync : i.rule.IsSynchronous) (hopen : i.rule.KeepsOpen)
    (h : ∀ d, i.rule.conduct d = .failing f) : i.Refuses f.text := by
  have hmessage : f.message = "ConfigurationError: " ++ f.text := by
    rw [Failure.message, Failure.shown, hf]
    rfl
  have hfound (v : View) (d : Document) : Run.findingsOf v d i = [i.refusal f.text] := by
    rw [Run.findingsOf, Run.actionsOf, h d, Instance.refusal, ← hmessage]
    rfl
  have hall (d : Document) (logger : String) {instances : List Instance}
      (hinstances : ∀ j ∈ instances, j.rule.IsSynchronous ∧ j.rule.KeepsOpen) :=
    Run.finished_of_synchronous d logger (fun j hj ↦ (hinstances j hj).1)
      fun j hj ↦ (hinstances j hj).2
  constructor
  · intro d logger
    have hi : ∀ j ∈ [i], j.rule.IsSynchronous ∧ j.rule.KeepsOpen := by
      rintro j hj
      rw [List.mem_singleton.mp hj]
      exact ⟨hsync, hopen⟩
    obtain ⟨-, hdone, hdiagnostics, -⟩ := hall d logger hi
    rw [List.flatMap_singleton, hfound] at hdiagnostics
    exact ⟨hdone, hdiagnostics⟩
  · intro d logger before after hothers
    rw [List.forall_mem_append] at hothers
    have hinstances : ∀ j ∈ before ++ i :: after, j.rule.IsSynchronous ∧ j.rule.KeepsOpen :=
      List.forall_mem_append.mpr
        ⟨hothers.1, List.forall_mem_cons.mpr ⟨⟨hsync, hopen⟩, hothers.2⟩⟩
    obtain ⟨-, -, hbefore, -⟩ := hall d logger hothers.1
    obtain ⟨-, -, hafter, -⟩ := hall d logger hothers.2
    obtain ⟨-, -, hdiagnostics, -⟩ := hall d logger hinstances
    rw [hdiagnostics, hbefore, hafter, List.flatMap_append, List.flatMap_cons, hfound,
      List.singleton_append]

/-- That an instance is what its configuration asks for: it has the name of the occurrence; it is
what its kind of rule makes of the configuration; and if there is no such kind, or it refuses the
configuration, then the instance finds that and nothing else. -/
structure Instance.Realizes (limits : Limits) (o : Occurrence) (i : Instance) : Prop where
  name : i.name = o.name
  generated : ∀ rule, Rule.generate limits o.rule o.config = .ok rule → i.rule = rule
  unknown : Kind.ofName? o.rule = none → i.Refuses ("Unknown rule '" ++ o.rule ++ "'")
  rejected : ∀ kind f, Kind.ofName? o.rule = some kind → kind.generate limits o.config = .error f →
    f.kind = .configuration ∧ i.Refuses f.text

/-- What keeps the refusal of a configuration from being written, if its kind of rule is known. -/
def Occurrence.unwritten? (limits : Limits) (o : Occurrence) : Option Failure :=
  (Kind.ofName? o.rule).bind (Kind.unwritten? limits o.config)

theorem Occurrence.realizes_unknown {limits : Limits} {o : Occurrence}
    (hkind : Kind.ofName? o.rule = none) :
    Instance.Realizes limits o ⟨o.name, .unknown o.rule⟩ := by
  constructor
  · rfl
  · intro rule h
    rw [Rule.generate, hkind] at h
    cases h
  · intro _
    exact Instance.refuses_of_conduct (f := ⟨.configuration, "Unknown rule '" ++ o.rule ++ "'"⟩) rfl
      trivial trivial fun d ↦ rfl
  · intro kind f hkind' _
    cases hkind.symm.trans hkind'

theorem Occurrence.realizes_generated {limits : Limits} {o : Occurrence} {kind : Kind} {rule : Rule}
    (hkind : Kind.ofName? o.rule = some kind) (h : kind.generate limits o.config = .ok rule) :
    Instance.Realizes limits o ⟨o.name, rule⟩ := by
  constructor
  · rfl
  · intro rule' h'
    rw [Rule.generate, hkind] at h'
    exact Except.ok.inj (h.symm.trans h')
  · intro hnone
    cases hkind.symm.trans hnone
  · intro kind' f hkind' h'
    cases hkind.symm.trans hkind'
    cases h.symm.trans h'

theorem Occurrence.realizes_rejected {limits : Limits} {o : Occurrence} {kind : Kind} {f : Failure}
    (hkind : Kind.ofName? o.rule = some kind) (h : kind.generate limits o.config = .error f)
    (hf : f.kind = .configuration) : Instance.Realizes limits o ⟨o.name, .rejected f⟩ := by
  constructor
  · rfl
  · intro rule h'
    rw [Rule.generate, hkind] at h'
    cases h.symm.trans h'
  · intro hnone
    cases hkind.symm.trans hnone
  · intro kind' f' hkind' h'
    cases hkind.symm.trans hkind'
    cases h.symm.trans h'
    exact ⟨hf, Instance.refuses_of_conduct hf trivial trivial fun d ↦ rfl⟩

/-- The instance of a configuration is what it asks for, unless its refusal cannot be written. -/
theorem Occurrence.comesTo_build (limits : Limits) (o : Occurrence) :
    ComesTo (Instance.Realizes limits o) (o.build limits) (o.unwritten? limits) := by
  rw [build, unwritten?, Rule.ofConfig]
  cases hkind : Kind.ofName? o.rule with
  | none => exact .done _ (realizes_unknown hkind)
  | some kind =>
    have hkept := kind.comesTo_kept_generate limits o.config
    rw [Option.bind_some]
    generalize kind.unwritten? limits o.config = told at hkept ⊢
    rcases Failure.cases_of_comesTo_kept hkept with ⟨rule, hgenerate, rfl⟩ |
      ⟨f, hgenerate, hf, rfl⟩ | ⟨f, hgenerate, hf, rfl⟩
    · simp only [hgenerate]
      exact .done _ (realizes_generated hkind hgenerate)
    · simp only [hgenerate, Failure.kept_of_kind hf]
      exact .done _ (realizes_rejected hkind hgenerate hf)
    · simp only [hgenerate, Failure.kept_of_kind_ne hf]
      exact .failed f

theorem Instance.map_name_of_realizes {limits : Limits} {occurrences : List Occurrence}
    {instances : List Instance} (h : List.Forall₂ (Realizes limits) occurrences instances) :
    instances.map (·.name) = occurrences.map Occurrence.name := by
  induction h with
  | nil => rfl
  | cons hrealizes _ ih => rw [List.map_cons, List.map_cons, hrealizes.name, ih]

/-! ## Names -/

namespace Occurrence

theorem toList_name (o : Occurrence) : o.name.toList
    = o.number.elim o.rule.toList fun i ↦ Path.writeStep (o.rule, i) := by
  cases h : o.number with
  | none => simp [name, h]
  | some i => simp [name, h, Path.writeStep]

theorem eq_of_name_eq {o p : Occurrence} (ho : '[' ∉ o.rule.toList) (hp : '[' ∉ p.rule.toList)
    (h : o.name = p.name) : o.rule = p.rule ∧ o.number = p.number := by
  have hstep (rule : String) (i : Nat) : '[' ∈ Path.writeStep (rule, i) := by
    simp [Path.writeStep]
  have hname := congrArg String.toList h
  rw [toList_name, toList_name] at hname
  cases hno : o.number with
  | none =>
    cases hnp : p.number with
    | none =>
      rw [hno, hnp] at hname
      exact ⟨String.ext hname, rfl⟩
    | some j =>
      rw [hno, hnp, Option.elim_none, Option.elim_some] at hname
      exact absurd (hname ▸ hstep p.rule j) ho
  | some i =>
    cases hnp : p.number with
    | none =>
      rw [hno, hnp, Option.elim_none, Option.elim_some] at hname
      exact absurd (hname ▸ hstep o.rule i) hp
    | some j =>
      rw [hno, hnp] at hname
      have hread := congrArg Path.readStep? hname
      simp only [Option.elim_some, Path.readStep?_writeStep, Option.some.injEq,
        Prod.mk.injEq] at hread
      exact ⟨hread.1, congrArg some hread.2⟩

theorem rule_of_mem_ofEntry {rule : String} {v : Value} {o : Occurrence}
    (h : o ∈ ofEntry rule v) : o.rule = rule := by
  cases v with
  | list items =>
    obtain ⟨c, -, rfl⟩ := List.mem_map.mp h
    rfl
  | _ => rw [List.mem_singleton.mp h]

theorem pairwise_ofEntry (rule : String) (v : Value) :
    (ofEntry rule v).Pairwise fun o p ↦ o.number ≠ p.number := by
  cases v with
  | list items =>
    rw [ofEntry, List.pairwise_map]
    have hnumbers : (items.zipIdx.map Prod.snd).Nodup := by
      rw [List.zipIdx_map_snd]
      exact List.nodup_range'
    rw [List.Nodup, List.pairwise_map] at hnumbers
    exact hnumbers.imp fun hne heq ↦ hne (Option.some.inj heq)
  | _ => exact List.pairwise_singleton _ _

theorem pairwise_ofRules {rules : List (String × Value)} (h : (rules.map (·.1)).Nodup) :
    (ofRules rules).Pairwise fun o p ↦ o.rule ≠ p.rule ∨ o.number ≠ p.number := by
  rw [List.Nodup, List.pairwise_map] at h
  rw [ofRules, List.pairwise_flatMap]
  constructor
  · intro r _
    exact (pairwise_ofEntry r.1 r.2).imp Or.inr
  · refine h.imp fun hne o ho p hp ↦ Or.inl ?_
    rwa [rule_of_mem_ofEntry ho, rule_of_mem_ofEntry hp]

theorem nodup_names {rules : List (String × Value)} (h : (rules.map (·.1)).Nodup)
    (hbracket : ∀ r ∈ rules, '[' ∉ r.1.toList) : ((ofRules rules).map name).Nodup := by
  have hrule : ∀ o ∈ ofRules rules, '[' ∉ o.rule.toList := by
    intro o ho
    obtain ⟨r, hr, ho⟩ := List.mem_flatMap.mp ho
    rw [rule_of_mem_ofEntry ho]
    exact hbracket r hr
  rw [List.Nodup, List.pairwise_map]
  refine (pairwise_ofRules h).imp_of_mem fun ho hp hne hname ↦ ?_
  obtain ⟨heq, hnumber⟩ := eq_of_name_eq (hrule _ ho) (hrule _ hp) hname
  rcases hne with hne | hne
  · exact hne heq
  · exact hne hnumber

end Occurrence

/-! ## The instances of configured rules -/

/-- **Instances.** Building the instances of configured rules fails only with the first
configuration whose refusal cannot be written. Otherwise there is one instance for each
configuration, in their order, and it is what the configuration asks for; one that could not be
configured finds that, and nothing else. Their names differ, if the rules have different names
without a bracket. -/
theorem Instance.ofConfigs_realizes (limits : Limits) (rules : List (String × Value)) :
    ComesTo (fun instances ↦
        List.Forall₂ (Instance.Realizes limits) (Occurrence.ofRules rules) instances
          ∧ ((rules.map (·.1)).Nodup → (∀ r ∈ rules, '[' ∉ r.1.toList) →
            (instances.map (·.name)).Nodup))
      (Instance.ofConfigs limits rules)
      ((Occurrence.ofRules rules).findSome? (Occurrence.unwritten? limits)) := by
  refine (comesTo_mapM fun o _ ↦ o.comesTo_build limits).imp fun instances h ↦ ⟨h, ?_⟩
  intro hnodup hbracket
  rw [Instance.map_name_of_realizes h]
  exact Occurrence.nodup_names hnodup hbracket

/-- A list of which one item is refused, an empty list, a sequence that is not a list, a script, and
a rule that is not known. -/
theorem Instance.ofConfigs_realizes_mixed :
    let rules : List (String × Value) := [("attr", .list [.object [], .int 3]), ("elm", .list []),
      ("identity", .tuple []), ("custom", .script ⟨"f", false, []⟩ "<function f>"),
      ("path", .null)]
    (rules.map (·.1)).Nodup ∧ (∀ r ∈ rules, '[' ∉ r.1.toList)
      ∧ ∃ instances, Instance.ofConfigs .standard rules = .ok instances
        ∧ (instances.map (·.name)).Nodup
        ∧ instances.map (·.name) = ["attr[0]", "attr[1]", "identity", "custom", "path"]
        ∧ ∀ i, instances[1]? = some i → i.Refuses "attr config must be a mapping, got 'int'" := by
  intro rules
  have hnodup : (rules.map (·.1)).Nodup := by decide +kernel
  have hbracket : ∀ r ∈ rules, '[' ∉ r.1.toList := by decide +kernel
  obtain ⟨instances, hinstances, hrealizes, hnames⟩ :=
    (Instance.ofConfigs_realizes .standard rules).exists_eq_ok (by decide +kernel)
  refine ⟨hnodup, hbracket, instances, hinstances, hnames hnodup hbracket, ?_, fun i hi ↦ ?_⟩
  · rw [Instance.map_name_of_realizes hrealizes]
    decide +kernel
  · obtain ⟨hlt, rfl⟩ := List.getElem?_eq_some_iff.mp hi
    exact ((hrealizes.get (by decide) hlt).rejected .attributes _ rfl rfl).2

/-- A clause that asks for a list with a number of too many digits: it is refused, but no instances
are left to report it. -/
theorem Instance.ofConfigs_of_long_item :
    Instance.ofConfigs .standard
        [("elm", .object [("b", .list [.int (.ofNat (Nat.pow 10 5000))])])]
      = .error ⟨.value, "Exceeds the limit (4300 digits) for integer string conversion; use "
        ++ "sys.set_int_max_str_digits() to increase the limit"⟩ :=
  Attempt.eq_error_of_map_eq_error (f := fun _ ↦ ()) (by decide +kernel)

end Rule

end VectorLint
