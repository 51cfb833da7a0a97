import VectorLint.Proofs.Attempt
import VectorLint.Proofs.Document.Matched
import VectorLint.Proofs.Rule.Actions
import VectorLint.Proofs.Value.Limits

/-!
# What the element rule reports

The element rule is run clause by clause and resolved at the end: each clause allows some elements
and disallows others, and the numbers of the allowed ones are taken out of all that was disallowed.
The reports can be said without any of this. A clause that cannot be read or queried, or whose
complaint cannot be written, is *refused*; a clause is *met*, *missed* or *blames* its matches by
its requirement and the number of its matches alone; and a match that is blamed is reported unless a
clause that is met matches it too. There is a rule at all unless what is no requirement cannot even
be written.

The two agree because of one fact about the loop over the clauses: an element is among the allowed
numbers exactly if some clause that is met matches it. Clauses that are refused need no care there,
since they match nothing.
-/

namespace VectorLint

namespace ElementRule

/-! ## Clauses, said by their requirement and their number of matches -/

/-- The ends of a range: two numbers in a sequence of two. -/
def range? (v : Value) : Option (Value × Value) :=
  match v.items? with
  | some [a, b] => if a.isNumber && b.isNumber then some (a, b) else none
  | _ => none

/-- Whether a value asks for something: a truth value, a whole number or a range. -/
def isRequirement : Value → Bool
  | .bool _ => true
  | .int _ => true
  | v => (range? v).isSome

/-- Whether a requirement is met by a number of matches. That nothing is forbidden is not among what
can be met: without matches there is nothing to allow. -/
def isMet (count : Nat) : Value → Bool
  | .bool b => b && count ≠ 0
  | .int n => n = count
  | v => (range? v).any fun (a, b) ↦ a.leInt count && b.geInt count

/-- Whether a requirement is missed in a way that is about no element. -/
def isMissed (count : Nat) : Value → Bool
  | .bool b => b && count = 0
  | .int n => n ≠ count && count = 0
  | v => (range? v).any fun (a, b) ↦ !(a.leInt count && b.geInt count)

/-- Whether a requirement blames each match. -/
def isBlaming (count : Nat) : Value → Bool
  | .bool b => !b
  | .int n => n ≠ count
  | _ => false

/-- How many matches a selector has, as complaints begin. -/
def counted (selector : String) (count : Nat) : String :=
  "Found " ++ toString count ++ " elements for '" ++ selector ++ "', "

/-- What is said about a requirement that is not met. -/
def complaint (selector : String) (count : Nat) : Value → String
  | .bool true => "Expected '" ++ selector ++ "', none found"
  | .bool false => "Element disallowed"
  | .int n => counted selector count ++ "expected " ++ toString n
  | v => (range? v).elim "" fun (a, b) ↦
      counted selector count ++ "expected between " ++ a.plain ++ " and " ++ b.plain

/-- The numbers that a complaint names besides that of the matches. -/
def amounts : Value → List Value
  | .bool _ => []
  | .int n => [.int n]
  | v => (range? v).elim [] fun (a, b) ↦ [a, b]

/-- What keeps the complaint about a requirement from being written, if there is one to write. -/
def unspoken? (limits : Limits) (count : Nat) (v : Value) : Option Failure :=
  if isMet count v then none else (amounts v).findSome? (Value.unspoken? limits)

/-- What is said about a clause without a requirement, whose value is written so. -/
def unknown (selector : String) (v : Value) (text : String) : String :=
  "Unknown config type '" ++ v.kindName ++ "' for '" ++ selector ++ "' (" ++ text ++ ")"

/-- The failure of a clause whose requirement cannot be read. -/
def unreadable (selector : String) (v : Value) : Failure :=
  ⟨.configuration, unknown selector v v.json⟩

/-- What keeps the failure of such a clause from being written, and the rule from being made. -/
def unwritten? (limits : Limits) (v : Value) : Option Failure :=
  if isRequirement v then none else v.obstacle? limits .json limits.depth

/-! ## The reports -/

section Reports

variable (limits : Limits) (d : Document) (fields : List (String × Value))

/-- The failure of a clause that cannot be read, whose selector is rejected, or whose complaint
cannot be written. -/
def refusal? (selector : String) (v : Value) : Option Failure :=
  if isRequirement v then
    match d.find selector with
    | .ok found => unspoken? limits found.length v
    | .error f => some f
  else some (unreadable selector v)

/-- The clauses that are not refused. -/
def admitted : List (String × Value) :=
  fields.filter fun (selector, v) ↦ (refusal? limits d selector v).isNone

/-- Whether some clause that is met matches an element. -/
def isAllowed (e : Element) : Bool :=
  fields.any fun (selector, v) ↦ isMet (d.matched selector).length v && d.isMatch selector e

/-- The errors of a clause that is not refused, as what they are about and what they say: one about
no element if it is missed, and one about each match that it blames and that is not allowed. -/
def faults (selector : String) (v : Value) : List (Option Element × String) :=
  let count := (d.matched selector).length
  let message := complaint selector count v
  (if isMissed count v then [(none, message)] else [])
    ++ if isBlaming count v then
        ((d.matched selector).filter fun e ↦ !isAllowed d fields e).map fun e ↦ (some e, message)
      else []

/-- The exceptions of the clauses that are refused, in the order of the clauses. -/
def refusals (v : View) : List Diagnostic :=
  fields.filterMap fun (selector, value) ↦ (refusal? limits d selector value).map fun f ↦
    ⟨.exception, .text f.message, v.name, none⟩

/-- The errors of the clauses that are not refused, in the order of the clauses. -/
def errors (v : View) : List Diagnostic :=
  (admitted limits d fields).flatMap fun (selector, value) ↦
    (faults d fields selector value).map fun (element, message) ↦
      ⟨.error, .text message, v.name, element⟩

end Reports

/-! ## One clause -/

theorem range?_eq_some {v a b : Value} (h : range? v = some (a, b)) :
    (v = .list [a, b] ∨ v = .tuple [a, b]) ∧ a.isNumber = true ∧ b.isNumber = true := by
  unfold range? at h
  split at h
  · rename_i x y hitems
    split at h
    · rename_i hnumber
      cases h
      rw [Bool.and_eq_true] at hnumber
      refine ⟨?_, hnumber⟩
      cases v <;> simp_all [Value.items?]
    · cases h
  · cases h

theorem ofValue_of_items {v : Value} {items : List Value} (h : v.items? = some items)
    (limits : Limits) (selector : String) :
    (isRequirement v = false
        ∧ Requirement.ofValue limits selector v = v.refused limits .json (unknown selector v))
      ∨ isRequirement v = true ∧ ∃ a b, range? v = some (a, b)
        ∧ Requirement.ofValue limits selector v = .ok (.between a b) := by
  cases v with
  | list xs | tuple xs =>
    match xs with
    | [] | [_] | _ :: _ :: _ :: _ =>
      exact .inl ⟨rfl, rfl⟩
    | [a, b] =>
      cases hn : a.isNumber && b.isNumber with
      | true =>
        refine .inr ⟨?_, a, b, ?_, ?_⟩
        all_goals simp [isRequirement, range?, Requirement.ofValue, Value.items?, hn]
      | false =>
        left
        simp only [isRequirement, range?, Requirement.ofValue, Value.items?, hn]
        exact ⟨rfl, rfl⟩
  | _ => cases h

/-- A requirement is read exactly if the value has one of the shapes. -/
theorem ofValue_eq (limits : Limits) (selector : String) (v : Value) :
    (isRequirement v = false
        ∧ Requirement.ofValue limits selector v = v.refused limits .json (unknown selector v))
      ∨ isRequirement v = true
        ∧ ((v = .bool true ∧ Requirement.ofValue limits selector v = .ok .required)
          ∨ (v = .bool false ∧ Requirement.ofValue limits selector v = .ok .forbidden)
          ∨ (∃ n, v = .int n ∧ Requirement.ofValue limits selector v = .ok (.exactly n))
          ∨ ∃ a b, range? v = some (a, b)
            ∧ Requirement.ofValue limits selector v = .ok (.between a b)) := by
  cases v with
  | bool b => cases b <;> simp [isRequirement, Requirement.ofValue]
  | int n => simp [isRequirement, Requirement.ofValue]
  | list items | tuple items =>
    refine (ofValue_of_items rfl limits selector).imp_right fun ⟨hr, a, b, h⟩ ↦ ?_
    exact ⟨hr, .inr (.inr (.inr ⟨a, b, h⟩))⟩
  | _ => exact .inl ⟨rfl, rfl⟩

theorem comesTo_kept_ofValue (limits : Limits) (selector : String) (v : Value) :
    ComesTo (· = Requirement.ofValue limits selector v)
      (Failure.kept (Requirement.ofValue limits selector v)) (unwritten? limits v) := by
  rw [unwritten?]
  rcases ofValue_eq limits selector v with ⟨hr, hq⟩ | ⟨hr, hshapes⟩
  · rw [hr, hq]
    exact Value.comesTo_kept_refused v (unknown selector v)
  · obtain ⟨q, hq⟩ : ∃ q, Requirement.ofValue limits selector v = .ok q := by
      rcases hshapes with ⟨-, h⟩ | ⟨-, h⟩ | ⟨n, -, h⟩ | ⟨a, b, -, h⟩ <;> exact ⟨_, h⟩
    rw [hr, hq]
    exact .done _ rfl

theorem kind_ne_of_unwritten? {limits : Limits} {v : Value} {f : Failure}
    (h : unwritten? limits v = some f) : f.kind ≠ .configuration := by
  rw [unwritten?] at h
  exact Value.kind_ne_of_ite h

/-- What a clause allows and disallows, said by the number of its matches. -/
def verdict (selector : String) (v : Value) (found : List Element) : Outcome :=
  let message := complaint selector found.length v
  ⟨if isMet found.length v then found.map fun e ↦ ⟨some e, ""⟩ else [],
    (if isMissed found.length v then [⟨none, message⟩] else [])
      ++ if isBlaming found.length v then found.map fun e ↦ ⟨some e, message⟩ else []⟩

theorem comesTo_judge_exactly (limits : Limits) (selector : String) (n : ℤ)
    (found : List Element) :
    ComesTo (· = verdict selector (.int n) found)
      ((Requirement.exactly n).judge limits selector found)
      (unspoken? limits found.length (.int n)) := by
  rw [unspoken?, Requirement.judge]
  by_cases hn : found.length = n
  · rw [if_pos hn, if_pos (by simp [isMet, hn])]
    refine .done _ ?_
    simp [Requirement.judge.all, verdict, isMet, isMissed, isBlaming, hn]
  · have hne : n ≠ found.length := Ne.symm hn
    have htold : (amounts (.int n)).findSome? (Value.unspoken? limits)
        = ((Value.int n).unspoken? limits).or none := by
      simp [amounts]
    rw [if_neg hn, if_neg (by simp [isMet, hne]), htold]
    refine (Value.comesTo_spoken (.int n)).bind fun text htext ↦ ?_
    subst htext
    refine .done _ ?_
    cases found <;> simp_all [Requirement.judge.all, Requirement.judge.found, verdict, isMet,
      isMissed, isBlaming, complaint, counted, Value.plain, Value.shown]

theorem comesTo_judge_between {v a b : Value} (hr : range? v = some (a, b)) (limits : Limits)
    (selector : String) (found : List Element) :
    ComesTo (· = verdict selector v found) ((Requirement.between a b).judge limits selector found)
      (unspoken? limits found.length v) := by
  obtain ⟨hmet, hmissed, hblaming, hamounts, hcomplaint⟩ :
      isMet found.length v = (a.leInt found.length && b.geInt found.length)
        ∧ isMissed found.length v = !(a.leInt found.length && b.geInt found.length)
        ∧ isBlaming found.length v = false
        ∧ amounts v = [a, b]
        ∧ complaint selector found.length v
          = counted selector found.length ++ "expected between " ++ a.plain ++ " and "
            ++ b.plain := by
    rcases (range?_eq_some hr).1 with rfl | rfl <;>
      simp [isMet, isMissed, isBlaming, amounts, complaint, hr]
  have htold : [a, b].findSome? (Value.unspoken? limits)
      = (a.unspoken? limits).or ((b.unspoken? limits).or none) := by
    rw [List.findSome?_cons, List.findSome?_cons]
    cases a.unspoken? limits <;> cases b.unspoken? limits <;> rfl
  rw [unspoken?, verdict, hmet, hmissed, hblaming, hamounts, hcomplaint, Requirement.judge]
  cases a.leInt found.length && b.geInt found.length with
  | true => exact .done _ rfl
  | false =>
    rw [if_neg Bool.false_ne_true, if_neg Bool.false_ne_true, htold]
    refine (Value.comesTo_spoken a).bind fun minimum hminimum ↦ ?_
    refine (Value.comesTo_spoken b).bind fun maximum hmaximum ↦ ?_
    subst hminimum hmaximum
    exact .done _ rfl

theorem comesTo_judge {limits : Limits} {selector : String} {v : Value} {q : Requirement}
    (h : Requirement.ofValue limits selector v = .ok q) (found : List Element) :
    ComesTo (· = verdict selector v found) (q.judge limits selector found)
      (unspoken? limits found.length v) := by
  rcases ofValue_eq limits selector v with ⟨-, hq⟩ | ⟨-, ⟨rfl, hq⟩ | ⟨rfl, hq⟩ | ⟨n, rfl, hq⟩ |
    ⟨a, b, hr, hq⟩⟩
  · rw [hq, Value.refused_eq] at h
    cases h
  · cases hq.symm.trans h
    rw [unspoken?, amounts, List.findSome?_nil, ite_self, Requirement.judge]
    refine .done _ ?_
    cases found <;> simp [Requirement.judge.all, verdict, isMet, isMissed, isBlaming, complaint]
  · cases hq.symm.trans h
    rw [unspoken?, amounts, List.findSome?_nil, ite_self, Requirement.judge]
    refine .done _ ?_
    simp [Requirement.judge.all, verdict, isMet, isMissed, isBlaming, complaint]
  · cases hq.symm.trans h
    exact comesTo_judge_exactly limits selector n found
  · cases hq.symm.trans h
    exact comesTo_judge_between hr limits selector found

/-- **A clause.** If it is refused, its one finding is the refusal, and it has no say in the rest;
otherwise it finds nothing by itself, and its say is the verdict. -/
theorem clause_ofValue {limits : Limits} {v : Value} (hv : unwritten? limits v = none)
    (d : Document) (selector : String) (view : View) :
    (∃ f, refusal? limits d selector v = some f
        ∧ Action.findings view (clause limits d selector (Requirement.ofValue limits selector v)).1
          = [⟨.exception, .text f.message, view.name, none⟩]
        ∧ (clause limits d selector (Requirement.ofValue limits selector v)).2 = none)
      ∨ refusal? limits d selector v = none
        ∧ Action.findings view (clause limits d selector (Requirement.ofValue limits selector v)).1
          = []
        ∧ (clause limits d selector (Requirement.ofValue limits selector v)).2
          = some (verdict selector v (d.matched selector)) := by
  cases hq : Requirement.ofValue limits selector v with
  | error f =>
    rcases ofValue_eq limits selector v with ⟨hr, hq'⟩ | ⟨-, hshapes⟩
    · have hobstacle : v.obstacle? limits .json limits.depth = none := by
        rwa [unwritten?, hr] at hv
      rw [Value.refused_eq, hobstacle] at hq'
      cases hq'.symm.trans hq
      exact .inl ⟨_, by rw [refusal?, hr]; rfl, rfl, rfl⟩
    · rcases hshapes with ⟨-, hq'⟩ | ⟨-, hq'⟩ | ⟨n, -, hq'⟩ | ⟨a, b, -, hq'⟩
      all_goals cases hq'.symm.trans hq
  | ok q =>
    have hr : isRequirement v = true := by
      rcases ofValue_eq limits selector v with ⟨-, hq'⟩ | ⟨hr, -⟩
      · rw [hq, Value.refused_eq] at hq'
        cases hq'
      · exact hr
    cases hf : d.find selector with
    | error f =>
      refine .inl ⟨f, by rw [refusal?, if_pos hr, hf], ?_⟩
      rw [clause, Requirement.outcome, hf]
      exact ⟨rfl, rfl⟩
    | ok found =>
      have hjudge := comesTo_judge hq found
      have hrefusal : refusal? limits d selector v = unspoken? limits found.length v := by
        rw [refusal?, if_pos hr, hf]
      have houtcome : q.outcome limits selector d = q.judge limits selector found := by
        rw [Requirement.outcome, hf]
        rfl
      rw [hrefusal, clause, houtcome, ← Document.eq_matched_of_find hf]
      generalize q.judge limits selector found = o, unspoken? limits found.length v = told at hjudge
      cases hjudge with
      | failed f => exact .inl ⟨f, rfl, rfl, rfl⟩
      | done o ho => exact .inr ⟨rfl, rfl, congrArg some ho⟩

theorem isRequirement_of_isMet {count : Nat} (h : isMet count v = true) :
    isRequirement v = true := by
  unfold isMet at h
  split at h
  · rfl
  · rfl
  · obtain ⟨ends, hends, -⟩ := (Option.any_eq_true _ _).mp h
    unfold isRequirement
    split
    · rfl
    · rfl
    · rw [hends]
      rfl

/-! ## All clauses -/

section Clauses

variable (limits : Limits) (d : Document) (fields : List (String × Value))

/-- The clauses of a configuration, each with what it does at once and its outcome. -/
private def clausesOf : List (List Action × Option Outcome) :=
  fields.map fun c ↦ clause limits d c.1 (Requirement.ofValue limits c.1 c.2)

private def verdicts : List Outcome :=
  (admitted limits d fields).map fun c ↦ verdict c.1 c.2 (d.matched c.1)

variable {limits fields} in
private theorem findings_clausesOf (hwritten : ∀ c ∈ fields, unwritten? limits c.2 = none)
    (view : View) : Action.findings view ((clausesOf limits d fields).flatMap (·.1))
      = refusals limits d fields view := by
  induction fields with
  | nil => rfl
  | cons c fields ih =>
    obtain ⟨hc, hfields⟩ := List.forall_mem_cons.mp hwritten
    rw [clausesOf, List.map_cons, List.flatMap_cons, Action.findings_append, ← clausesOf,
      ih hfields]
    rcases clause_ofValue hc d c.1 view with ⟨f, hr, hf, -⟩ | ⟨hr, hf, -⟩
    · rw [hf]
      simp [refusals, hr]
    · rw [hf]
      simp [refusals, hr]

variable {limits fields} in
private theorem filterMap_clausesOf (hwritten : ∀ c ∈ fields, unwritten? limits c.2 = none) :
    (clausesOf limits d fields).filterMap (·.2) = verdicts limits d fields := by
  induction fields with
  | nil => rfl
  | cons c fields ih =>
    obtain ⟨hc, hfields⟩ := List.forall_mem_cons.mp hwritten
    rw [clausesOf, List.map_cons, List.filterMap_cons, ← clausesOf, ih hfields]
    rcases clause_ofValue hc d c.1 ⟨none, ""⟩ with ⟨f, hr, -, ho⟩ | ⟨hr, -, ho⟩
    · rw [ho]
      simp [verdicts, admitted, hr]
    · rw [ho]
      simp [verdicts, admitted, hr]

private theorem mem_admitted_of_isMet {selector : String} {v : Value} {e : Element}
    (hc : (selector, v) ∈ fields) (hmet : isMet (d.matched selector).length v = true)
    (he : e ∈ d.matched selector) : (selector, v) ∈ admitted limits d fields := by
  refine List.mem_filter.mpr ⟨hc, ?_⟩
  cases hf : d.find selector with
  | ok found =>
    rw [← Document.eq_matched_of_find hf] at hmet
    simp [refusal?, hf, isRequirement_of_isMet hmet, unspoken?, hmet]
  | error f =>
    rw [Document.matched_of_find_error hf] at he
    cases he

private theorem mem_allowedIndexes {index : Nat} :
    index ∈ Outcome.allowedIndexes (verdicts limits d fields)
      ↔ ∃ c ∈ admitted limits d fields, isMet (d.matched c.1).length c.2 = true
        ∧ ∃ e ∈ d.matched c.1, e.index = index := by
  simp only [Outcome.allowedIndexes, verdicts, List.mem_flatMap, List.mem_map,
    exists_exists_and_eq_and, verdict]
  refine exists_congr fun c ↦ and_congr_right fun _ ↦ ?_
  cases isMet (d.matched c.1).length c.2 <;> simp

/-- **The allowed numbers.** The number of an element is among them exactly if a clause that is met
matches the element. -/
private theorem contains_allowedIndexes (e : Element) :
    (Outcome.allowedIndexes (verdicts limits d fields)).contains e.index
      = isAllowed d fields e := by
  rw [Bool.eq_iff_iff, List.contains_iff_mem, mem_allowedIndexes, isAllowed, List.any_eq_true]
  constructor
  -- every clause that is met is asked, also one that is refused, but that one matches nothing
  · rintro ⟨⟨selector, v⟩, hc, hmet, he⟩
    exact ⟨(selector, v), List.mem_of_mem_filter hc,
      Bool.and_eq_true_iff.mpr ⟨hmet, Document.isMatch_iff.mpr he⟩⟩
  · rintro ⟨⟨selector, v⟩, hc, h⟩
    obtain ⟨hmet, hmatch⟩ := Bool.and_eq_true_iff.mp h
    obtain ⟨f, hf, hindex⟩ := Document.isMatch_iff.mp hmatch
    exact ⟨(selector, v), mem_admitted_of_isMet limits d fields hc hmet hf, hmet, f, hf, hindex⟩

/-- **The resolution.** What stands of a clause are its faults. -/
private theorem standing_verdicts :
    Outcome.standing (verdicts limits d fields) = (admitted limits d fields).flatMap fun c ↦
      (faults d fields c.1 c.2).map fun f ↦ ⟨f.1, f.2⟩ := by
  have hallowed := contains_allowedIndexes limits d fields
  rw [Outcome.standing]
  generalize Outcome.allowedIndexes (verdicts limits d fields) = allowed at hallowed
  rw [verdicts, List.flatMap_map, List.filter_flatMap]
  refine List.flatMap_congr fun c _ ↦ ?_
  rw [verdict, List.filter_append, faults, List.map_append]
  congr 1
  · cases isMissed (d.matched c.1).length c.2 <;> rfl
  · cases isBlaming (d.matched c.1).length c.2 with
    | false => rfl
    | true =>
      have hstands : (Outcome.stands allowed ∘ fun e ↦
          ⟨some e, complaint c.1 (d.matched c.1).length c.2⟩) = fun e ↦ !isAllowed d fields e :=
        funext fun e ↦ congrArg (! ·) (hallowed e)
      rw [if_pos rfl, if_pos rfl, List.filter_map, hstands, List.map_map]
      rfl

/-- The rule of a configuration. -/
def ofFields : ElementRule :=
  ⟨fields.map fun c ↦ (c.1, Requirement.ofValue limits c.1 c.2), limits⟩

/-- A configuration has a rule unless some failure to read a requirement cannot be written. -/
theorem comesTo_ofConfig : ComesTo (· = ofFields limits fields) (ofConfig limits (.object fields))
    (fields.findSome? fun c ↦ unwritten? limits c.2) := by
  have hclause (c : String × Value) :
      ComesTo (· = (c.1, Requirement.ofValue limits c.1 c.2))
        ((Failure.kept (Requirement.ofValue limits c.1 c.2)).map fun q ↦ (c.1, q))
        (unwritten? limits c.2) :=
    (comesTo_kept_ofValue limits c.1 c.2).map fun q hq ↦ congrArg (Prod.mk c.1) hq
  refine (comesTo_mapM_eq fun c (_ : c ∈ fields) ↦ hclause c).map fun clauses h ↦ ?_
  rw [h, ofFields]

variable {limits fields} in
/-- What the conduct of a rule finds: the refusals first, and then the errors. -/
theorem findings_conduct (hwritten : ∀ c ∈ fields, unwritten? limits c.2 = none) (view : View) :
    Action.findings view ((ofFields limits fields).conduct d).actions
      = refusals limits d fields view ++ errors limits d fields view := by
  have hclauses : ((ofFields limits fields).clauses.map fun c ↦ clause limits d c.1 c.2)
      = clausesOf limits d fields := by
    rw [ofFields, List.map_map]
    rfl
  have hlimits : (ofFields limits fields).limits = limits := rfl
  rw [conduct]
  simp only [hlimits, hclauses]
  rw [Action.findings_append, Action.findings_cons, findings_clausesOf d hwritten,
    filterMap_clausesOf d hwritten, Outcome.findings_reports, standing_verdicts, List.map_flatMap,
    errors]
  congr 1
  refine List.flatMap_congr fun c _ ↦ ?_
  rw [List.map_map]
  rfl

end Clauses

/-- The rule of a configuration never fails, leaves the report open and finds the refusals and the
errors. -/
theorem comesTo_generate (limits : Limits) (d : Document) (fields : List (String × Value))
    (view : View) :
    ComesTo (fun rule ↦ (rule.conduct d).failure = none ∧ .close ∉ (rule.conduct d).actions
        ∧ Action.findings view (rule.conduct d).actions
          = refusals limits d fields view ++ errors limits d fields view)
      (Rule.generate limits "elm" (.object fields))
      (fields.findSome? fun c ↦ unwritten? limits c.2) := by
  have hgenerate : Rule.generate limits "elm" (.object fields)
      = (ofConfig limits (.object fields)).map .elements := rfl
  have hcomes := comesTo_ofConfig limits fields
  rw [hgenerate]
  cases htold : fields.findSome? fun c ↦ unwritten? limits c.2 with
  | some f =>
    rw [hcomes.eq_error htold]
    exact .failed f
  | none =>
    obtain ⟨rule, hrule, rfl⟩ := hcomes.exists_eq_ok htold
    have hwritten : ∀ c ∈ fields, unwritten? limits c.2 = none :=
      List.findSome?_eq_none_iff.mp htold
    rw [hrule]
    exact .done _ ⟨rfl, fun h ↦ isPlain_of_mem_conduct h, findings_conduct d hwritten view⟩

/-- **The element rule.** There is a rule unless the value of a clause is no requirement and cannot
be written in the text that says so; the first such clause then tells the failure. On an open
report, the rule adds exactly one exception for each clause that is refused, and then the errors of
the other clauses. It never fails. -/
theorem diagnostics_of_generate (limits : Limits) (d : Document) (fields : List (String × Value))
    (view : View) {r : Report} (hr : r.isClosed = false) :
    ComesTo (fun rule ↦ (rule.conduct d).failure = none
        ∧ ((rule.conduct d).perform view r).diagnostics.toList
          = r.diagnostics.toList ++ refusals limits d fields view ++ errors limits d fields view)
      (Rule.generate limits "elm" (.object fields))
      (fields.findSome? fun c ↦ unwritten? limits c.2) := by
  refine (comesTo_generate limits d fields view).imp fun rule ⟨hfailure, hclose, hfound⟩ ↦ ?_
  rw [List.append_assoc, ← hfound]
  exact ⟨hfailure, Action.diagnostics_foldl_perform hclose view hr⟩

/-- A document with a title of its own and a title inside a group. -/
private def titled : Document where
  tree := ⟨[.element ⟨"svg", none, []⟩ [.element ⟨"title", none, []⟩ [],
    .element ⟨"g", none, []⟩ [.element ⟨"title", none, []⟩ []]]], []⟩
  name := none

/-- Every kind of clause at once: the title of the document is allowed by a later clause, the one in
the group is not. -/
theorem diagnostics_of_generate_titled :
    ({} : Report).isClosed = false
      ∧ ∃ rule, Rule.generate .standard "elm" (.object [("title", .bool false), ("g", .text "one"),
          ("rect", .int 0), ("svg[", .bool true), ("svg > title", .bool true),
          ("*", .list [.int 5, .int 6])]) = .ok rule
        ∧ ((rule.conduct titled).perform ⟨some "elm", ""⟩ {}).diagnostics.toList.map
            (fun f ↦ (f.severity, f.location)) = [(.exception, none), (.exception, none),
              (.error, some "/svg[1]/g[1]/title[1]"), (.error, none)] := by
  obtain ⟨rule, hrule, -, hfound⟩ := (diagnostics_of_generate .standard titled
    [("title", .bool false), ("g", .text "one"), ("rect", .int 0), ("svg[", .bool true),
      ("svg > title", .bool true), ("*", .list [.int 5, .int 6])] ⟨some "elm", ""⟩
      (r := {}) rfl).exists_eq_ok (by decide +kernel)
  refine ⟨rfl, rule, hrule, ?_⟩
  rw [hfound]
  decide +kernel

/-- A count of too many digits, where there is nothing to count: what is reported is not that the
count is wrong, but that it cannot be written. -/
theorem refused_of_long_count :
    let d : Document := ⟨⟨[.element ⟨"svg", none, []⟩ []], []⟩, none⟩
    ∃ rule, Rule.generate .standard "elm" (.object [("g", .int (.ofNat (Nat.pow 10 5000)))])
        = .ok rule
      ∧ ((rule.conduct d).perform ⟨some "elm", ""⟩ {}).diagnostics.toList.map
          (fun f ↦ (f.severity, f.message.plain)) = [(.exception, "ValueError: Exceeds the limit "
            ++ "(4300 digits) for integer string conversion; use sys.set_int_max_str_digits() to "
            ++ "increase the limit")]
      ∧ (d.find "g").toOption.map List.length = some 0 :=
  ⟨_, rfl, by decide +kernel, by decide +kernel⟩

end ElementRule

end VectorLint
