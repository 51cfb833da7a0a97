import VectorLint.Proofs.Rule.Elements

/-!
# Clean verdicts of the element rule

A document is clean for an element rule if the rule reports nothing about it. What this says about
the counts is not the same for all requirements. A selector that has to match something and a count
that has to lie in a range are missed without blame on an element, so no other clause can make up
for them. A whole number is different as soon as there are matches: a wrong count blames each of
them, and blame is taken from an element that another clause allows. A wrong count of elements that
other clauses allow is therefore clean, like a forbidden selector whose matches are allowed, if only
the number that was asked for can be written.
-/

namespace VectorLint

namespace ElementRule

/-- Whether a requirement may leave a rule clean that has these clauses, when its selector finds
these elements. -/
def Holds (limits : Limits) (d : Document) (fields : List (String × Value)) (found : List Element) :
    Value → Prop
  | .bool true => found ≠ []
  | .bool false => ∀ e ∈ found, isAllowed d fields e = true
  | .int n => found.length = n
      ∨ found ≠ [] ∧ (∀ e ∈ found, isAllowed d fields e = true)
        ∧ (Value.int n).unspoken? limits = none
  | v => ∃ a b, range? v = some (a, b)
      ∧ a.leInt found.length = true ∧ b.geInt found.length = true

section Clauses

variable {limits : Limits} {d : Document} {fields : List (String × Value)} {selector : String}
  {v : Value}

theorem refusal?_eq_none_iff : refusal? limits d selector v = none
    ↔ isRequirement v = true ∧ ∃ found, d.find selector = .ok found
      ∧ unspoken? limits found.length v = none := by
  rw [refusal?]
  cases isRequirement v with
  | false => simp
  | true => cases d.find selector <;> simp

theorem faults_eq_nil_iff : faults d fields selector v = []
    ↔ isMissed (d.matched selector).length v = false
      ∧ (isBlaming (d.matched selector).length v = true →
        ∀ e ∈ d.matched selector, isAllowed d fields e = true) := by
  rw [faults, List.append_eq_nil_iff]
  refine and_congr ?_ ?_
  · cases isMissed (d.matched selector).length v <;> simp
  · cases isBlaming (d.matched selector).length v <;> simp

theorem faults_eq_nil_iff_holds (hv : isRequirement v = true) :
    (unspoken? limits (d.matched selector).length v = none ∧ faults d fields selector v = [])
      ↔ Holds limits d fields (d.matched selector) v := by
  rw [faults_eq_nil_iff]
  generalize d.matched selector = found
  have hempty : found.length = 0 ↔ found = [] := List.length_eq_zero_iff
  rcases ofValue_eq limits selector v with ⟨hr, -⟩ | ⟨-, ⟨rfl, -⟩ | ⟨rfl, -⟩ | ⟨n, rfl, -⟩ |
    ⟨a, b, hr, -⟩⟩
  · rw [hv] at hr
    cases hr
  · simp [unspoken?, amounts, isMissed, isBlaming, Holds]
  · simp [unspoken?, amounts, isMissed, isBlaming, Holds]
  -- a wrong count is missed without matches, and blames them otherwise
  · by_cases hn : (found.length : Int) = n
    · simp [unspoken?, isMet, isMissed, isBlaming, Holds, hn]
    · simp [unspoken?, isMet, amounts, isMissed, isBlaming, Holds, hn, Ne.symm hn]
      tauto
  · have hmet : isMet found.length v = (a.leInt found.length && b.geInt found.length)
        ∧ isMissed found.length v = !(a.leInt found.length && b.geInt found.length)
        ∧ isBlaming found.length v = false := by
      rcases (range?_eq_some hr).1 with rfl | rfl <;> simp [isMet, isMissed, isBlaming, hr]
    have hholds : Holds limits d fields found v
        ↔ (a.leInt found.length && b.geInt found.length) = true := by
      rcases (range?_eq_some hr).1 with rfl | rfl <;> simp [Holds, hr]
    rw [unspoken?, hmet.1, hmet.2.1, hmet.2.2, hholds]
    cases a.leInt found.length && b.geInt found.length <;> simp

theorem isRequirement_of_holds {found : List Element} (h : Holds limits d fields found v) :
    isRequirement v = true := by
  unfold Holds at h
  split at h
  · rfl
  · rfl
  · rfl
  · obtain ⟨a, b, hr, -⟩ := h
    unfold isRequirement
    split
    · rfl
    · rfl
    · rw [hr, Option.isSome_some]

theorem isClean_iff_holds :
    (refusal? limits d selector v = none ∧ faults d fields selector v = [])
      ↔ ∃ found, d.find selector = .ok found ∧ Holds limits d fields found v := by
  rw [refusal?_eq_none_iff]
  constructor
  · rintro ⟨⟨hv, found, hfind, hunspoken⟩, hfaults⟩
    rw [Document.eq_matched_of_find hfind] at hunspoken
    refine ⟨found, hfind, ?_⟩
    rw [Document.eq_matched_of_find hfind]
    exact (faults_eq_nil_iff_holds hv).mp ⟨hunspoken, hfaults⟩
  · rintro ⟨found, hfind, hholds⟩
    have hv := isRequirement_of_holds hholds
    rw [Document.eq_matched_of_find hfind] at hholds
    obtain ⟨hunspoken, hfaults⟩ := (faults_eq_nil_iff_holds hv).mpr hholds
    rw [← Document.eq_matched_of_find hfind] at hunspoken
    exact ⟨⟨hv, found, hfind, hunspoken⟩, hfaults⟩

end Clauses

section Reports

variable (limits : Limits) (d : Document) (fields : List (String × Value)) (view : View)

theorem refusals_eq_nil_iff :
    refusals limits d fields view = [] ↔ ∀ c ∈ fields, refusal? limits d c.1 c.2 = none := by
  simp only [refusals, List.filterMap_eq_nil_iff, Option.map_eq_none_iff]

theorem errors_eq_nil_iff : errors limits d fields view = []
    ↔ ∀ c ∈ admitted limits d fields, faults d fields c.1 c.2 = [] := by
  simp only [errors, List.flatMap_eq_nil_iff, List.map_eq_nil_iff]

theorem refusals_append_errors_eq_nil_iff :
    refusals limits d fields view ++ errors limits d fields view = []
      ↔ ∀ c ∈ fields, ∃ found, d.find c.1 = .ok found ∧ Holds limits d fields found c.2 := by
  rw [List.append_eq_nil_iff, refusals_eq_nil_iff, errors_eq_nil_iff]
  constructor
  · rintro ⟨hrefusals, herrors⟩ c hc
    have hnone := hrefusals c hc
    have hadmitted : c ∈ admitted limits d fields := List.mem_filter.mpr ⟨hc, by simp [hnone]⟩
    exact isClean_iff_holds.mp ⟨hnone, herrors c hadmitted⟩
  · intro h
    refine ⟨fun c hc ↦ (isClean_iff_holds.mpr (h c hc)).1, fun c hc ↦ ?_⟩
    exact (isClean_iff_holds.mpr (h c (List.mem_of_mem_filter hc))).2

end Reports

/-- **Clean verdicts.** Unless the value of a clause is no requirement and cannot be written, there
is a rule, and it adds nothing to an open report exactly if the selector of each clause finds
elements, and: it finds some if the requirement is true; it finds elements that other clauses allow,
if any, if the requirement is false; it finds as many as a whole number says, or else some, all of
which other clauses allow, while the number can be written; and it finds a number of them in the
range, if the requirement is a range. -/
theorem diagnostics_eq_iff_holds (limits : Limits) (d : Document) (fields : List (String × Value))
    (view : View) {r : Report} (hr : r.isClosed = false) :
    ComesTo (fun rule ↦ ((rule.conduct d).perform view r).diagnostics = r.diagnostics
        ↔ ∀ c ∈ fields, ∃ found, d.find c.1 = .ok found ∧ Holds limits d fields found c.2)
      (Rule.generate limits "elm" (.object fields))
      (fields.findSome? fun c ↦ unwritten? limits c.2) := by
  refine (comesTo_generate limits d fields view).imp fun rule ⟨_, hclose, hfound⟩ ↦ ?_
  have hadded : ((rule.conduct d).perform view r).diagnostics.toList
      = r.diagnostics.toList ++ Action.findings view (rule.conduct d).actions :=
    Action.diagnostics_foldl_perform hclose view hr
  rw [← refusals_append_errors_eq_nil_iff limits d fields view, ← hfound, ← Array.toList_inj,
    hadded, List.append_right_eq_self]

/-- A document with a title of its own and a title inside a group. -/
private def grouped : Document where
  tree := ⟨[.element ⟨"svg", none, []⟩ [.element ⟨"title", none, []⟩ [],
    .element ⟨"g", none, []⟩ [.element ⟨"title", none, []⟩ []]]], []⟩
  name := none

/-- Clauses of all kinds that hold: the title inside the group is forbidden, and the groups are
counted wrongly, but the last clause allows both. -/
theorem diagnostics_eq_iff_holds_grouped :
    ({} : Report).isClosed = false
      ∧ ∃ rule, Rule.generate .standard "elm" (.object [("title", .list [.int 1, .int 2]),
          ("g > title", .bool false), ("svg > g", .int 3), ("g, g > *", .bool true)]) = .ok rule
        ∧ ((rule.conduct grouped).perform ⟨some "elm", ""⟩ {}).diagnostics = #[]
        ∧ (grouped.matched "svg > g").length = 1 := by
  obtain ⟨rule, hrule, hclean⟩ := (diagnostics_eq_iff_holds .standard grouped
    [("title", .list [.int 1, .int 2]), ("g > title", .bool false), ("svg > g", .int 3),
      ("g, g > *", .bool true)] ⟨some "elm", ""⟩ (r := {}) rfl).exists_eq_ok (by decide +kernel)
  refine ⟨rfl, rule, hrule, hclean.mpr ?_, by decide +kernel⟩
  simp only [List.forall_mem_cons, List.not_mem_nil, false_imp_iff, implies_true, and_true]
  refine ⟨⟨_, Document.find_eq_ok_matched (by decide +kernel), ?_⟩,
    ⟨_, Document.find_eq_ok_matched (by decide +kernel), ?_⟩,
    ⟨_, Document.find_eq_ok_matched (by decide +kernel), ?_⟩,
    ⟨_, Document.find_eq_ok_matched (by decide +kernel), ?_⟩⟩
  · exact ⟨.int 1, .int 2, rfl, by decide +kernel, by decide +kernel⟩
  · exact List.all_eq_true.mp (by decide +kernel)
  · exact .inr ⟨List.ne_nil_of_length_pos (by decide +kernel),
      List.all_eq_true.mp (by decide +kernel), by decide +kernel⟩
  · exact List.ne_nil_of_length_pos (by decide +kernel)

/-- One `b` although two are asked for, and not a word about it: the clause for all elements allows
the one that is there. -/
theorem clean_of_wrong_count :
    let d : Document :=
      ⟨⟨[.element ⟨"svg", none, []⟩ [.element ⟨"b", none, []⟩ []]], []⟩, none⟩
    ∃ rule, Rule.generate .standard "elm" (.object [("b", .int 2), ("*", .bool true)]) = .ok rule
      ∧ ((rule.conduct d).perform ⟨some "elm", ""⟩ {}).diagnostics.size = 0
      ∧ (d.find "b").toOption.map List.length = some 1 :=
  ⟨_, rfl, by decide +kernel, by decide +kernel⟩

end ElementRule

end VectorLint
