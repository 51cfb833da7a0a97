import VectorLint.Proofs.Rule.Subjects

/-!
# What stands of what is disallowed

A disallowed finding stands unless it is about an element that some outcome allows, whichever
outcome that is and wherever it comes. So what stands is told by two things only: the disallowed
findings one behind the other, and the elements that are allowed, of which neither the order nor the
number matters. Everything that may be done to outcomes is judged by what it does to these two.
-/

namespace VectorLint.Outcome

variable {outcomes others : List Outcome} {f : Finding}

/-- The disallowed findings of outcomes, one behind the other. -/
def allDisallowed (outcomes : List Outcome) : List Finding := outcomes.flatMap (·.disallowed)

/-- The elements that outcomes allow. -/
def allowedElements (outcomes : List Outcome) : List Element :=
  outcomes.flatMap fun o ↦ o.allowed.filterMap (·.element)

/-- Whether a finding is about no element, or about an element that no outcome allows. -/
def IsKept (outcomes : List Outcome) (f : Finding) : Prop :=
  f.element = none ∨ ∀ o ∈ outcomes, ∀ g ∈ o.allowed, g.element ≠ f.element

theorem standing_eq (outcomes : List Outcome) :
    standing outcomes = (allDisallowed outcomes).filter (stands (allowedIndexes outcomes)) := rfl

theorem mem_allowedElements {e : Element} :
    e ∈ allowedElements outcomes ↔ ∃ o ∈ outcomes, ∃ g ∈ o.allowed, g.element = some e := by
  simp only [allowedElements, List.mem_flatMap, List.mem_filterMap]

theorem allowedIndexes_eq (outcomes : List Outcome) :
    allowedIndexes outcomes = (allowedElements outcomes).map (·.index) := by
  rw [allowedIndexes, allowedElements, List.map_flatMap]
  refine List.flatMap_congr fun o _ ↦ ?_
  rw [List.map_filterMap]

theorem stands_of_element_eq_none (h : f.element = none) (allowed : List Nat) :
    stands allowed f = true := by
  simp only [stands, h]

theorem stands_eq_true_iff {e : Element} (h : f.element = some e) {allowed : List Nat} :
    stands allowed f = true ↔ e.index ∉ allowed := by
  simp only [stands, h, Bool.not_eq_true', List.contains_eq_mem, decide_eq_false_iff_not]

/-! ## What the allowed elements do -/

theorem stands_of_subset {allowed more : List Nat} (h : allowed ⊆ more)
    (hf : stands more f = true) : stands allowed f = true := by
  cases helement : f.element with
  | none => exact stands_of_element_eq_none helement allowed
  | some e =>
    rw [stands_eq_true_iff helement] at hf ⊢
    exact fun hmem ↦ hf (h hmem)

theorem allowedIndexes_subset (h : allowedElements outcomes ⊆ allowedElements others) :
    allowedIndexes outcomes ⊆ allowedIndexes others := by
  rw [allowedIndexes_eq, allowedIndexes_eq]
  exact List.map_subset _ h

theorem stands_eq_of_same (h : ∀ e, e ∈ allowedElements outcomes ↔ e ∈ allowedElements others) :
    stands (allowedIndexes outcomes) = stands (allowedIndexes others) := by
  funext f
  rw [Bool.eq_iff_iff]
  constructor
  · exact stands_of_subset (allowedIndexes_subset fun e he ↦ (h e).mpr he)
  · exact stands_of_subset (allowedIndexes_subset fun e he ↦ (h e).mp he)

theorem mem_allowedElements_of_perm (h : outcomes.Perm others) (e : Element) :
    e ∈ allowedElements outcomes ↔ e ∈ allowedElements others := by
  simp only [mem_allowedElements, h.mem_iff]

theorem stands_iff_isKept {d : Document}
    (hallowed : ∀ o ∈ outcomes, ∀ g ∈ o.allowed, d.IsSubject g.element)
    (hf : d.IsSubject f.element) :
    stands (allowedIndexes outcomes) f = true ↔ IsKept outcomes f := by
  cases helement : f.element with
  | none => exact ⟨fun _ ↦ .inl helement, fun _ ↦ stands_of_element_eq_none helement _⟩
  | some e =>
    have hmem : e.index ∈ allowedIndexes outcomes ↔ e ∈ allowedElements outcomes := by
      rw [allowedIndexes_eq, List.mem_map]
      constructor
      · rintro ⟨x, hx, hindex⟩
        obtain ⟨o, ho, g, hg, hgx⟩ := mem_allowedElements.mp hx
        rwa [← Document.eq_of_index_eq (hallowed o ho g hg x hgx) (hf e helement) hindex]
      · exact fun he ↦ ⟨e, he, rfl⟩
    rw [stands_eq_true_iff helement, hmem, mem_allowedElements, IsKept, helement]
    simp only [reduceCtorEq, false_or, not_exists, not_and, ne_eq]

/-! ## Resolution -/

theorem standing_of_more_allowed (hsame : allDisallowed others = allDisallowed outcomes)
    (h : allowedElements outcomes ⊆ allowedElements others) :
    (standing others).Sublist (standing outcomes) := by
  rw [standing_eq, standing_eq, hsame]
  exact List.monotone_filter_right _ fun f ↦ stands_of_subset (allowedIndexes_subset h)

theorem filter_isNone_standing (outcomes : List Outcome) :
    (standing outcomes).filter (·.element.isNone)
      = (allDisallowed outcomes).filter (·.element.isNone) := by
  rw [standing_eq, List.filter_filter]
  refine List.filter_congr fun f _ ↦ ?_
  cases helement : f.element with
  | none => rw [stands_of_element_eq_none helement]; rfl
  | some e => rfl

theorem standing_of_more_disallowed
    (hmore : (allDisallowed outcomes).Sublist (allDisallowed others))
    (h : ∀ e, e ∈ allowedElements outcomes ↔ e ∈ allowedElements others) :
    (standing outcomes).Sublist (standing others) := by
  rw [standing_eq, standing_eq, stands_eq_of_same h]
  exact hmore.filter _

theorem standing_congr (hsame : allDisallowed others = allDisallowed outcomes)
    (h : ∀ e, e ∈ allowedElements outcomes ↔ e ∈ allowedElements others) :
    standing others = standing outcomes := by
  rw [standing_eq, standing_eq, hsame, stands_eq_of_same h]

theorem standing_again (hsame : allDisallowed others = standing outcomes)
    (h : ∀ e, e ∈ allowedElements outcomes ↔ e ∈ allowedElements others) :
    standing others = standing outcomes := by
  rw [standing_eq, hsame, ← stands_eq_of_same h, standing_eq, List.filter_filter]
  simp only [Bool.and_self]

theorem standing_perm (h : outcomes.Perm others) :
    (standing outcomes).Perm (standing others) := by
  rw [standing_eq, standing_eq, stands_eq_of_same (mem_allowedElements_of_perm h)]
  exact (h.flatMap_right _).filter _

open scoped Classical in
/-- **Resolution.** For outcomes about elements of one document, what stands are the disallowed
findings in their order, each as often as it is there, that are about no element or about one that
no outcome allows. So other outcomes let the same findings stand, in another order, if they are the
same in another order; fewer, and no fewer about no element, if they disallow the same and allow
more; no fewer if they disallow more and allow the same; the same if they disallow and allow the
same; and the same again if what stands is all that they disallow. -/
theorem standing_resolves {d : Document}
    (h : ∀ o ∈ outcomes, ∀ f ∈ o.allowed ++ o.disallowed, d.IsSubject f.element) :
    standing outcomes = (allDisallowed outcomes).filter (fun f ↦ IsKept outcomes f)
      ∧ (∀ others, outcomes.Perm others → (standing outcomes).Perm (standing others))
      ∧ (∀ others, allDisallowed others = allDisallowed outcomes →
        allowedElements outcomes ⊆ allowedElements others →
          (standing others).Sublist (standing outcomes)
            ∧ (standing others).filter (·.element.isNone)
              = (standing outcomes).filter (·.element.isNone))
      ∧ (∀ others, (allDisallowed outcomes).Sublist (allDisallowed others) →
        (∀ e, e ∈ allowedElements outcomes ↔ e ∈ allowedElements others) →
          (standing outcomes).Sublist (standing others))
      ∧ (∀ others, allDisallowed others = allDisallowed outcomes →
        (∀ e, e ∈ allowedElements outcomes ↔ e ∈ allowedElements others) →
          standing others = standing outcomes)
      ∧ ∀ others, allDisallowed others = standing outcomes →
        (∀ e, e ∈ allowedElements outcomes ↔ e ∈ allowedElements others) →
          standing others = standing outcomes := by
  have hallowed : ∀ o ∈ outcomes, ∀ g ∈ o.allowed, d.IsSubject g.element := fun o ho g hg ↦
    h o ho g (List.mem_append_left _ hg)
  refine ⟨?_, fun _ ↦ standing_perm, fun others hsame hmore ↦ ⟨?_, ?_⟩,
    fun _ ↦ standing_of_more_disallowed, fun _ ↦ standing_congr, fun _ ↦ standing_again⟩
  · rw [standing_eq]
    refine List.filter_congr fun f hf ↦ ?_
    obtain ⟨o, ho, hf⟩ := List.mem_flatMap.mp hf
    rw [Bool.eq_iff_iff, decide_eq_true_iff]
    exact stands_iff_isKept hallowed (h o ho f (List.mem_append_right _ hf))
  · exact standing_of_more_allowed hsame hmore
  · rw [filter_isNone_standing, filter_isNone_standing, hsame]

/-- An outcome that both allows and disallows an element, with findings about no element on both
sides, and one finding made twice. -/
theorem standing_resolves_mixed :
    let d : Document :=
      ⟨⟨[.element ⟨"a", none, []⟩ [.element ⟨"b", none, []⟩ [], .element ⟨"b", none, []⟩ []]], []⟩,
        none⟩
    let outcomes : List Outcome := [
      ⟨[⟨d.elements[1]?, ""⟩, ⟨none, ""⟩], [⟨d.elements[1]?, "both"⟩, ⟨none, "none"⟩,
        ⟨d.elements[2]?, "twice"⟩, ⟨d.elements[2]?, "twice"⟩]⟩,
      ⟨[], [⟨d.elements[0]?, "root"⟩, ⟨d.elements[1]?, "elsewhere"⟩]⟩]
    (∀ o ∈ outcomes, ∀ f ∈ o.allowed ++ o.disallowed, d.IsSubject f.element)
      ∧ (standing outcomes).map (·.message) = ["none", "twice", "twice", "root"]
      ∧ (standing outcomes).Perm (standing outcomes.reverse)
      ∧ standing [⟨outcomes.flatMap (·.allowed), standing outcomes⟩] = standing outcomes := by
  intro d outcomes
  have hsubject : ∀ i : Nat, d.IsSubject d.elements[i]? := fun i e he ↦
    List.mem_of_getElem? (Option.mem_def.mp he)
  have h : ∀ o ∈ outcomes, ∀ f ∈ o.allowed ++ o.disallowed, d.IsSubject f.element := by
    simp only [outcomes, List.forall_mem_cons, List.cons_append, List.nil_append, hsubject,
      Document.isSubject_none, List.not_mem_nil, false_imp_iff, implies_true, and_self]
  obtain ⟨-, hperm, -, -, -, hagain⟩ := standing_resolves h
  refine ⟨h, by decide +kernel, hperm _ outcomes.reverse_perm.symm,
    hagain _ (by simp [allDisallowed]) fun e ↦ ?_⟩
  simp only [mem_allowedElements, List.mem_singleton, exists_eq_left, List.mem_flatMap]
  constructor
  · rintro ⟨o, ho, g, hg, he⟩
    exact ⟨g, ⟨o, ho, hg⟩, he⟩
  · rintro ⟨g, ⟨o, ho, hg⟩, he⟩
    exact ⟨o, ho, g, hg, he⟩

end VectorLint.Outcome
