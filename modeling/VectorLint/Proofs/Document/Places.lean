import Mathlib.Data.List.Nodup
import VectorLint.Document.Place

/-!
# The places of a tree

The elements inside a place are the elements right inside it, each followed by the elements inside
that. Everything about the order of a document comes from this equation, by induction from the
inside to the outside: the elements inside an element stand right behind it and next to each other,
none stands at two positions, and an element is inside all places around it and no others.

A step from a place leads to one of the elements right inside it, which is told by its name and by
its number among those of that name. The steps that are counted on the way up to the document lead
back down to the element, since the surroundings of a place are those of a real tree (`Fits`).
-/

namespace VectorLint.Place

open Markup (Node Tag)

/-! ## Elements and what is inside them -/

theorem ofNodes_eq_flatMap (p : Place) (before ns : List Node) :
    ofNodes p before ns = (forwards p before ns).flatMap fun c ↦ c :: c.descendants := by
  induction ns generalizing before with
  | nil => rfl
  | cons n ns ih =>
    cases n with
    | element t cs =>
      rw [ofNodes, ofNode, ih, forwards, List.flatMap_cons]
      rfl
    | text s => exact ih (.text s :: before)
    | remark => exact ih (.remark :: before)

/-- The elements inside a place are those right inside it, each with those inside that. -/
theorem descendants_eq_flatMap (p : Place) :
    p.descendants = p.elements.flatMap fun c ↦ c :: c.descendants :=
  ofNodes_eq_flatMap p [] p.nodes

theorem mem_forwards {p c : Place} {before ns : List Node} (h : c ∈ forwards p before ns) :
    ∃ front t cs after, ns = front ++ .element t cs :: after
      ∧ c = child p (front.reverse ++ before) t cs after := by
  induction ns generalizing before with
  | nil => cases h
  | cons n ns ih =>
    have hskip (hc : c ∈ forwards p (n :: before) ns) :
        ∃ front t cs after, n :: ns = front ++ .element t cs :: after
          ∧ c = child p (front.reverse ++ before) t cs after := by
      obtain ⟨front, t, cs, after, rfl, rfl⟩ := ih hc
      refine ⟨n :: front, t, cs, after, rfl, ?_⟩
      rw [List.reverse_cons, List.append_assoc, List.singleton_append]
    cases n with
    | element t cs =>
      rcases List.mem_cons.mp h with rfl | h
      · exact ⟨[], t, cs, ns, rfl, rfl⟩
      · exact hskip h
    | text s => exact hskip h
    | remark => exact hskip h

theorem mem_elements {p c : Place} (h : c ∈ p.elements) :
    ∃ before t cs after, p.nodes = before.reverse ++ .element t cs :: after
      ∧ c = child p before t cs after := by
  obtain ⟨front, t, cs, after, hnodes, rfl⟩ := mem_forwards h
  exact ⟨front.reverse, t, cs, after, by rwa [List.reverse_reverse], by rw [List.append_nil]⟩

/-- **Induction from the inside to the outside**: what is so for a place if it is so for all
elements right inside it is so for every place. -/
theorem induction_inside {P : Place → Prop} (step : ∀ p, (∀ c ∈ p.elements, P c) → P p)
    (p : Place) : P p :=
  step p fun c hc ↦
    have : sizeOf c.nodes < sizeOf p.nodes := by
      obtain ⟨before, t, cs, after, hnodes, rfl⟩ := mem_elements hc
      have hmem : .element t cs ∈ p.nodes := by simp [hnodes]
      have hlt := List.sizeOf_lt_of_mem hmem
      rw [Node.element.sizeOf_spec] at hlt
      change sizeOf cs < sizeOf p.nodes
      omega
    induction_inside step c
termination_by sizeOf p.nodes

theorem exists_append_of_mem_descendants {p q : Place} (h : q ∈ p.descendants) :
    ∃ front behind, p.descendants = front ++ (q :: q.descendants) ++ behind := by
  induction p using induction_inside with
  | step p ih =>
    rw [descendants_eq_flatMap] at h ⊢
    obtain ⟨c, hc, hq⟩ := List.mem_flatMap.mp h
    obtain ⟨left, right, hsplit⟩ := List.append_of_mem hc
    rw [hsplit, List.flatMap_append, List.flatMap_cons]
    rcases List.mem_cons.mp hq with rfl | hq
    · exact ⟨_, _, (List.append_assoc _ _ _).symm⟩
    · obtain ⟨front, behind, hinside⟩ := ih c hc hq
      refine ⟨left.flatMap (fun c ↦ c :: c.descendants) ++ c :: front,
        behind ++ right.flatMap fun c ↦ c :: c.descendants, ?_⟩
      rw [hinside]
      simp only [List.append_assoc, List.cons_append]

theorem descendants_subset {p q : Place} (h : q ∈ p.descendants) :
    q.descendants ⊆ p.descendants := by
  obtain ⟨front, behind, heq⟩ := exists_append_of_mem_descendants h
  intro x hx
  rw [heq]
  exact List.mem_append_left _ (List.mem_append_right _ (List.mem_cons_of_mem _ hx))

/-! ## Places around a place -/

theorem ancestors_subset {p q : Place} (h : p ∈ q.ancestors) : p.ancestors ⊆ q.ancestors := by
  induction q with
  | document nodes => cases h
  | child q before t cs after ih =>
    rcases List.mem_cons.mp h with rfl | h
    · exact List.subset_cons_self _ _
    · exact List.subset_cons_of_subset _ (ih h)

theorem address_of_mem_ancestors {p q : Place} (h : p ∈ q.ancestors) :
    ∃ front, q.address = front ++ p.address ∧ front ≠ [] := by
  induction q with
  | document nodes => cases h
  | child q before t cs after ih =>
    rcases List.mem_cons.mp h with rfl | h
    · exact ⟨[before.length], rfl, List.cons_ne_nil _ _⟩
    · obtain ⟨front, hfront, -⟩ := ih h
      refine ⟨before.length :: front, ?_, List.cons_ne_nil _ _⟩
      rw [address, hfront, List.cons_append]

theorem notMem_ancestors_self (p : Place) : p ∉ p.ancestors := fun h ↦ by
  obtain ⟨front, hfront, hne⟩ := address_of_mem_ancestors h
  exact hne (List.self_eq_append_left.mp hfront)

theorem mem_ancestors_of_mem_descendants {p q : Place} (h : q ∈ p.descendants) :
    p ∈ q.ancestors := by
  induction p using induction_inside with
  | step p ih =>
    rw [descendants_eq_flatMap] at h
    obtain ⟨c, hc, hq⟩ := List.mem_flatMap.mp h
    have hp : p ∈ c.ancestors := by
      obtain ⟨before, t, cs, after, -, rfl⟩ := mem_elements hc
      exact List.mem_cons_self
    rcases List.mem_cons.mp hq with rfl | hq
    · exact hp
    · exact ancestors_subset (ih c hc hq) hp

/-! ## No place twice -/

theorem pairwise_number_forwards (p : Place) (before ns : List Node) :
    (forwards p before ns).Pairwise fun c c' ↦ c.number < c'.number := by
  induction ns generalizing before with
  | nil => exact .nil
  | cons n ns ih =>
    cases n with
    | element t cs =>
      refine List.pairwise_cons.mpr ⟨fun c hc ↦ ?_, ih _⟩
      obtain ⟨front, t', cs', after, -, rfl⟩ := mem_forwards hc
      simp only [number, List.length_append, List.length_cons]
      omega
    | text s => exact ih (.text s :: before)
    | remark => exact ih (.remark :: before)

theorem disjoint_of_number_lt {p c c' : Place} (hc : c ∈ p.elements) (hc' : c' ∈ p.elements)
    (h : c.number < c'.number) : List.Disjoint (c :: c.descendants) (c' :: c'.descendants) := by
  intro x hx hx'
  have hsuffix {q : Place} (hq : x ∈ q :: q.descendants) : q.address <:+ x.address := by
    rcases List.mem_cons.mp hq with rfl | hq
    · exact List.suffix_rfl
    · obtain ⟨front, hfront, -⟩ :=
        address_of_mem_ancestors (mem_ancestors_of_mem_descendants hq)
      exact ⟨front, hfront.symm⟩
  have h₁ := hsuffix hx
  have h₂ := hsuffix hx'
  obtain ⟨before, t, cs, after, -, rfl⟩ := mem_elements hc
  obtain ⟨before', t', cs', after', -, rfl⟩ := mem_elements hc'
  -- both addresses are as long, and end the address of what is inside both
  have heq := (List.suffix_of_suffix_length_le h₁ h₂ (Nat.le_refl _)).eq_of_length rfl
  exact absurd (List.cons.inj heq).1 (Nat.ne_of_lt h)

theorem nodup_descendants (p : Place) : p.descendants.Nodup := by
  induction p using induction_inside with
  | step p ih =>
    rw [descendants_eq_flatMap]
    refine List.nodup_flatMap.mpr ⟨fun c hc ↦ ?_, ?_⟩
    · exact List.nodup_cons.mpr
        ⟨fun h ↦ notMem_ancestors_self c (mem_ancestors_of_mem_descendants h), ih c hc⟩
    · exact (pairwise_number_forwards p [] p.nodes).imp_of_mem disjoint_of_number_lt

/-! ## Places that fit -/

/-- The document in which a place is. -/
def top : Place → Place
  | document nodes => document nodes
  | child p _ _ _ _ => p.top

/-- Whether a place is in a tree: on all levels the nodes of the parent are the element with its
siblings before and behind it. -/
def Fits : Place → Prop
  | document _ => True
  | child p before t cs after => p.Fits ∧ p.nodes = before.reverse ++ .element t cs :: after

theorem fits_of_mem_elements {p c : Place} (hp : p.Fits) (h : c ∈ p.elements) : c.Fits := by
  obtain ⟨before, t, cs, after, hnodes, rfl⟩ := mem_elements h
  exact ⟨hp, hnodes⟩

theorem fits_of_mem_descendants {p q : Place} (hp : p.Fits) (h : q ∈ p.descendants) : q.Fits := by
  induction p using induction_inside with
  | step p ih =>
    rw [descendants_eq_flatMap] at h
    obtain ⟨c, hc, hq⟩ := List.mem_flatMap.mp h
    rcases List.mem_cons.mp hq with rfl | hq
    · exact fits_of_mem_elements hp hc
    · exact ih c hc (fits_of_mem_elements hp hc) hq

theorem fits_of_mem_ancestors {p q : Place} (hq : q.Fits) (h : p ∈ q.ancestors) : p.Fits := by
  induction q with
  | document nodes => cases h
  | child q before t cs after ih =>
    rcases List.mem_cons.mp h with rfl | h
    · exact hq.1
    · exact ih hq.1 h

theorem top_eq_of_mem_ancestors {p q : Place} (h : p ∈ q.ancestors) : q.top = p.top := by
  induction q with
  | document nodes => cases h
  | child q before t cs after ih =>
    rcases List.mem_cons.mp h with rfl | h
    · rfl
    · exact ih h

theorem top_eq_or_mem_ancestors (q : Place) : q.top = q ∨ q.top ∈ q.ancestors := by
  induction q with
  | document nodes => exact .inl rfl
  | child q before t cs after ih =>
    refine .inr (List.mem_cons.mpr ?_)
    rcases ih with h | h
    · exact .inl h
    · exact .inr h

/-! ## Steps -/

/-- One step from a place: of the elements right inside it with a name, the one with a number,
counted from one. -/
def child? (p : Place) (name : String) : Nat → Option Place
  | 0 => none
  | k + 1 => (p.elements.filter (·.tag.name = name))[k]?

/-- Steps from a place, one after the other. -/
def follow (p : Place) : List (String × Nat) → Option Place
  | [] => some p
  | (name, k) :: steps => (p.child? name k).bind (·.follow steps)

theorem follow_append (p : Place) (steps steps' : List (String × Nat)) :
    p.follow (steps ++ steps') = (p.follow steps).bind (·.follow steps') := by
  induction steps generalizing p with
  | nil => rfl
  | cons s steps ih =>
    rw [List.cons_append, follow, follow, Option.bind_assoc]
    exact Option.bind_congr fun q _ ↦ ih q

theorem getElem?_filter_forwards (p : Place) (before front : List Node) (t : Tag)
    (cs after : List Node) :
    ((forwards p before (front ++ .element t cs :: after)).filter
        (·.tag.name = t.name))[front.countP fun n ↦ nameOf? n = some t.name]?
      = some (child p (front.reverse ++ before) t cs after) := by
  induction front generalizing before with
  | nil => simp [forwards, tag]
  | cons n front ih =>
    have hrest := ih (n :: before)
    rw [List.reverse_cons, List.append_assoc, List.singleton_append]
    cases n with
    | element t' cs' =>
      rw [List.cons_append, forwards, List.filter_cons, List.countP_cons]
      by_cases hname : t'.name = t.name
      · simpa [tag, nameOf?, hname] using hrest
      · simpa [tag, nameOf?, hname] using hrest
    | text s => simpa [forwards, nameOf?] using hrest
    | remark => simpa [forwards, nameOf?] using hrest

theorem child?_of_fits {p : Place} {before : List Node} {t : Tag} {cs after : List Node}
    (h : (child p before t cs after).Fits) :
    p.child? t.name ((before.countP fun n ↦ nameOf? n = some t.name) + 1)
      = some (child p before t cs after) := by
  have hstep := getElem?_filter_forwards p [] before.reverse t cs after
  rw [List.countP_reverse, List.reverse_reverse, List.append_nil, ← h.2] at hstep
  exact hstep

theorem mem_elements_of_fits {p : Place} {before : List Node} {t : Tag} {cs after : List Node}
    (h : (child p before t cs after).Fits) : child p before t cs after ∈ p.elements :=
  List.mem_of_mem_filter (List.mem_of_getElem? (child?_of_fits h))

theorem mem_descendants_of_mem_ancestors {p q : Place} (hq : q.Fits) (h : p ∈ q.ancestors) :
    q ∈ p.descendants := by
  induction q with
  | document nodes => cases h
  | child q before t cs after ih =>
    have hinside : child q before t cs after ∈ q.descendants := by
      rw [descendants_eq_flatMap]
      exact List.mem_flatMap.mpr ⟨_, mem_elements_of_fits hq, List.mem_cons_self⟩
    rcases List.mem_cons.mp h with rfl | h
    · exact hinside
    · exact descendants_subset (ih hq.1 h) hinside

end VectorLint.Place
