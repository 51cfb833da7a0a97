import VectorLint.Proofs.Document.Places

/-!
# Numbering in one pass

The paths of elements can be found in one pass over the elements in document order. For each place
and name it counts the elements right inside the place that it has met with that name, and it
remembers the paths that it has given; an element is then given the path of its parent, its name and
its count.

The pass gives every element its path, because all elements before an element among those of its
parent have been met, and what is inside them has been counted elsewhere: inside a place only
counts and paths of places inside it change.
-/

namespace VectorLint

open Markup (Node Tag)

/-- What is remembered on the way: how many elements of a name have been met right inside a place,
and the paths of the elements met. Places are told apart by their addresses. -/
structure Numbering where
  counts : List Nat → String → Nat
  paths : List Nat → Option String

namespace Numbering

/-- Nothing has been met. -/
def initial : Numbering := ⟨fun _ _ ↦ 0, fun _ ↦ none⟩

/-- The path that is given to an element that is met. -/
def pathOf (n : Numbering) (p : Place) : String :=
  (n.paths p.address.tail).getD "" ++ "/" ++ p.tag.name
    ++ "[" ++ toString (n.counts p.address.tail p.tag.name + 1) ++ "]"

/-- An element is met. -/
def meet (n : Numbering) (p : Place) : Numbering where
  counts a name :=
    n.counts a name + if a = p.address.tail ∧ name = p.tag.name then 1 else 0
  paths a := if a = p.address then some (n.pathOf p) else n.paths a

/-- What is remembered when some elements have been met. -/
def meetAll (n : Numbering) (ps : List Place) : Numbering := ps.foldl meet n

/-- The paths that are given to elements that are met one after the other. -/
def pathsOf (n : Numbering) : List Place → List String
  | [] => []
  | p :: ps => n.pathOf p :: (n.meet p).pathsOf ps

theorem counts_meet (n : Numbering) (p : Place) (a : List Nat) (name : String) :
    (n.meet p).counts a name
      = n.counts a name + if a = p.address.tail ∧ name = p.tag.name then 1 else 0 := rfl

theorem paths_meet (n : Numbering) (p : Place) (a : List Nat) :
    (n.meet p).paths a = if a = p.address then some (n.pathOf p) else n.paths a := rfl

theorem pathsOf_append (n : Numbering) (ps qs : List Place) :
    n.pathsOf (ps ++ qs) = n.pathsOf ps ++ (n.meetAll ps).pathsOf qs := by
  induction ps generalizing n with
  | nil => rfl
  | cons p ps ih => rw [List.cons_append, pathsOf, pathsOf, ih, List.cons_append]; rfl

/-! ## What is left alone -/

theorem counts_meetAll_of_notMem {n : Numbering} {ps : List Place} {a : List Nat}
    (h : ∀ p ∈ ps, a ≠ p.address.tail) (name : String) :
    (n.meetAll ps).counts a name = n.counts a name := by
  induction ps generalizing n with
  | nil => rfl
  | cons p ps ih =>
    rw [List.forall_mem_cons] at h
    refine (ih h.2).trans ?_
    rw [counts_meet, if_neg (fun hc ↦ h.1 hc.1), Nat.add_zero]

theorem paths_meetAll_of_notMem {n : Numbering} {ps : List Place} {a : List Nat}
    (h : ∀ p ∈ ps, a ≠ p.address) : (n.meetAll ps).paths a = n.paths a := by
  induction ps generalizing n with
  | nil => rfl
  | cons p ps ih =>
    rw [List.forall_mem_cons] at h
    exact (ih h.2).trans (if_neg h.1)

end Numbering

namespace Place

theorem exists_address_of_mem_descendants {p q : Place} (h : q ∈ p.descendants) :
    ∃ front k, q.address = k :: (front ++ p.address) := by
  obtain ⟨front, hfront, hne⟩ := address_of_mem_ancestors (mem_ancestors_of_mem_descendants h)
  obtain ⟨k, front, rfl⟩ := List.exists_cons_of_ne_nil hne
  exact ⟨front, k, hfront⟩

end Place

namespace Numbering

/-- Whether a place is numbered next: it has its path, and nothing inside it has been counted. -/
structure IsReady (n : Numbering) (p : Place) : Prop where
  path_eq : (n.paths p.address).getD "" = p.path
  counts_eq : ∀ front name, n.counts (front ++ p.address) name = 0

/-- Whether the elements `ns` of a place are numbered next, when those among `before` have been. -/
structure IsAt (n : Numbering) (p : Place) (before : List Node) : Prop where
  path_eq : (n.paths p.address).getD "" = p.path
  counts_eq : ∀ name, n.counts p.address name
    = before.countP fun node ↦ Place.nameOf? node = some name
  inside_eq : ∀ front k name, before.length ≤ k → n.counts (front ++ k :: p.address) name = 0

theorem IsAt.skip {n : Numbering} {p : Place} {before : List Node} (h : n.IsAt p before)
    {node : Node} (hnode : Place.nameOf? node = none) : n.IsAt p (node :: before) := by
  refine ⟨h.path_eq, fun name ↦ ?_, fun front k name hk ↦ h.inside_eq front k name ?_⟩
  · rw [h.counts_eq, List.countP_cons_of_neg (by simp [hnode])]
  · exact Nat.le_of_succ_le hk

section

variable {n : Numbering} {p : Place} {before : List Node}

theorem IsAt.pathOf_eq (h : n.IsAt p before) (t : Tag) (cs after : List Node) :
    n.pathOf (.child p before t cs after) = (Place.child p before t cs after).path := by
  rw [pathOf, Place.path]
  simp only [Place.address, List.tail_cons, h.path_eq, Place.tag, h.counts_eq]

theorem IsAt.isReady_meet (h : n.IsAt p before) (t : Tag) (cs after : List Node) :
    (n.meet (.child p before t cs after)).IsReady (.child p before t cs after) := by
  refine ⟨?_, fun front name ↦ ?_⟩
  · rw [paths_meet, if_pos rfl, Option.getD_some, h.pathOf_eq]
  · have hne : front ++ (Place.child p before t cs after).address ≠ p.address := fun he ↦ by
      have hlength := congrArg List.length he
      simp only [Place.address, List.length_append, List.length_cons] at hlength
      omega
    rw [counts_meet, if_neg (fun hc ↦ hne hc.1)]
    exact h.inside_eq front before.length name (Nat.le_refl _)

theorem IsAt.meetAll (h : n.IsAt p before) (t : Tag) (cs after : List Node) :
    ((n.meet (.child p before t cs after)).meetAll
      (Place.child p before t cs after).descendants).IsAt p (.element t cs :: before) := by
  have hinside {q : Place} (hq : q ∈ (Place.child p before t cs after).descendants) :
      ∃ front k, q.address = k :: (front ++ before.length :: p.address) :=
    Place.exists_address_of_mem_descendants hq
  have hlonger (front : List Nat) : front ++ before.length :: p.address ≠ p.address := fun he ↦ by
    have hlength := congrArg List.length he
    simp only [List.length_append, List.length_cons] at hlength
    omega
  refine ⟨?_, fun name ↦ ?_, fun front k name hk ↦ ?_⟩
  · rw [paths_meetAll_of_notMem fun q hq he ↦ ?_, paths_meet, if_neg ?_, h.path_eq]
    · exact (hlonger []).symm
    · obtain ⟨front, k, haddress⟩ := hinside hq
      exact hlonger (k :: front) (he.trans haddress).symm
  · rw [counts_meetAll_of_notMem fun q hq he ↦ ?_, counts_meet, h.counts_eq, List.countP_cons]
    · simp [Place.address, Place.tag, Place.nameOf?, eq_comm]
    · obtain ⟨front, k, haddress⟩ := hinside hq
      rw [haddress] at he
      exact hlonger front he.symm
  · rw [List.length_cons] at hk
    rw [counts_meetAll_of_notMem fun q hq he ↦ ?_, counts_meet, if_neg ?_, Nat.add_zero]
    · exact h.inside_eq front k name (Nat.le_of_succ_le hk)
    · rintro ⟨he, -⟩
      have hlength := congrArg List.length he
      simp only [Place.address, List.length_append, List.length_cons, List.tail_cons] at hlength
      omega
    · obtain ⟨front', k', haddress⟩ := hinside hq
      rw [haddress, List.tail_cons] at he
      -- the two addresses end alike, so the elements have the same number
      have hends := (List.append_inj' he rfl).2
      rw [List.cons.injEq] at hends
      omega

end

theorem IsReady.pathsOf_descendants {n : Numbering} {p : Place} (h : n.IsReady p) :
    n.pathsOf p.descendants = p.descendants.map Place.path := by
  induction p using Place.induction_inside generalizing n with
  | step p ih =>
    have hforwards (before ns : List Node) (n : Numbering) (hn : n.IsAt p before)
        (hsub : Place.forwards p before ns ⊆ p.elements) :
        n.pathsOf ((Place.forwards p before ns).flatMap fun c ↦ c :: c.descendants)
          = ((Place.forwards p before ns).flatMap fun c ↦ c :: c.descendants).map Place.path := by
      induction ns generalizing before n with
      | nil => rfl
      | cons node ns ih' =>
        cases node with
        | text s => exact ih' _ n (hn.skip rfl) hsub
        | remark => exact ih' _ n (hn.skip rfl) hsub
        | element t cs =>
          rw [Place.forwards, List.cons_subset] at hsub
          have hrest := ih' _ _ (hn.meetAll t cs ns) hsub.2
          have hinside := ih _ hsub.1 (hn.isReady_meet t cs ns)
          rw [Place.forwards, List.flatMap_cons, List.cons_append, pathsOf, hn.pathOf_eq,
            pathsOf_append, hinside, hrest, List.map_cons, List.map_append]
    rw [Place.descendants_eq_flatMap]
    refine hforwards [] p.nodes n ⟨h.path_eq, h.counts_eq [], fun front k name _ ↦ ?_⟩
      (List.Subset.refl _)
    have hnone := h.counts_eq (front ++ [k]) name
    rwa [List.append_assoc] at hnone

/-- **One pass over a document gives every element its path.** -/
theorem pathsOf_initial (nodes : List Node) :
    initial.pathsOf (Place.document nodes).descendants
      = (Place.document nodes).descendants.map Place.path :=
  IsReady.pathsOf_descendants ⟨rfl, fun _ _ ↦ rfl⟩

end Numbering

end VectorLint
