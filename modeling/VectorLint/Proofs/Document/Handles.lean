import VectorLint.Document.Memory
import VectorLint.Proofs.Attempt
import VectorLint.Proofs.Document.Matched
import VectorLint.Proofs.Document.Addresses

/-!
# The elements of tags

A document in memory looks its elements up by the identities of their tags. The walk over the tags
enters each of them once, so that tags and elements correspond one to one: the tag that is met with
a number has the element of that number. Whatever a query selects is therefore found, and what is
found are the elements that the query matches among the numbered ones, in their order.

No identity in one document is in use in another, so the tags of all other documents are refused.
-/

namespace VectorLint

/-! ## Filters and lookups in a monad -/

section

variable {m : Type → Type} [Monad m] [LawfulMonad m] {α β : Type}

private theorem filterAuxM_map (f : α → β) (p : β → m Bool) (xs acc : List α) :
    List.filterAuxM p (xs.map f) (acc.map f)
      = List.map f <$> List.filterAuxM (fun x ↦ p (f x)) xs acc := by
  induction xs generalizing acc with
  | nil => simp [List.filterAuxM]
  | cons x xs ih =>
    simp only [List.map_cons, List.filterAuxM, map_bind]
    refine bind_congr fun kept ↦ ?_
    rw [← ih]
    cases kept <;> rfl

theorem filterM_map (f : α → β) (p : β → m Bool) (xs : List α) :
    (xs.map f).filterM p = List.map f <$> xs.filterM fun x ↦ p (f x) := by
  have haux := filterAuxM_map f p xs []
  rw [List.map_nil] at haux
  simp only [List.filterM, haux, bind_map_left, map_bind, map_pure, List.map_reverse]

private theorem filterAuxM_true {p : α → m Bool} (hp : ∀ x, p x = pure true) (xs acc : List α) :
    List.filterAuxM p xs acc = pure (xs.reverse ++ acc) := by
  induction xs generalizing acc with
  | nil => rfl
  | cons x xs ih => simp [List.filterAuxM, hp, ih]

theorem filterM_true {p : α → m Bool} (hp : ∀ x, p x = pure true) (xs : List α) :
    xs.filterM p = pure xs := by
  simp [List.filterM, filterAuxM_true hp]

end

theorem run'_filterM_map {σ ε α β : Type} (f : α → β) (p : β → StateT σ (Except ε) Bool)
    (xs : List α) (s : σ) :
    ((xs.map f).filterM p).run' s = ((xs.filterM fun x ↦ p (f x)).run' s).map (List.map f) := by
  rw [filterM_map]
  generalize (xs.filterM fun x ↦ p (f x)) = kept
  simp only [StateT.run', Functor.map, StateT.map, bind, Except.bind]
  cases kept s <;> rfl

namespace Document

theorem find_star (d : Document) : d.find "*" = .ok d.elements := by
  have hquery : Query.ofText "*" = .ok ⟨[.all [.tag none "*"]], false⟩ := by rfl
  have hmatch (p : Place) :
      Query.matchesAt ⟨[.all [.tag none "*"]], false⟩ d.surroundings p = pure true := by
    simp [Query.matchesAt, Selector.Surroundings.test, Selector.Surroundings.inList,
      Selector.anyMatches, Selector.matchesAt, Selector.allHold, Selector.holdsAt,
      Selector.isNamed]
  have hall : (d.elements.filterM fun e ↦ Query.matchesAt ⟨[.all [.tag none "*"]], false⟩
      d.surroundings e.place) = pure d.elements := filterM_true (fun e ↦ hmatch e.place) _
  rw [find, hquery]
  change d.select _ = _
  rw [select, hall]
  rfl

/-! ## The walk -/

namespace Index

variable {os : List Object} {x : Index}

theorem elements_foldl_enter (os : List Object) (x : Index) :
    (os.foldl enter x).elements
      = x.elements ++ (os.zipIdx x.elements.length).map fun (o, i) ↦ ⟨i, o.place⟩ := by
  induction os generalizing x with
  | nil => exact (List.append_nil _).symm
  | cons o os ih =>
    rw [List.foldl_cons, ih, List.zipIdx_cons, List.map_cons]
    simp only [enter, List.length_append, List.length_singleton, List.append_assoc,
      List.singleton_append]

theorem handles_foldl_of_notMem {identity : Nat} (h : identity ∉ os.map (·.identity)) :
    (os.foldl enter x).handles identity = x.handles identity := by
  induction os generalizing x with
  | nil => rfl
  | cons o os ih =>
    rw [List.map_cons, List.mem_cons, not_or] at h
    rw [List.foldl_cons, ih h.2]
    exact if_neg h.1

theorem handles_foldl_of_mem (hn : (os.map (·.identity)).Nodup) {o : Object} {i : Nat}
    (h : (o, i) ∈ os.zipIdx x.elements.length) :
    (os.foldl enter x).handles o.identity = some ⟨i, o.place⟩ := by
  induction os generalizing x with
  | nil => cases h
  | cons o' os ih =>
    rw [List.map_cons, List.nodup_cons] at hn
    rw [List.zipIdx_cons] at h
    rw [List.foldl_cons]
    rcases List.mem_cons.mp h with heq | h
    · cases heq
      rw [handles_foldl_of_notMem hn.1]
      exact if_pos rfl
    · refine ih hn.2 ?_
      rwa [enter, List.length_append]

end Index

namespace Held

variable (h : Held)

theorem map_place_objects : h.objects.map (·.place) = h.document.place.descendants := by
  rw [objects, List.map_map]
  exact List.map_snd_zip (Nat.le_of_eq h.length_eq.symm)

theorem map_identity_objects : h.objects.map (·.identity) = h.identities := by
  rw [objects, List.map_map]
  exact List.map_fst_zip (Nat.le_of_eq h.length_eq)

theorem elements_eq :
    h.document.elements = h.objects.zipIdx.map fun (o, i) ↦ ⟨i, o.place⟩ := by
  rw [elements, ← map_place_objects, List.zipIdx_map, List.map_map]
  rfl

theorem elements_index : h.index.elements = h.document.elements := by
  rw [index, Index.elements_foldl_enter, elements_eq]
  rfl

variable {h}

theorem handle_eq_ok {o : Object} {i : Nat} (ho : (o, i) ∈ h.objects.zipIdx) :
    h.handle o = .ok ⟨i, o.place⟩ := by
  have hn : (h.objects.map (·.identity)).Nodup := by
    rw [map_identity_objects]
    exact h.nodup
  rw [handle, index, Index.handles_foldl_of_mem hn ho]

theorem handle_eq_error {o : Object} (ho : o.identity ∉ h.identities) :
    h.handle o = .error (foreign o.place) := by
  rw [← map_identity_objects] at ho
  rw [handle, index, Index.handles_foldl_of_notMem ho]

/-! ## Queries -/

/-- The tags that match a query, with their numbers. -/
def chosen (h : Held) (q : Query) : Except Failure (List (Object × Nat)) :=
  StateT.run' (h.objects.zipIdx.filterM fun x ↦ q.matchesAt h.document.surroundings x.1.place)
    .empty

theorem sublist_of_chosen {q : Query} {found : List (Object × Nat)} (hq : h.chosen q = .ok found) :
    found.Sublist h.objects.zipIdx := sublist_of_filterM hq

theorem select_eq_chosen (selector : String) :
    h.select selector = Query.ofText selector >>= fun q ↦ (h.chosen q).map (List.map (·.1)) := by
  have hobjects : h.objects = h.objects.zipIdx.map (·.1) := (List.zipIdx_map_fst 0 _).symm
  refine bind_congr fun q ↦ ?_
  rw [chosen]
  conv_lhs => rw [hobjects]
  exact run'_filterM_map _ _ _ _

theorem find_document_eq_chosen (selector : String) :
    h.document.find selector
      = Query.ofText selector >>= fun q ↦
        (h.chosen q).map (List.map fun (o, i) ↦ ⟨i, o.place⟩) := by
  refine bind_congr fun q ↦ ?_
  rw [Document.select, elements_eq]
  exact run'_filterM_map _ _ _ _

theorem sublist_of_select {selector : String} {selected : List Object}
    (hs : h.select selector = .ok selected) : selected.Sublist h.objects := by
  obtain ⟨q, -, hq⟩ := Attempt.exists_of_bind_eq_ok hs
  exact sublist_of_filterM hq

theorem handle_of_chosen {q : Query} {chosen : List (Object × Nat)} (hq : h.chosen q = .ok chosen) :
    ∀ x ∈ chosen, h.handle x.1 = .ok ⟨x.2, x.1.place⟩ :=
  fun _ hx ↦ handle_eq_ok ((sublist_of_chosen hq).subset hx)

theorem mapM_handle_of_chosen {q : Query} {chosen : List (Object × Nat)}
    (hq : h.chosen q = .ok chosen) :
    (chosen.map (·.1)).mapM h.handle = .ok (chosen.map fun (o, i) ↦ ⟨i, o.place⟩) := by
  rw [List.mapM_map]
  exact Attempt.mapM_eq_ok (handle_of_chosen hq)

theorem find_eq (selector : String) : h.find selector = h.document.find selector := by
  rw [find, select_eq_chosen, find_document_eq_chosen]
  cases Query.ofText selector with
  | error f => rfl
  | ok q =>
    change ((h.chosen q).map (List.map (·.1)) >>= (·.mapM h.handle)) = (h.chosen q).map _
    cases hq : h.chosen q with
    | error f => rfl
    | ok chosen => exact mapM_handle_of_chosen hq

theorem exists_find_of_select {selector : String} {selected : List Object}
    (hs : h.select selector = .ok selected) :
    ∃ found, h.find selector = .ok found ∧ selected.map h.handle = found.map .ok := by
  have hchosen := hs
  rw [select_eq_chosen] at hchosen
  obtain ⟨q, -, hmap⟩ := Attempt.exists_of_bind_eq_ok hchosen
  obtain ⟨chosen, hq, rfl⟩ := Attempt.exists_of_map_eq_ok hmap
  refine ⟨chosen.map fun (o, i) ↦ ⟨i, o.place⟩, ?_, ?_⟩
  · rw [find, hs]
    exact mapM_handle_of_chosen hq
  · rw [List.map_map, List.map_map]
    exact List.map_congr_left (handle_of_chosen hq)

/-- Looking up what is selected never fails. -/
theorem find_eq_error_iff {selector : String} {f : Failure} :
    h.find selector = .error f ↔ h.select selector = .error f := by
  cases hs : h.select selector with
  | error f' =>
    rw [find, hs]
    exact ⟨fun hf ↦ congrArg _ (Except.error.inj hf), fun hf ↦ congrArg _ (Except.error.inj hf)⟩
  | ok selected =>
    obtain ⟨found, hfound, -⟩ := exists_find_of_select hs
    rw [hfound]
    exact ⟨fun hf ↦ (by cases hf), fun hf ↦ (by cases hf)⟩

/-! ## Tags and elements -/

theorem exists_mem_zipIdx {o : Object} (ho : o ∈ h.objects) : ∃ i, (o, i) ∈ h.objects.zipIdx := by
  obtain ⟨i, hi⟩ := List.mem_iff_getElem?.mp ho
  exact ⟨i, List.mem_zipIdx_iff_getElem?.mpr hi⟩

theorem exists_handle_eq_ok {o : Object} (ho : o ∈ h.objects) :
    ∃ e ∈ h.document.elements, h.handle o = .ok e ∧ e.place = o.place := by
  obtain ⟨i, hi⟩ := exists_mem_zipIdx ho
  refine ⟨⟨i, o.place⟩, ?_, handle_eq_ok hi, rfl⟩
  rw [elements_eq]
  exact List.mem_map_of_mem hi

theorem exists_object {e : Element} (he : e ∈ h.document.elements) :
    ∃ o ∈ h.objects, h.handle o = .ok e := by
  rw [elements_eq] at he
  obtain ⟨⟨o, i⟩, hi, rfl⟩ := List.mem_map.mp he
  exact ⟨o, List.fst_mem_of_mem_zipIdx hi, handle_eq_ok hi⟩

theorem handle_eq_handle_iff {o o' : Object} (ho : o ∈ h.objects) (ho' : o' ∈ h.objects) :
    h.handle o = h.handle o' ↔ o.identity = o'.identity := by
  constructor
  · intro heq
    obtain ⟨i, hi⟩ := exists_mem_zipIdx ho
    obtain ⟨i', hi'⟩ := exists_mem_zipIdx ho'
    rw [handle_eq_ok hi, handle_eq_ok hi', Except.ok.injEq, Element.mk.injEq] at heq
    have hget := List.mem_zipIdx_iff_getElem?.mp hi
    have hget' := List.mem_zipIdx_iff_getElem?.mp hi'
    simp only [heq.1] at hget
    rw [Option.some.inj (hget.symm.trans hget')]
  · intro heq
    have hn : (h.objects.map (·.identity)).Nodup := by
      rw [map_identity_objects]
      exact h.nodup
    rw [List.inj_on_of_nodup_map hn ho ho' heq]

end Held

theorem pairwise_index_of_sublist {d : Document} {found : List Element}
    (h : found.Sublist d.elements) : found.Pairwise fun e e' ↦ e.index < e'.index := by
  have hall : d.elements.Pairwise fun e e' ↦ e.index < e'.index := by
    refine List.pairwise_map.mp ?_
    rw [map_index_elements]
    exact List.pairwise_lt_range'
  exact hall.sublist h

end Document

open Document (Held Object foreign)

namespace Memory

variable {m : Memory} {h other : Held} {n k : Nat}

theorem notMem_identities (hn : m.documents[n]? = some h) (hk : m.documents[k]? = some other)
    (hne : k ≠ n) {identity : Nat} (hidentity : identity ∈ other.identities) :
    identity ∉ h.identities := by
  obtain ⟨hn', rfl⟩ := List.getElem?_eq_some_iff.mp hn
  obtain ⟨hk', rfl⟩ := List.getElem?_eq_some_iff.mp hk
  have hdisjoint := List.pairwise_iff_getElem.mp (List.nodup_flatMap.mp m.nodup).2
  rcases Nat.lt_or_gt_of_ne hne with hlt | hlt
  · exact hdisjoint k n hk' hn' hlt hidentity
  · exact fun hmem ↦ hdisjoint n k hn' hk' hlt hmem hidentity

/-- **Elements of tags.** The elements of a document in memory correspond one to one to its tags,
and each is the element of its tag. Whatever is selected is found: the elements of the tags that are
selected, in the order of their numbers, each once; the failures of a search are those of the
selection. The selector that stands for any name finds all elements. The tags of all other documents
are refused. -/
theorem find_of_held (hn : m.documents[n]? = some h) :
    h.index.elements = h.document.elements
      ∧ (∀ o ∈ h.objects, ∃ e ∈ h.document.elements, h.handle o = .ok e ∧ e.place = o.place)
      ∧ (∀ e ∈ h.document.elements, ∃ o ∈ h.objects, h.handle o = .ok e)
      ∧ (∀ o ∈ h.objects, ∀ o' ∈ h.objects, h.handle o = h.handle o' ↔ o.identity = o'.identity)
      ∧ (∀ selector selected, h.select selector = .ok selected →
        selected.Sublist h.objects ∧ ∃ found, h.find selector = .ok found
          ∧ selected.map h.handle = found.map .ok
          ∧ found.Sublist h.document.elements
          ∧ found.Pairwise fun e e' ↦ e.index < e'.index)
      ∧ (∀ selector f, h.find selector = .error f ↔ h.select selector = .error f)
      ∧ h.find "*" = .ok h.document.elements
      ∧ ∀ k other, k ≠ n → m.documents[k]? = some other → ∀ o ∈ other.objects,
        h.handle o = .error
          ⟨.value, "Tag <" ++ o.place.tag.name ++ "> does not belong to this document"⟩ := by
  refine ⟨Held.elements_index h, fun o ho ↦ Held.exists_handle_eq_ok ho,
    fun e he ↦ Held.exists_object he, fun o ho o' ho' ↦ Held.handle_eq_handle_iff ho ho',
    fun selector selected hs ↦ ?_, fun selector f ↦ Held.find_eq_error_iff, ?_,
    fun k other hne hk o ho ↦ ?_⟩
  · obtain ⟨found, hfound, hmap⟩ := Held.exists_find_of_select hs
    have hsub := Document.sublist_of_find (Held.find_eq selector ▸ hfound)
    exact ⟨Held.sublist_of_select hs, found, hfound, hmap, hsub,
      Document.pairwise_index_of_sublist hsub⟩
  · rw [Held.find_eq, Document.find_star]
  · have hidentity : o.identity ∈ other.identities := by
      rw [← Held.map_identity_objects]
      exact List.mem_map_of_mem ho
    exact Held.handle_eq_error (notMem_identities hn hk hne hidentity)

/-- One document twice, with two tags that look alike: they are found as two elements, and neither
document knows the tags of the other. -/
theorem find_of_held_twins :
    let b : Markup.Node := .element ⟨"b", none, []⟩ []
    let d : Document := ⟨⟨[.element ⟨"a", none, []⟩ [b, .text "t", b]], []⟩, none⟩
    let m := (Memory.empty.hold d).hold d
    ∃ h other, m.documents[0]? = some h ∧ m.documents[1]? = some other
      ∧ h.identities = [1, 2, 3] ∧ other.identities = [4, 5, 6]
      ∧ (h.find "a > b").toOption.map (·.map (·.index)) = some [1, 2]
      ∧ h.find "*" = .ok d.elements
      ∧ ∀ o ∈ other.objects, h.handle o = .error
        ⟨.value, "Tag <" ++ o.place.tag.name ++ "> does not belong to this document"⟩ := by
  intro b d m
  have hn : m.documents[0]? = some (.numbered d 1) := rfl
  have hk : m.documents[1]? = some (.numbered d 4) := rfl
  obtain ⟨-, -, -, -, -, -, hstar, hforeign⟩ := find_of_held hn
  exact ⟨_, _, hn, hk, rfl, rfl, by decide +kernel, hstar, hforeign 1 _ (by decide) hk⟩

end Memory

end VectorLint
