import Mathlib.Data.List.Nodup
import VectorLint.Document.Query

/-!
# What a selector matches

A query looks at the elements of a document one after the other and keeps some of them, so whatever
it remembers in between, it finds a sublist of the elements. Since no two elements of a document
have one number, the sublist is known from the numbers in it: what a selector matches is a filter of
the elements, which puts document order and the absence of repetitions into the definition.
-/

namespace VectorLint

/-! ## Filters that remember -/

private theorem sublist_of_filterAuxM {σ ε α : Type} {p : α → StateT σ (Except ε) Bool}
    {xs acc ys : List α} {s s' : σ}
    (h : List.filterAuxM p xs acc s = .ok (ys, s')) : ys.reverse.Sublist (acc.reverse ++ xs) := by
  induction xs generalizing acc s with
  | nil =>
    cases h
    rw [List.append_nil]
  | cons x xs ih =>
    simp only [List.filterAuxM, bind, StateT.bind, Except.bind] at h
    split at h
    · cases h
    · rename_i kept hp
      have hsub := ih h
      cases hk : kept.1 with
      -- what is kept stands in the accumulator, the last item first
      | true => simpa [hk] using hsub
      | false =>
        rw [hk] at hsub
        exact hsub.trans ((List.sublist_cons_self x xs).append_left acc.reverse)

theorem sublist_of_filterM {σ ε α : Type} {p : α → StateT σ (Except ε) Bool} {xs ys : List α}
    {s : σ} (h : (xs.filterM p).run' s = .ok ys) : ys.Sublist xs := by
  simp only [List.filterM, StateT.run', bind, StateT.bind, Except.bind, Functor.map,
    Except.map] at h
  split at h
  · cases h
  · rename_i out hout
    split at hout
    · cases hout
    · rename_i kept haux
      cases hout
      cases h
      simpa using sublist_of_filterAuxM haux

theorem filter_any_key_eq_of_sublist {α β : Type} [DecidableEq β] (key : α → β) {xs ys : List α}
    (h : xs.Sublist ys) (hn : (ys.map key).Nodup) :
    ys.filter (fun y ↦ xs.any fun x ↦ key x = key y) = xs := by
  induction h with
  | slnil => rfl
  | @cons xs ys y h ih =>
    rw [List.map_cons, List.nodup_cons] at hn
    have hy : (xs.any fun x ↦ key x = key y) = false := by
      refine List.any_eq_false.mpr fun x hx hkey ↦ ?_
      exact hn.1 (of_decide_eq_true hkey ▸ List.mem_map_of_mem (h.subset hx))
    rw [List.filter_cons, hy, ih hn.2]
    rfl
  | @cons_cons xs ys x h ih =>
    rw [List.map_cons, List.nodup_cons] at hn
    have hcongr : ∀ y ∈ ys, ((x :: xs).any fun x ↦ key x = key y)
        = xs.any fun x ↦ key x = key y := by
      intro y hy
      have hne : key x ≠ key y := fun he ↦ hn.1 (he ▸ List.mem_map_of_mem hy)
      rw [List.any_cons, decide_eq_false hne, Bool.false_or]
    rw [List.filter_cons_of_pos (by simp), List.filter_congr hcongr, ih hn.2]

namespace Document

variable {d : Document}

/-! ## Numbers of elements -/

theorem map_index_elements (d : Document) :
    d.elements.map (·.index) = List.range' 0 d.elements.length := by
  rw [elements, List.map_map, List.length_map, List.length_zipIdx, ← List.zipIdx_map_snd]
  rfl

theorem nodup_map_index_elements (d : Document) : (d.elements.map (·.index)).Nodup := by
  rw [map_index_elements]
  exact List.nodup_range'

/-- Elements of one document are told apart by their numbers. -/
theorem eq_of_index_eq {e e' : Element} (he : e ∈ d.elements) (he' : e' ∈ d.elements)
    (h : e.index = e'.index) : e = e' :=
  List.inj_on_of_nodup_map (nodup_map_index_elements d) he he' h

/-! ## Matches -/

/-- Whether an element is among those that a selector finds. A selector that is rejected finds
none. -/
def isMatch (d : Document) (selector : String) (e : Element) : Bool :=
  match d.find selector with
  | .ok found => found.any fun f ↦ f.index = e.index
  | .error _ => false

/-- The elements of a document that match a selector, in document order. -/
def matched (d : Document) (selector : String) : List Element :=
  d.elements.filter (d.isMatch selector)

theorem sublist_of_find {selector : String} {found : List Element}
    (h : d.find selector = .ok found) : found.Sublist d.elements := by
  simp only [find, bind, Except.bind] at h
  split at h
  · cases h
  · exact sublist_of_filterM h

/-- A query finds the elements that match, each once, in document order. -/
theorem eq_matched_of_find {selector : String} {found : List Element}
    (h : d.find selector = .ok found) : found = d.matched selector := by
  have hmatch : d.isMatch selector = fun e ↦ found.any fun f ↦ f.index = e.index := by
    funext e
    rw [isMatch, h]
  rw [matched, hmatch,
    filter_any_key_eq_of_sublist (·.index) (sublist_of_find h) (nodup_map_index_elements d)]

theorem find_eq_ok_matched {selector : String} (h : (d.find selector).isOk = true) :
    d.find selector = .ok (d.matched selector) := by
  cases hf : d.find selector with
  | ok found => rw [← eq_matched_of_find hf]
  | error f =>
    rw [hf] at h
    cases h

theorem matched_of_find_error {selector : String} {f : Failure}
    (h : d.find selector = .error f) : d.matched selector = [] := by
  refine List.filter_eq_nil_iff.mpr fun e _ ↦ ?_
  rw [isMatch, h]
  exact Bool.false_ne_true

/-- An element matches if one with its number is found. -/
theorem isMatch_iff {selector : String} {e : Element} :
    d.isMatch selector e = true ↔ ∃ f ∈ d.matched selector, f.index = e.index := by
  cases h : d.find selector with
  | ok found => rw [← eq_matched_of_find h, isMatch, h, List.any_eq_true]; simp
  | error f => rw [matched_of_find_error h, isMatch, h]; simp

end Document

end VectorLint
