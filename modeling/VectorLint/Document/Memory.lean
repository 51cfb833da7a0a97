import VectorLint.Document.Query

/-!
# Documents in memory

A program may hold several documents, and markup that is written twice makes tags that look alike.
In memory each tag is an object of its own, with an identity that no other object has as long as
both are held. A document in memory knows its elements by the identities of their tags: one walk
over the tags, in document order, makes the elements and enters each under the identity of its tag.

A query selects tags, and each of them is looked up. The tag of another document is not found, so
asking for its element fails.
-/

namespace VectorLint

/-- A tag as an object in memory: its identity, and its place in its document. -/
structure Document.Object where
  identity : Nat
  place : Place

/-- A document in memory, with the identities of its tags in document order. -/
structure Document.Held where
  document : Document
  identities : List Nat
  length_eq : identities.length = document.place.descendants.length
  nodup : identities.Nodup

/-- What one walk over tags makes: the elements, and the element that is entered under each
identity. -/
structure Document.Index where
  elements : List Element := []
  handles : Nat → Option Element := fun _ ↦ none

namespace Document

/-- One more tag is met: its element has the next number. -/
def Index.enter (x : Index) (o : Object) : Index :=
  let e : Element := ⟨x.elements.length, o.place⟩
  { elements := x.elements ++ [e]
    handles := fun identity ↦ if identity = o.identity then some e else x.handles identity }

/-- The failure of asking a document for the element of a tag of another one. -/
def foreign (p : Place) : Failure :=
  ⟨.value, "Tag <" ++ p.tag.name ++ "> does not belong to this document"⟩

namespace Held

/-- The tags of a document in memory, in document order. -/
def objects (h : Held) : List Object :=
  (h.identities.zip h.document.place.descendants).map fun (identity, p) ↦ ⟨identity, p⟩

/-- The elements and their identities. -/
def index (h : Held) : Index := h.objects.foldl Index.enter {}

/-- The element of a tag. -/
def handle (h : Held) (o : Object) : Except Failure Element :=
  match h.index.handles o.identity with
  | some e => .ok e
  | none => .error (foreign o.place)

/-- The tags that match a selector. They are looked at in document order. -/
def select (h : Held) (selector : String) : Except Failure (List Object) := do
  let q ← Query.ofText selector
  let surroundings := h.document.surroundings
  StateT.run' (h.objects.filterM fun o ↦ q.matchesAt surroundings o.place) .empty

/-- The elements of the tags that match a selector. -/
def find (h : Held) (selector : String) : Except Failure (List Element) := do
  (← h.select selector).mapM h.handle

/-- A document whose tags have the identities from a number on. -/
def numbered (d : Document) (first : Nat) : Held where
  document := d
  identities := List.range' first d.place.descendants.length
  length_eq := List.length_range'
  nodup := List.nodup_range'

end Held

end Document

/-- The documents that are held at a time. No two tags in them have one identity. -/
structure Memory where
  documents : List Document.Held
  nodup : (documents.flatMap (·.identities)).Nodup

namespace Memory

/-- No document is held. -/
def empty : Memory := ⟨[], .nil⟩

/-- An identity behind all that are in use. -/
def next (m : Memory) : Nat := (m.documents.flatMap (·.identities)).foldr (max · ·) 0 + 1

theorem lt_next {m : Memory} {identity : Nat} (h : identity ∈ m.documents.flatMap (·.identities)) :
    identity < m.next := by
  rw [next, Nat.lt_succ_iff]
  generalize m.documents.flatMap (·.identities) = identities at h
  induction identities with
  | nil => cases h
  | cons i identities ih =>
    rw [List.foldr_cons]
    rcases List.mem_cons.mp h with rfl | h
    · exact Nat.le_max_left _ _
    · exact Nat.le_trans (ih h) (Nat.le_max_right _ _)

/-- One more document is held, whose tags are given new identities. -/
def hold (m : Memory) (d : Document) : Memory where
  documents := m.documents ++ [.numbered d m.next]
  nodup := by
    rw [List.flatMap_append, List.flatMap_singleton]
    refine List.nodup_append.mpr ⟨m.nodup, List.nodup_range', fun i hi j hj ↦ ?_⟩
    have hle : m.next ≤ j := (List.mem_range'_1.mp hj).1
    exact Nat.ne_of_lt (Nat.lt_of_lt_of_le (lt_next hi) hle)

end Memory

end VectorLint
