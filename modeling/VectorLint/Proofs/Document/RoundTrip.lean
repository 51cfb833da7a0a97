import VectorLint.Proofs.Markup.Building
import VectorLint.Proofs.Markup.Sources

/-!
# A draft and its document

The document of what is written of a draft has the elements of the draft: as many, in the order in
which they begin, with the names, attributes and paths that they have there. Reading ends and tree
building begins with the events of tags, and those agree; so what is left is to list a tree. Texts
and remarks do not show in the listing, because paths count elements, and the listing of the bare
tree of a draft is the listing of the draft.
-/

namespace VectorLint

open Markup (Node Draft Hand LocalName Source)

namespace Place

/-- The steps that lead to a place from the document. -/
def steps : Place → List (String × Nat)
  | document _ => []
  | child p before t _ _ =>
    p.steps ++ [(t.name, (before.countP fun n ↦ nameOf? n = some t.name) + 1)]

/-- What is known of the element at a place. -/
def entry (p : Place) : Draft.Entry :=
  ⟨p.tag.name, p.tag.attributes.map fun a ↦ (a.name, a.value), p.steps⟩

/-- The path of an element is written of its steps. -/
theorem path_entry (p : Place) : p.entry.path = p.path := by
  rw [Draft.Entry.path, entry]
  induction p with
  | document nodes => rfl
  | child p before t cs after ih =>
    rw [steps, List.map_append, List.map_singleton, String.join_append, ih, path]
    simp only [String.join_cons, String.join_nil, String.append_empty, String.append_assoc]

/-! ## Bare trees -/

theorem filterMap_nameOf?_bareAll (ns : List Node) :
    (Node.bareAll ns).filterMap nameOf? = ns.filterMap nameOf? := by
  induction ns with
  | nil => rfl
  | cons n ns ih =>
    rw [Node.bareAll, List.filterMap_append, ih, List.filterMap_cons]
    cases n <;> rfl

theorem countP_nameOf? (name : String) (ns : List Node) :
    (ns.countP fun n ↦ nameOf? n = some name) = (ns.filterMap nameOf?).count name := by
  rw [List.count, List.countP_filterMap]
  refine List.countP_congr fun n _ ↦ ?_
  cases nameOf? n <;> simp

theorem steps_child (p : Place) (before : List Node) (t : Markup.Tag) (cs after : List Node) :
    (child p before t cs after).steps
      = p.steps ++ [(t.name, (before.filterMap nameOf?).count t.name + 1)] := by
  rw [steps, countP_nameOf?]

theorem map_entry_ofNodes_bareAll (p p' : Place) (h : p.steps = p'.steps) (before : List Node) :
    ∀ ns : List Node, (ofNodes p before ns).map entry
      = (ofNodes p' (Node.bareAll before) (Node.bareAll ns)).map entry
  | [] => rfl
  | .text s :: ns => map_entry_ofNodes_bareAll p p' h (.text s :: before) ns
  | .remark :: ns => map_entry_ofNodes_bareAll p p' h (.remark :: before) ns
  | .element t cs :: ns => by
    have hsteps : (child p before t cs ns).steps
        = (child p' (Node.bareAll before) t (Node.bareAll cs) (Node.bareAll ns)).steps := by
      rw [steps_child, steps_child, h, filterMap_nameOf?_bareAll]
    have hrest := map_entry_ofNodes_bareAll p p' h (.element t cs :: before) ns
    have hinside := map_entry_ofNodes_bareAll _ _ hsteps [] cs
    rw [ofNodes, ofNode, Node.bareAll, Node.bare, List.singleton_append, ofNodes, ofNode]
    simp only [List.map_append, List.map_cons]
    rw [hrest, hinside, entry, entry, hsteps]
    rfl

theorem map_entry_ofNodes_nodesOfAll (p : Place) (before : List Node) :
    ∀ ts : List Draft, (ofNodes p before (Draft.nodesOfAll ts)).map entry
      = Draft.entriesOfAll p.steps (before.filterMap nameOf?) ts
  | [] => rfl
  | .text t :: ts => map_entry_ofNodes_nodesOfAll p before ts
  | .element n attributes content :: ts => by
    have hentry : (child p before (Draft.tagOf n attributes) (Draft.nodesOfAll content)
        (Draft.nodesOfAll ts)).entry = ⟨n.text, attributes.pairs,
          p.steps ++ [(n.text, (before.filterMap nameOf?).count n.text + 1)]⟩ := by
      rw [entry, steps_child]
      simp only [tag, Draft.tagOf, List.map_map]
      rfl
    rw [Draft.nodesOfAll, Draft.nodes, List.singleton_append, ofNodes, ofNode]
    simp only [List.map_append, List.map_cons]
    rw [map_entry_ofNodes_nodesOfAll _ _ ts, map_entry_ofNodes_nodesOfAll _ _ content, hentry,
      Draft.entriesOfAll, Draft.entries, steps_child]
    rfl

end Place

namespace Document

variable {source : Source} {h : Hand} {n : LocalName} {attributes : Draft.Attributes}
  {content : List Draft}

/-- **What is written of a draft has a document**, and its elements are those of the draft: in the
order in which they begin, numbered in this order, with the same names, the same attributes in the
same order, and the paths that they have in the draft. -/
theorem ofSource_written
    (hsource : source.toOctets
      = Text.Utf8.encode ((Draft.element n attributes content).written h)) (name : Option String) :
    ∃ d, ofSource source name = .ok d ∧
      d.elements.map (fun e ↦
          (e.index, e.name, e.attributes.map (fun a ↦ (a.name, a.value)), e.path))
        = ((Draft.element n attributes content).entries [] []).zipIdx.map fun (e, i) ↦
          (i, e.name, e.attributes, e.path) := by
  obtain ⟨events, hcheck⟩ := Draft.check_eq_ok hsource name
  refine ⟨{ tree := build source, name }, ?_, ?_⟩
  · rw [ofSource, hcheck]
    rfl
  · have hnodes := Markup.Tree.bareAll_nodes_ofEvents (Draft.events_of_source hsource)
    have hentries : (Place.descendants (.document (build source).nodes)).map Place.entry
        = (Draft.element n attributes content).entries [] [] := by
      have hall : (Draft.element n attributes content).nodes
          = Draft.nodesOfAll [.element n attributes content] := by
        rw [Draft.nodesOfAll, Draft.nodesOfAll, List.append_nil]
      rw [Place.descendants, Place.map_entry_ofNodes_bareAll _ _ rfl, Place.nodes, build, hnodes,
        hall, Place.map_entry_ofNodes_nodesOfAll, Draft.entriesOfAll, Draft.entriesOfAll,
        List.append_nil]
      rfl
    rw [← hentries, List.zipIdx_map, elements, List.map_map, List.map_map]
    refine List.map_congr_left fun (p, i) _ ↦ ?_
    simp only [Function.comp, Prod.map, Place.path_entry]
    rfl

/-- An attribute with a tab, quotes and markup in its value, two elements of one name with a text
between them, and an element in the second of them. -/
theorem ofSource_written_nested :
    let g : LocalName := ⟨'g', [], rfl, List.all_eq_true.mp rfl⟩
    let path : LocalName := ⟨'é', ['1'], rfl, List.all_eq_true.mp rfl⟩
    let title : Draft.Attribute := ⟨⟨'t', [], rfl, List.all_eq_true.mp rfl⟩,
      ⟨['a', '\t', '"', '<', 'é'], List.all_eq_true.mp rfl⟩, by decide +kernel⟩
    let content : List Draft := [.element g ⟨[], .nil⟩ [],
      .text ⟨['x', '&', '\r'], List.all_eq_true.mp rfl⟩,
      .element g ⟨[], .nil⟩ [.element path ⟨[], .nil⟩ []]]
    let draft : Draft := .element g ⟨[title], List.pairwise_singleton _ _⟩ content
    let source := "<g t=\"a&#9;&quot;&lt;é\"><g/>x&amp;\r<g><é1/></g></g>"
    Text.Utf8.encode source.toList = Text.Utf8.encode (draft.written ⟨fun _ ↦ false, false⟩) ∧
      ∃ d, ofSource (.text source) none = .ok d ∧
        d.elements.map (fun e ↦
            (e.index, e.name, e.attributes.map (fun a ↦ (a.name, a.value)), e.path))
          = [(0, "g", [("t", "a\t\"<é")], "/g[1]"), (1, "g", [], "/g[1]/g[1]"),
            (2, "g", [], "/g[1]/g[2]"), (3, "é1", [], "/g[1]/g[2]/é1[1]")] := by
  intro g path title content draft source
  have hsource : (Markup.Source.text source).toOctets
      = Text.Utf8.encode (draft.written ⟨fun _ ↦ false, false⟩) := by decide +kernel
  obtain ⟨d, hd, helements⟩ := ofSource_written hsource none
  refine ⟨hsource, d, hd, helements.trans ?_⟩
  decide +kernel

/-- Whether a name without a colon may begin with a character by the fifth edition of XML 1.0. -/
def isLaterNameStart (c : Char) : Bool :=
  [(0x41, 0x5A), (0x5F, 0x5F), (0x61, 0x7A), (0xC0, 0xD6), (0xD8, 0xF6), (0xF8, 0x2FF),
    (0x370, 0x37D), (0x37F, 0x1FFF), (0x200C, 0x200D), (0x2070, 0x218F), (0x2C00, 0x2FEF),
    (0x3001, 0xD7FF), (0xF900, 0xFDCF), (0xFDF0, 0xFFFD), (0x10000, 0xEFFFF)].any
      fun (low, high) ↦ low ≤ c.toNat && c.toNat ≤ high

/-- An element with a name of the fifth edition has no document. -/
theorem ofSource_of_later_name :
    isLaterNameStart 'ሀ' = true
      ∧ ((ofSource (.text "<ሀ/>") none).mapError (·.failure)).map (fun _ ↦ ())
        = .error ⟨.document,
          "Invalid XML in source: not well-formed (invalid token): line 1, column 1"⟩ := by
  decide +kernel

end Document

end VectorLint
