import VectorLint.Markup.Tree
import VectorLint.Proofs.Markup.Reading

/-!
# Building the tree of a draft

Which texts stand between two tags depends on how a draft is written, but no element depends on
them. So trees are compared bare, without texts and remarks: a builder made bare does with the
events of tags what the builder does with all events. From the events of a draft it builds the
elements of the draft, by induction along the draft and with the elements around it as they come.
-/

namespace VectorLint.Markup

/-! ## Bare trees -/

mutual

/-- A node without the texts and remarks in it: nothing is left of a text or a remark. -/
def Node.bare : Node → List Node
  | .element t cs => [.element t (bareAll cs)]
  | .text _ => []
  | .remark => []

/-- Nodes without texts and remarks. -/
def Node.bareAll : List Node → List Node
  | [] => []
  | n :: ns => n.bare ++ bareAll ns

end

namespace Node

theorem bareAll_append (ns ms : List Node) : bareAll (ns ++ ms) = bareAll ns ++ bareAll ms := by
  induction ns with
  | nil => rfl
  | cons n ns ih => rw [List.cons_append, bareAll, bareAll, ih, List.append_assoc]

theorem bareAll_reverse (ns : List Node) : bareAll ns.reverse = (bareAll ns).reverse := by
  induction ns with
  | nil => rfl
  | cons n ns ih =>
    have hone : bareAll [n] = n.bare.reverse := by
      cases n <;> rfl
    rw [List.reverse_cons, bareAll_append, ih, hone, bareAll, List.reverse_append]

end Node

namespace Tree

/-- An open element without the texts and remarks in it. -/
def Opened.bare (e : Opened) : Opened := { e with children := Node.bareAll e.children }

namespace Builder

/-- What is built without the texts and remarks in it. -/
def bare (b : Builder) : Builder :=
  { b with opened := b.opened.map Opened.bare, pending := [], nodes := Node.bareAll b.nodes }

theorem bare_add_of_bare_eq_nil {n : Node} (hn : n.bare = []) (b : Builder) :
    (b.add n).bare = b.bare := by
  obtain ⟨opened, pending, nodes, namespaces⟩ := b
  cases opened with
  | nil => rfl
  | cons e outer =>
    simp only [add, bare, List.map_cons, Opened.bare, Node.bareAll, hn, List.nil_append]

theorem bare_endText (b : Builder) : b.endText.bare = b.bare := by
  have htext : (textNode b.pending.reverse).bare = [] := by
    rw [textNode]
    split <;> rfl
  rw [endText]
  split
  · rfl
  · exact bare_add_of_bare_eq_nil htext b

theorem endText_bare (b : Builder) : b.bare.endText = b.bare := rfl

theorem bare_step_of_not_isTag {e : Event} (he : e.isTag = false) (b : Builder) :
    (b.step e).bare = b.bare := by
  cases e with
  | opening name attributes bindings => cases he
  | closing => cases he
  | text cs => rfl
  | remark => exact (bare_add_of_bare_eq_nil rfl _).trans (bare_endText b)

theorem bare_step_of_isTag {e : Event} (he : e.isTag = true) (b : Builder) :
    (b.step e).bare = b.bare.step e := by
  cases e with
  | opening name attributes bindings =>
    rw [step, step, endText_bare, ← bare_endText b]
    simp only [bare, List.map_map]
    rfl
  | closing =>
    rw [step, step, endText_bare, ← bare_endText b]
    obtain ⟨opened, pending, nodes, namespaces⟩ := b.endText
    rcases opened with _ | ⟨e, _ | ⟨e', outer⟩⟩
    · rfl
    · simp only [bare, List.map_cons, List.map_nil, Opened.bare, Node.bareAll_append,
        ← Node.bareAll_reverse]
      rfl
    · simp only [bare, List.map_cons, Opened.bare, add, ← Node.bareAll_reverse]
      rfl
  | text cs => cases he
  | remark => cases he

theorem bare_foldl (es : List Event) (b : Builder) :
    (es.foldl step b).bare = (es.filter Event.isTag).foldl step b.bare := by
  induction es generalizing b with
  | nil => rfl
  | cons e es ih =>
    rw [List.foldl_cons, ih, List.filter_cons]
    split
    · rename_i he
      rw [List.foldl_cons, bare_step_of_isTag he]
    · rename_i he
      rw [bare_step_of_not_isTag (Bool.eq_false_iff.mpr he)]

end Builder

end Tree

/-! ## The elements of a draft -/

namespace Draft

/-- The name and the attributes of an element as they are queried. -/
def tagOf (n : LocalName) (attributes : Attributes) : Tag :=
  ⟨n.text, none, attributes.list.map fun a ↦ ⟨a.name.text, none, a.name.text, a.value.text⟩⟩

mutual

/-- An element as a node, with the elements in it; nothing for a text. -/
def nodes : Draft → List Node
  | element n attributes content => [.element (tagOf n attributes) (nodesOfAll content)]
  | text _ => []

/-- The elements among drafts that stand one behind the other. -/
def nodesOfAll : List Draft → List Node
  | [] => []
  | t :: ts => t.nodes ++ nodesOfAll ts

end

end Draft

namespace Tree

theorem putAttribute_of_notMem {a : Attribute} {found : List Attribute}
    (h : a.name ∉ found.map (·.name)) : putAttribute a found = found ++ [a] := by
  induction found with
  | nil => rfl
  | cons b found ih =>
    rw [List.map_cons, List.mem_cons, not_or] at h
    rw [putAttribute, if_neg (Ne.symm h.1), ih h.2, List.cons_append]

theorem foldl_putAttribute {found as : List Attribute}
    (h : ((found ++ as).map (·.name)).Nodup) :
    as.foldl (fun found a ↦ putAttribute a found) found = found ++ as := by
  induction as generalizing found with
  | nil => rw [List.foldl_nil, List.append_nil]
  | cons a as ih =>
    have hnew : a.name ∉ found.map (·.name) := by
      rw [List.map_append, List.map_cons, List.nodup_append] at h
      exact fun hmem ↦ h.2.2 _ hmem _ List.mem_cons_self rfl
    rw [List.foldl_cons, putAttribute_of_notMem hnew, ih (by rwa [List.append_assoc]),
      List.append_assoc, List.singleton_append]

theorem tagOf_eq (outer : List (List (Option String × String))) (n : LocalName)
    (attributes : Draft.Attributes) :
    tagOf outer ⟨⟨none, n.text⟩, none⟩
        (attributes.pairs.map fun a ↦ (⟨⟨none, a.1⟩, none⟩, a.2)) []
      = Draft.tagOf n attributes := by
  have hall : ((attributes.pairs.map fun a ↦
        ((⟨⟨none, a.1⟩, none⟩, a.2) : FullName × String)).map
          fun a ↦ queried ([] :: outer) a.1 a.2)
      = (Draft.tagOf n attributes).attributes := by
    simp only [Draft.Attributes.pairs, Draft.tagOf, List.map_map]
    rfl
  have hnodup : ((Draft.tagOf n attributes).attributes.map (·.name)).Nodup := by
    rw [Draft.tagOf, List.map_map]
    exact attributes.nodup
  have hput : (Draft.tagOf n attributes).attributes.foldl (fun found a ↦ putAttribute a found) []
      = (Draft.tagOf n attributes).attributes := foldl_putAttribute hnodup
  rw [tagOf, List.map_nil, List.append_nil]
  simp only [hall, hput]
  rfl

namespace Builder

/-- A builder between two tags inside an element. -/
def inside (e : Opened) (outer : List Opened) (nodes : List Node)
    (namespaces : List (String × String)) : Builder := ⟨e :: outer, [], nodes, namespaces⟩

variable (nodes : List Node) (namespaces : List (String × String))

theorem step_closing (e e' : Opened) (outer : List Opened) :
    (inside e (e' :: outer) nodes namespaces).step .closing
      = inside { e' with children := .element e.tag e.children.reverse :: e'.children } outer nodes
        namespaces := rfl

theorem step_begin (n : LocalName) (attributes : Draft.Attributes) (opened : List Opened) :
    step ⟨opened, [], nodes, namespaces⟩ (.begin n.text attributes.pairs)
      = inside ⟨Draft.tagOf n attributes, [], []⟩ opened nodes namespaces := by
  rw [← tagOf_eq (opened.map (·.bindings)) n attributes]
  rfl

mutual

theorem foldl_events (t : Draft) (e : Opened) (outer : List Opened) :
    t.events.foldl step (inside e outer nodes namespaces)
      = inside { e with children := t.nodes.reverse ++ e.children } outer nodes namespaces := by
  cases t with
  | text t => rfl
  | element n attributes content =>
    have hopen : (inside e outer nodes namespaces).step (.begin n.text attributes.pairs)
        = inside ⟨Draft.tagOf n attributes, [], []⟩ (e :: outer) nodes namespaces :=
      step_begin nodes namespaces n attributes (e :: outer)
    rw [Draft.events, List.foldl_cons, hopen, List.foldl_append,
      foldl_eventsOfAll content _ (e :: outer), List.foldl_cons, List.foldl_nil, step_closing,
      List.append_nil, List.reverse_reverse, Draft.nodes, List.reverse_singleton,
      List.singleton_append]

theorem foldl_eventsOfAll (ts : List Draft) (e : Opened) (outer : List Opened) :
    (Draft.eventsOfAll ts).foldl step (inside e outer nodes namespaces)
      = inside { e with children := (Draft.nodesOfAll ts).reverse ++ e.children } outer nodes
        namespaces := by
  cases ts with
  | nil => rfl
  | cons t ts =>
    rw [Draft.eventsOfAll, List.foldl_append, foldl_events t e outer, foldl_eventsOfAll ts _ outer,
      Draft.nodesOfAll, List.reverse_append, List.append_assoc]

end

theorem foldl_events_root (n : LocalName) (attributes : Draft.Attributes) (content : List Draft) :
    (Draft.element n attributes content).events.foldl step initial
      = { initial with nodes := (Draft.element n attributes content).nodes } := by
  rw [Draft.events, List.foldl_cons, initial, step_begin, List.foldl_append, foldl_eventsOfAll,
    List.foldl_cons, List.foldl_nil, Draft.nodes, List.append_nil]
  simp [step, inside, endText]

end Builder

/-- The tree that is built from the events of a draft, with texts and remarks between them, has the
elements of the draft. -/
theorem bareAll_nodes_ofEvents {n : LocalName} {attributes : Draft.Attributes}
    {content : List Draft} {events : List Event}
    (h : events.filter Event.isTag = (Draft.element n attributes content).events) :
    Node.bareAll (ofEvents events).nodes = (Draft.element n attributes content).nodes := by
  have hbare : (events.foldl Builder.step .initial).bare
      = { Builder.initial with nodes := (Draft.element n attributes content).nodes } := by
    rw [Builder.bare_foldl, h]
    exact Builder.foldl_events_root n attributes content
  -- nothing is left open, so the end of the events adds no node
  have hopened : (events.foldl Builder.step .initial).opened = [] := by
    have hmap : (events.foldl Builder.step .initial).opened.map Opened.bare = [] :=
      congrArg Builder.opened hbare
    exact List.map_eq_nil_iff.mp hmap
  have hfinish : (events.foldl Builder.step .initial).finish
      = events.foldl Builder.step .initial := by
    rw [Builder.finish, hopened]
    rfl
  have hnodes : (ofEvents events).nodes = (events.foldl Builder.step .initial).nodes := by
    simp only [ofEvents, hfinish]
  rw [hnodes]
  exact congrArg Builder.nodes hbare

end Tree

end VectorLint.Markup
