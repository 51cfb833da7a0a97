import VectorLint.Proofs.Document.Entities
import VectorLint.Proofs.Markup.Alike
import VectorLint.Proofs.Markup.Outline

/-!
# What is checked and what is queried

Markup is read twice, once for the check and once for the tree. Elements that the check sees and the
tree does not hold are hidden from every rule. Markup that is read alike hides nothing: its tree is
built from the events that the check has accepted, and so its document has the outline of these
events. In other markup the readings may differ, and then a document may come out empty whose markup
has elements.
-/

namespace VectorLint

open Markup (Source Decoded Event Node Tree unmarked)

namespace Place

theorem map_outline_ofNodes (p : Place) (before : List Node) : ∀ ns : List Node,
    (ofNodes p before ns).map (fun q ↦ (q.tag.name, q.ancestors.length))
      = Node.outlineAll p.ancestors.length ns
  | [] => rfl
  | .text s :: ns => map_outline_ofNodes p (.text s :: before) ns
  | .remark :: ns => map_outline_ofNodes p (.remark :: before) ns
  | .element t cs :: ns => by
    have hinside := map_outline_ofNodes (child p before t cs ns) [] cs
    rw [ofNodes, ofNode, List.map_append, List.map_cons, hinside, map_outline_ofNodes p _ ns]
    rfl

end Place

namespace Document

variable {source : Source} {name : Option String} {d : Document} {text : Decoded}

/-- The elements of a document have the outline of the events from which its tree is built. -/
theorem map_outline_elements (source : Source) (name : Option String) :
    ({ tree := build source, name } : Document).elements.map
        (fun e ↦ (e.name, e.place.ancestors.length))
      = Event.outline 0 source.events := by
  have hplaces := Place.map_outline_ofNodes (.document (build source).nodes) [] (build source).nodes
  rw [show (Place.document (build source).nodes).ancestors.length = 0 from rfl, build,
    Tree.outlineAll_nodes_ofEvents, ← build] at hplaces
  rw [← hplaces, elements, List.map_map, ← List.zipIdx_map_fst 0 (Place.ofNodes _ _ _),
    List.map_map]
  rfl

/-- **What is checked is what is queried.** Where markup is read alike, its document has the
elements that the check has accepted: the same local names in the order in which the elements begin,
each as deep as there. It is not empty, and has a root element. -/
theorem outline_of_ofSource (h : ofSource source name = .ok d) (htext : source.forCheck = .ok text)
    (halike : source.IsReadAlike text) :
    ∃ events, check source name = .ok events
      ∧ d.elements.map (fun e ↦ (e.name, e.place.ancestors.length)) = Event.outline 0 events
      ∧ d.root?.isSome := by
  obtain ⟨text', events, htext', hread, hcheck, rfl⟩ := exists_of_ofSource h
  obtain rfl : text = text' := Except.ok.inj (htext.symm.trans htext')
  have houtline := map_outline_elements source name
  rw [source.events_of_read halike hread] at houtline
  refine ⟨events, hcheck, houtline, ?_⟩
  -- no elements, no outline: but an element begins in whatever is checked without a fault
  have hne : ({ tree := build source, name } : Document).elements ≠ [] := fun hnil ↦ by
    rw [hnil, List.map_nil] at houtline
    exact Decoded.outline_ne_nil hread houtline.symm
  rwa [root?, List.isSome_head?]

/-- ISO 8859-1 in which attributes are declared behind a reference to a parameter entity. -/
theorem outline_of_ofSource_latin :
    let source : Source := .octets (String.toList ("<?xml version=\"1.0\" encoding=\"iso-8859-1\" "
      ++ "standalone=\"yes\"?><!DOCTYPE a [<!ELEMENT a ((b|c)*,d?)>%p;<!ATTLIST b x CDATA \"é\">]>"
      ++ "<a><b>]]&gt;</b><![CDATA[<c/>]]><d/></a>") |>.map fun c ↦ UInt8.ofNat c.toNat)
    ∃ d text, ofSource source none = .ok d ∧ source.forCheck = .ok text ∧ source.IsReadAlike text
      ∧ ∃ events, check source none = .ok events
        ∧ d.elements.map (fun e ↦ (e.name, e.place.ancestors.length)) = Event.outline 0 events
        ∧ d.root?.isSome := by
  intro source
  have hok : (ofSource source none).isOk = true := by decide +kernel
  have halike : (source.forCheck.toOption.any fun text ↦ source.IsReadAlike text) = true := by
    decide +kernel
  clear_value source
  cases hd : ofSource source none with
  | error e => rw [hd] at hok; cases hok
  | ok d =>
    cases htext : source.forCheck with
    | error f => rw [htext] at halike; cases halike
    | ok text =>
      rw [htext] at halike
      rw [Except.toOption, Option.any_some, decide_eq_true_eq] at halike
      exact ⟨d, text, rfl, rfl, halike, outline_of_ofSource hd htext halike⟩

/-- An instruction in the first line names an encoding for the tree and none for the check: two
elements are checked, and the document is empty. -/
theorem root?_eq_none_of_named_encoding :
    let source : Source :=
      .octets (Text.Utf8.encode "<?p encoding=\"utf-16\"?><r a=\"x\"><b>x</b></r>".toList)
    ∃ d events, ofSource source none = .ok d ∧ check source none = .ok events
      ∧ Event.outline 0 events = [("r", 1), ("b", 2)] ∧ d.elements.length = 0
      ∧ d.root?.isNone := by
  intro source
  have hcheck : (check source none).toOption.map (Event.outline 0)
      = some [("r", 1), ("b", 2)] := by
    decide +kernel
  have hlength : (ofSource source none).toOption.map (fun d ↦ d.elements.length) = some 0 := by
    decide +kernel
  cases hd : ofSource source none with
  | error e => rw [hd] at hlength; cases hlength
  | ok d =>
    cases hevents : check source none with
    | error e => rw [hevents] at hcheck; cases hcheck
    | ok events =>
      rw [hevents] at hcheck
      rw [hd] at hlength
      have hnil := List.eq_nil_of_length_eq_zero (Option.some.inj hlength)
      exact ⟨d, events, rfl, rfl, Option.some.inj hcheck, Option.some.inj hlength,
        by rw [root?, hnil]; rfl⟩

end Document

end VectorLint
