import VectorLint.Markup.Tree
import VectorLint.Proofs.Markup.Lockstep

/-!
# The outline of a document

The outline of a document is what there is to know of its elements but for their attributes: the
local names in the order in which the elements begin, each with the number of elements that are open
then. It can be read off the events of a document and off its tree, and building the tree keeps it.
That is so for any events, also for those of a reading that stopped halfway: what a builder has so
far, the finished nodes and the open elements with what is in them, has the outline of the events so
far.
-/

namespace VectorLint.Markup

/-! ## Events and nodes -/

/-- Whether an event is the beginning of an element. -/
def Event.isOpening : Event → Bool
  | .opening .. => true
  | _ => false

/-- The number of open elements behind an event. -/
def Event.depthBehind (depth : Nat) : Event → Nat
  | .opening .. => depth + 1
  | .closing => depth - 1
  | .text _ => depth
  | .remark => depth

/-- What an event adds to the outline. -/
def Event.entry (depth : Nat) : Event → List (String × Nat)
  | .opening name _ _ => [(name.name.base, depth + 1)]
  | .closing => []
  | .text _ => []
  | .remark => []

/-- The outline of events that begin inside `depth` open elements. -/
def Event.outline (depth : Nat) : List Event → List (String × Nat)
  | [] => []
  | e :: es => e.entry depth ++ outline (e.depthBehind depth) es

mutual

/-- The outline of a node inside `depth` elements. -/
def Node.outline (depth : Nat) : Node → List (String × Nat)
  | .element t cs => (t.name, depth + 1) :: outlineAll (depth + 1) cs
  | .text _ => []
  | .remark => []

/-- The outline of nodes inside `depth` elements. -/
def Node.outlineAll (depth : Nat) : List Node → List (String × Nat)
  | [] => []
  | n :: ns => n.outline depth ++ outlineAll depth ns

end

theorem Event.outline_replicate_closing (depth n : Nat) :
    outline depth (List.replicate n .closing) = [] := by
  induction n generalizing depth with
  | zero => rfl
  | succ n ih => exact ih (depth - 1)

theorem Event.outline_ne_nil {depth : Nat} {es : List Event} {e : Event} (he : e ∈ es)
    (hopening : e.isOpening = true) : outline depth es ≠ [] := by
  induction es generalizing depth with
  | nil => cases he
  | cons e' es ih =>
    rw [outline]
    rcases List.mem_cons.mp he with rfl | he
    · cases e with
      | opening => exact List.cons_ne_nil _ _
      | _ => cases hopening
    · exact List.append_ne_nil_of_right_ne_nil _ (ih he)

theorem Node.outlineAll_append (depth : Nat) (ns ms : List Node) :
    outlineAll depth (ns ++ ms) = outlineAll depth ns ++ outlineAll depth ms := by
  induction ns with
  | nil => rfl
  | cons n ns ih => rw [List.cons_append, outlineAll, outlineAll, ih, List.append_assoc]

/-! ## Builders -/

namespace Tree

/-- The outline of open elements and of what is in them, the innermost first. -/
def Opened.outlineAll : List Opened → List (String × Nat)
  | [] => []
  | e :: outer =>
    outlineAll outer ++ (e.tag.name, outer.length + 1)
      :: Node.outlineAll (outer.length + 1) e.children.reverse

namespace Builder

/-- The outline of what is built so far. -/
def outline (b : Builder) : List (String × Nat) :=
  Node.outlineAll 0 b.nodes ++ Opened.outlineAll b.opened

private theorem outlineAll_push (e : Opened) (outer : List Opened) (n : Node) :
    Opened.outlineAll ({ e with children := n :: e.children } :: outer)
      = Opened.outlineAll (e :: outer) ++ n.outline (outer.length + 1) := by
  rw [Opened.outlineAll, Opened.outlineAll, List.reverse_cons, Node.outlineAll_append,
    Node.outlineAll, Node.outlineAll, List.append_nil, List.append_assoc, List.cons_append]

variable (b : Builder)

theorem outline_add {n : Node} (hn : ∀ depth, n.outline depth = []) :
    (b.add n).outline = b.outline := by
  rw [add]
  split
  · rfl
  · rename_i e outer hopened
    rw [outline, outline, hopened, outlineAll_push, hn, List.append_nil]

theorem length_opened_add (n : Node) : (b.add n).opened.length = b.opened.length := by
  rw [add]
  split
  · rfl
  · rename_i e outer hopened
    rw [hopened]
    rfl

theorem outline_endText : b.endText.outline = b.outline := by
  have htext (depth : Nat) : (textNode b.pending.reverse).outline depth = [] := by
    rw [textNode]
    split <;> rfl
  rw [endText]
  split
  · rfl
  · exact b.outline_add htext

theorem length_opened_endText : b.endText.opened.length = b.opened.length := by
  rw [endText]
  split
  · rfl
  · exact b.length_opened_add _

theorem length_opened_step (e : Event) :
    (b.step e).opened.length = e.depthBehind b.opened.length := by
  cases e with
  | opening name attributes bindings =>
    rw [Event.depthBehind, ← b.length_opened_endText]
    rfl
  | closing =>
    rw [Event.depthBehind, ← b.length_opened_endText, step]
    obtain ⟨opened, pending, nodes, namespaces⟩ := b.endText
    rcases opened with _ | ⟨e, _ | ⟨e', outer⟩⟩ <;> rfl
  | text cs => rfl
  | remark => exact (length_opened_add _ _).trans b.length_opened_endText

/-- **One event** adds to the outline what it has itself. -/
theorem outline_step (e : Event) :
    (b.step e).outline = b.outline ++ e.entry b.opened.length := by
  cases e with
  | opening name attributes bindings =>
    rw [← b.outline_endText, ← b.length_opened_endText]
    exact (List.append_assoc _ _ _).symm
  | closing =>
    rw [Event.entry, List.append_nil, ← b.outline_endText, step]
    obtain ⟨opened, pending, nodes, namespaces⟩ := b.endText
    rcases opened with _ | ⟨e, _ | ⟨e', outer⟩⟩
    · rfl
    -- the element that ends is the last of the tree, or of the element around it
    · simp only [outline, Node.outlineAll_append, Node.outlineAll, Node.outline,
        Opened.outlineAll, List.append_nil, List.nil_append, List.length_nil]
    · simp only [outline, add, outlineAll_push, Node.outline]
      rw [Opened.outlineAll]
      rfl
  | text cs => exact (List.append_nil _).symm
  | remark =>
    rw [Event.entry, List.append_nil]
    exact (outline_add _ fun _ ↦ rfl).trans b.outline_endText

theorem outline_foldl (es : List Event) :
    (es.foldl step b).outline = b.outline ++ Event.outline b.opened.length es := by
  induction es generalizing b with
  | nil => exact (List.append_nil _).symm
  | cons e es ih =>
    rw [List.foldl_cons, ih, outline_step, length_opened_step, Event.outline, List.append_assoc]

theorem opened_finish : b.finish.opened = [] := by
  have hclose (n : Nat) (b : Builder) :
      ((List.replicate n Event.closing).foldl step b).opened.length = b.opened.length - n := by
    induction n generalizing b with
    | zero => rfl
    | succ n ih =>
      rw [List.replicate_succ, List.foldl_cons, ih, length_opened_step, Event.depthBehind,
        Nat.sub_sub, Nat.add_comm]
  exact List.eq_nil_of_length_eq_zero ((hclose _ _).trans (Nat.sub_self _))

end Builder

/-- **A tree has the outline of its events.** -/
theorem outlineAll_nodes_ofEvents (es : List Event) :
    Node.outlineAll 0 (ofEvents es).nodes = Event.outline 0 es := by
  have hfinish : (es.foldl Builder.step .initial).finish.outline = Event.outline 0 es := by
    rw [Builder.finish, Builder.outline_foldl, Event.outline_replicate_closing, List.append_nil,
      Builder.outline_foldl]
    rfl
  rw [Builder.outline, Builder.opened_finish] at hfinish
  exact (List.append_nil _).symm.trans hfinish

end Tree

/-! ## The root element -/

theorem Doctype.isOpening_of_enter {d : Doctype} {scope : Scope} {start : Nat} {tag : StartTag}
    {p : Scope × Event} (h : d.enter scope start tag = .ok p) : p.2.isOpening = true := by
  simp only [enter, bind, Except.bind, throw, throwThe, MonadExceptOf.throw] at h
  repeat' split at h
  all_goals cases h
  all_goals rfl

namespace Reader

variable {r r₁ : Reader} {c : Char}

/-- Whether the root element has begun, or its tag is being read. -/
def HasRoot (r : Reader) : Prop :=
  (∃ d t, r.mode = .content d [] (.tag t)) ∨ ∃ e ∈ r.events, e.isOpening = true

theorem events_subset_of_step (h : r.step c = .ok r₁) : r.events ⊆ r₁.events := by
  have hgist := gist_eq_of_step h
  cases hm : r.mode with
  | prolog d g s =>
    rw [step, hm, gist_stepProlog] at hgist
    obtain ⟨p, -, hp⟩ := Option.bind_eq_some_iff.mp hgist
    obtain ⟨q, -, hq⟩ := Option.bind_eq_some_iff.mp hp
    obtain ⟨m, -, hm⟩ := Option.map_eq_some_iff.mp hq
    rw [show r₁.events = r.events from congrArg (·.2.2) hm.symm]
    exact List.Subset.refl _
  | content d opened s =>
    rw [gist_step_of_content hm] at hgist
    obtain ⟨⟨s₁, _ | t⟩, -, hp⟩ := Option.bind_eq_some_iff.mp hgist
    · rw [show r₁.events = r.events from congrArg (·.2.2) (Option.some.inj hp).symm]
      exact List.Subset.refl _
    · obtain ⟨q, -, hq⟩ := Option.map_eq_some_iff.mp hp
      rw [show r₁.events = q.2 ++ r.events from congrArg (·.2.2) hq.symm]
      exact List.subset_append_right _ _
  | epilog s =>
    rw [gist_step_of_epilog hm] at hgist
    obtain ⟨s', -, hp⟩ := Option.map_eq_some_iff.mp hgist
    rw [show r₁.events = r.events from congrArg (·.2.2) hp.symm]
    exact List.Subset.refl _

theorem HasRoot.step (h : r.HasRoot) (hr : r.step c = .ok r₁) : r₁.HasRoot := by
  rcases h with ⟨d, t, hm⟩ | ⟨e, he, hopening⟩
  · have hgist := gist_eq_of_step hr
    rw [gist_step_of_content hm, Content.State.step] at hgist
    cases hmove : t.step r.writing r.offset c with
    | more t' =>
      rw [hmove] at hgist
      exact .inl ⟨d, t', congrArg Prod.fst (Option.some.inj hgist).symm⟩
    | invalid => rw [hmove] at hgist; cases hgist
    | done tag =>
      rw [hmove] at hgist
      obtain ⟨q, hq, hp⟩ := Option.map_eq_some_iff.mp hgist
      rw [accept_eq_map] at hq
      cases henter : d.enter (scopeInside []) (r.atToken (.tag t)).start tag with
      | error f => rw [henter] at hq; cases hq
      | ok p =>
        rw [henter] at hq
        refine .inr ⟨p.2, ?_, Doctype.isOpening_of_enter henter⟩
        rw [show r₁.events = q.2 ++ r.events from congrArg (·.2.2) hp.symm]
        refine List.mem_append_left _ ?_
        rw [← Option.some.inj hq]
        split <;> simp
  · exact .inr ⟨e, events_subset_of_step hr he, hopening⟩

theorem HasRoot.run (h : r.HasRoot) (cs : List Char) : (r.run cs).1.HasRoot := by
  induction cs generalizing r with
  | nil => exact h
  | cons c cs ih =>
    cases hr : r.step c with
    | error f =>
      rw [run_cons_of_error hr]
      exact h
    | ok r' =>
      rw [run_cons_of_ok hr]
      exact ih (h.step hr)

end Reader

/-- In a document without a fault an element begins. -/
theorem Decoded.outline_ne_nil {text : Decoded} {events : List Event}
    (h : text.read = .ok events) : Event.outline 0 events ≠ [] := by
  obtain ⟨d, g, c, rest, -, -, -, -, r, r₁, hr, hrun, hr₁, rfl⟩ := Decoded.exists_of_read h
  have hroot : r.HasRoot := .inl ⟨d, _, congrArg Prod.fst hr⟩
  have hroot₁ := hroot.run rest
  rw [hrun] at hroot₁
  rcases hroot₁ with ⟨d, t, hm⟩ | ⟨e, he, hopening⟩
  · rw [hr₁] at hm
    cases hm
  · exact Event.outline_ne_nil (List.mem_reverse.mpr he) hopening

end VectorLint.Markup
