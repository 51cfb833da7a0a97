import VectorLint.Proofs.Markup.Lockstep

/-!
# Documents read wherever they begin

The places that a reader keeps tell where a fault is and nothing else. So a document is read behind
a byte order mark as it is read without one: character by character both readers are in the same
state, but for places, and where one of them finds a fault, so does the other.
-/

namespace VectorLint.Markup

theorem toOption_map {ε α β : Type} (f : α → β) (x : Except ε α) :
    (x.map f).toOption = x.toOption.map f := by
  cases x <;> rfl

/-! ## The beginning of an element -/

namespace Doctype

variable (d : Doctype) (start start' : Nat) (scope : Scope)

theorem toOption_addBindings (bindings : List (Option String × String)) :
    (d.addBindings start scope bindings).toOption
      = (d.addBindings start' scope bindings).toOption := by
  rw [addBindings, addBindings]
  split
  · rfl
  · induction bindings generalizing scope with
    | nil => rfl
    | cons b bs ih =>
      rw [List.foldlM_cons, List.foldlM_cons]
      cases hb : scope.bind b.1 b.2 with
      | error p =>
        simp only [hb]
        rfl
      | ok scope =>
        simp only [hb]
        exact ih scope

/-- **An element** may begin or not wherever it stands, and begins alike. -/
theorem toOption_enter (tag : StartTag) :
    (d.enter scope start tag).toOption = (d.enter scope start' tag.unplaced).toOption := by
  have hname : tag.unplaced.name = tag.name := rfl
  have hattributes : tag.unplaced.attributes = tag.attributes.map RawAttribute.unplaced := rfl
  rw [enter, enter, hname, hattributes, toOption_bind, toOption_bind,
    toOption_readAttributes (Eq.refl d.isPartial) start start']
  refine congrArg _ (funext fun q ↦ ?_)
  rw [toOption_bind, toOption_bind, d.toOption_addBindings start start']
  refine congrArg _ (funext fun scope ↦ ?_)
  simp only
  repeat' split
  all_goals rfl

end Doctype

/-! ## One character -/

/-- Where a reader is, without places. -/
def Mode.unplaced : Mode → Mode
  | .content d opened s => .content d opened s.unplaced
  | m => m

theorem Mode.eq_prolog {m : Mode} {d : Doctype} {g : Doctype.Grammar} {s : Prolog.State}
    (h : m.unplaced = .prolog d g s) : m = .prolog d g s := by
  cases m with
  | content d opened s => cases h
  | _ => exact h

theorem Mode.eq_epilog {m : Mode} {s : Prolog.State} (h : m.unplaced = .epilog s) :
    m = .epilog s := by
  cases m with
  | content d opened s => cases h
  | _ => exact h

namespace Reader

/-- What a reader has found, without places. -/
def view (r : Reader) : Mode × Writing × List Event := (r.mode.unplaced, r.writing, r.events)

theorem toOption_accept (r r' : Reader) (d : Doctype) (opened : List OpenElement)
    (t : Content.Token) :
    (r.accept d opened t).toOption = (r'.accept d opened t.unplaced).toOption := by
  cases t with
  | start tag =>
    have hempty : tag.unplaced.isEmpty = tag.isEmpty := rfl
    have hname : tag.unplaced.name = tag.name := rfl
    rw [Content.Token.unplaced, accept_eq_map, accept_eq_map, toOption_map, toOption_map,
      d.toOption_enter r.start r'.start, hempty, hname]
  | close name =>
    simp only [Content.Token.unplaced, accept]
    repeat' split
    all_goals rfl
  | reference ref =>
    cases ref <;> simp only [Content.Token.unplaced, accept] <;> repeat' split
    all_goals rfl
  | remark rem => cases rem <;> rfl
  | text cs => rfl

variable {r r' : Reader}

theorem unplaced_behindToken (d : Doctype) (opened : List OpenElement) (s : Content.State) :
    (behindToken d opened s).unplaced = behindToken d opened s.unplaced := by
  rw [behindToken, behindToken]
  split <;> rfl

private theorem map_view_step_of_content {d : Doctype} {opened : List OpenElement}
    {s s' : Content.State} (hm : r.mode = .content d opened s)
    (hm' : r'.mode = .content d opened s') (hs : s.unplaced = s'.unplaced)
    (hwriting : r.writing = r'.writing) (hevents : r.events = r'.events) (c : Char) :
    (r.step c).toOption.map view = (r'.step c).toOption.map view := by
  have hview : view = (fun p ↦ (p.1.unplaced, p.2)) ∘ gist := rfl
  have hsteps := s.unplaced_step r.writing r.offset c
  rw [hs, ← s'.unplaced_step r.writing r'.offset c, hwriting] at hsteps
  rw [hview, ← Option.map_map, ← Option.map_map, gist_step_of_content hm, gist_step_of_content hm',
    hwriting, hevents]
  revert hsteps
  -- both come to the same: a fault, a state, or a state and a token
  rcases s.step r'.writing r.offset c with f | ⟨s₁, t⟩ <;>
    rcases s'.step r'.writing r'.offset c with f' | ⟨s₁', t'⟩ <;>
    intro hsteps <;> try first | rfl | cases hsteps
  obtain ⟨hstate, htoken⟩ := Prod.mk.inj (Option.some.inj hsteps)
  have hsome (p : Content.State × Option Content.Token) :
      (Except.ok p : Content.Next).toOption = some p := rfl
  simp only [hsome, Option.bind_some]
  cases t with
  | none =>
    cases t' with
    | some t' => cases htoken
    | none => simp only [Option.map_some, Mode.unplaced, hstate]
  | some t =>
    cases t' with
    | none => cases htoken
    | some t' =>
      have haccept : ((r.atToken s).accept d opened t).toOption
          = ((r'.atToken s').accept d opened t').toOption := by
        rw [toOption_accept _ (r'.atToken s'), Option.some.inj htoken, ← toOption_accept]
      simp only [Option.map_map, haccept]
      refine congrArg (Option.map · _) (funext fun q ↦ ?_)
      simp only [Function.comp_apply, unplaced_behindToken, hstate]

/-- **One character** is read alike wherever it stands. -/
theorem map_view_step (h : r.view = r'.view) (c : Char) :
    (r.step c).toOption.map view = (r'.step c).toOption.map view := by
  obtain ⟨hmode, h'⟩ := Prod.mk.inj h
  obtain ⟨hwriting, hevents⟩ := Prod.mk.inj h'
  have hgist {x y : Except Fault Reader} (hxy : x.toOption.map gist = y.toOption.map gist) :
      x.toOption.map view = y.toOption.map view := by
    have hview : view = (fun p ↦ (p.1.unplaced, p.2)) ∘ gist := rfl
    rw [hview, ← Option.map_map, ← Option.map_map, hxy]
  cases hm : r.mode with
  | prolog d g s =>
    have hm' : r'.mode = .prolog d g s := Mode.eq_prolog (by rw [← hmode, hm]; rfl)
    refine hgist ?_
    rw [step, step, hm, hm', gist_stepProlog, gist_stepProlog, hwriting, hevents]
  | epilog s =>
    have hm' : r'.mode = .epilog s := Mode.eq_epilog (by rw [← hmode, hm]; rfl)
    refine hgist ?_
    rw [gist_step_of_epilog hm, gist_step_of_epilog hm', hwriting, hevents]
  | content d opened s =>
    obtain ⟨s', hm', hs⟩ : ∃ s', r'.mode = .content d opened s' ∧ s.unplaced = s'.unplaced := by
      rw [hm] at hmode
      cases hm' : r'.mode with
      | content d' opened' s' =>
        rw [hm'] at hmode
        obtain ⟨rfl, rfl, hs⟩ := Mode.content.inj hmode
        exact ⟨s', rfl, hs⟩
      | _ => rw [hm'] at hmode; cases hmode
    exact map_view_step_of_content hm hm' hs hwriting hevents c

/-- **Many characters** are read alike wherever they stand. -/
theorem view_run (h : r.view = r'.view) (cs : List Char) :
    (r.run cs).1.view = (r'.run cs).1.view ∧ (r.run cs).2.isNone = (r'.run cs).2.isNone := by
  induction cs generalizing r r' with
  | nil => exact ⟨h, rfl⟩
  | cons c cs ih =>
    have hstep := map_view_step h c
    cases hr : r.step c with
    | error f =>
      cases hr' : r'.step c with
      | error f' =>
        rw [run_cons_of_error hr, run_cons_of_error hr']
        exact ⟨h, rfl⟩
      | ok r₁' => rw [hr, hr'] at hstep; cases hstep
    | ok r₁ =>
      cases hr' : r'.step c with
      | error f' => rw [hr, hr'] at hstep; cases hstep
      | ok r₁' =>
        rw [hr, hr'] at hstep
        rw [run_cons_of_ok hr, run_cons_of_ok hr']
        exact ih (Option.some.inj hstep)

end Reader

/-! ## Whole documents -/

theorem unmarked_unmarked_of_read {text : Decoded} {events : List Event}
    (h : text.read = .ok events) (hwriting : text.writing = .octets) :
    unmarked (unmarked text.chars) = unmarked text.chars := by
  obtain ⟨d, g, c, rest, hsplit, -⟩ := Decoded.exists_of_read h
  refine unmarked_eq_self fun cs hcs ↦ ?_
  have hmark : Prolog.State.idle.read .octets 3 '\ufeff' = none := by decide +kernel
  rw [hcs, hwriting, Prolog.split?, hmark] at hsplit
  cases hsplit

/-- **A byte order mark** makes no difference to what is found thoroughly. -/
theorem events_readPart {cs cs' : List Char} (h : unmarked cs = unmarked cs') :
    (readPart cs).1 = (readPart cs').1 := by
  obtain ⟨offset, -, hbefore⟩ := Reader.exists_before_eq cs
  obtain ⟨offset', -, hbefore'⟩ := Reader.exists_before_eq cs'
  have hview : (Reader.initial .octets true offset).view
      = (Reader.initial .octets true offset').view := rfl
  have hrun := (Reader.view_run hview (unmarked cs')).1
  rw [readPart, readPart, hbefore, hbefore', h]
  exact congrArg List.reverse (congrArg (·.2.2) hrun)

end VectorLint.Markup
