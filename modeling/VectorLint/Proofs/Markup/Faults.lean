import VectorLint.Markup.Reader

/-!
# Faults of reading

Markup is refused for what it says, or because of the character set that it asks for. Reading knows
only the first: by then the characters are there, and whatever is wrong is wrong with them. The
fault comes from one of many places, but all of them hand it on by the same few constructions, so
each function is gone through once, with the functions that it calls already known.
-/

namespace VectorLint.Markup

/-- Whether a fault is that of a character set that cannot be used. -/
def Fault.isOfCharset : Fault → Bool
  | unknownCharset _ => true
  | notTextual _ => true
  | wideCharset => true
  | refused _ _ => true
  | _ => false

/-- Whether something fails, if it does, for what the markup says. -/
def FailsInMarkup {α : Type} (x : Except Fault α) : Prop :=
  ∀ f, x = .error f → f.isOfCharset = false

/-! ## Handing faults on -/

section

variable {α β : Type} {x y : Except Fault α}

theorem failsInMarkup_ok (a : α) : FailsInMarkup (.ok a) := by
  rintro f ⟨⟩

theorem failsInMarkup_error {f : Fault} (hf : f.isOfCharset = false) :
    FailsInMarkup (.error f : Except Fault α) := by
  rintro _ ⟨⟩
  exact hf

theorem failsInMarkup_malformed (p : Problem) (offset : Nat) :
    FailsInMarkup (.error (.malformed p offset) : Except Fault α) := failsInMarkup_error rfl

theorem FailsInMarkup.ite {P : Prop} [Decidable P] (hx : FailsInMarkup x)
    (hy : FailsInMarkup y) : FailsInMarkup (if P then x else y) := by
  by_cases hP : P
  · rwa [if_pos hP]
  · rwa [if_neg hP]

theorem FailsInMarkup.bind {g : α → Except Fault β} (hx : FailsInMarkup x)
    (hg : ∀ a, FailsInMarkup (g a)) : FailsInMarkup (x >>= g) := by
  cases x with
  | ok a => exact hg a
  | error f =>
    rintro _ ⟨⟩
    exact hx f rfl

theorem failsInMarkup_mapError (x : Except Problem α) (start : Nat) :
    FailsInMarkup (x.mapError (.malformed · start)) := by
  cases x with
  | ok a => exact failsInMarkup_ok a
  | error p => exact failsInMarkup_error rfl

end

/-! ## References and literals -/

theorem Reference.isOfCharset_of_fault? {isPartial : Bool} {start offset : Nat} {r : Reference}
    {f : Fault} (h : r.fault? isPartial start offset = some f) : f.isOfCharset = false := by
  cases r with
  | _ =>
    rw [fault?] at h
    split at h
    · cases h
    · cases h
      rfl

theorem Piece.isOfCharset_of_fault? {isPartial : Bool} {start : Nat} {pieces : List Piece}
    {f : Fault} (h : fault? isPartial start pieces = some f) : f.isOfCharset = false := by
  obtain ⟨p, -, hp⟩ := List.exists_of_findSome?_eq_some h
  cases p with
  | char c => cases hp
  | reference r offset => exact r.isOfCharset_of_fault? hp

theorem Literal.isOfCharset_of_fault? {w : Writing} {isEntity isPartial : Bool}
    {start offset : Nat} {s : State} {cs : List Char} {f : Fault}
    (h : fault? w isEntity isPartial start offset s cs = some f) : f.isOfCharset = false := by
  induction cs generalizing offset s with
  | nil => cases s <;> cases h <;> rfl
  | cons c cs ih =>
    cases s with
    | reference mark r =>
      rw [fault?] at h
      cases hr : r.step w c with
      | more r' =>
        rw [hr] at h
        exact ih h
      | invalid =>
        rw [hr] at h
        cases h
        rfl
      | done r' =>
        rw [hr] at h
        simp only at h
        split at h
        · rename_i hfault
          cases h
          exact r'.isOfCharset_of_fault? hfault
        · exact ih h
    | _ =>
      rw [fault?] at h
      repeat' split at h
      all_goals first | exact ih h | (cases h; rfl)

/-! ## The document type -/

namespace Doctype

variable (d : Doctype) (w : Writing) (start : Nat)

theorem isOfCharset_misplaced (t : Token) : (misplaced start t).isOfCharset = false := by
  unfold misplaced
  split <;> rfl

theorem failsInMarkup_refuse (e : Entity) : FailsInMarkup e.refuse := by
  rw [Entity.refuse]
  split
  · exact failsInMarkup_error rfl
  · exact failsInMarkup_ok _

theorem failsInMarkup_readPublic (text : List Char) : FailsInMarkup (readPublic start text) := by
  rw [readPublic]
  split
  · exact failsInMarkup_error rfl
  · exact failsInMarkup_ok _

theorem failsInMarkup_declareDefault (element name : String) (isText : Bool) (text : List Char) :
    FailsInMarkup (d.declareDefault w element name isText start text) := by
  simp only [declareDefault]
  refine (failsInMarkup_ok d).ite (.ite ?_ ?_)
  · split
    · exact failsInMarkup_ok _
    · exact failsInMarkup_error rfl
  · split
    · rename_i f hfault
      exact failsInMarkup_error (Literal.isOfCharset_of_fault? hfault)
    · exact failsInMarkup_ok _

/-- **A token** of a prolog. -/
theorem failsInMarkup_accept (g : Grammar) (t : Token) :
    FailsInMarkup (d.accept w g start t) := by
  have hmisplaced (t : Token) :
      FailsInMarkup (.error (misplaced start t) : Except Fault (Doctype × Grammar)) :=
    failsInMarkup_error (isOfCharset_misplaced start t)
  unfold accept
  split
  -- most tokens lead on or are misplaced; the others come with a text or a choice
  all_goals
    first
    | exact failsInMarkup_ok _
    | exact hmisplaced _
    | exact (failsInMarkup_readPublic start _).bind fun _ ↦ failsInMarkup_ok _
    | exact (failsInMarkup_refuse _).bind fun _ ↦ failsInMarkup_ok _
    | exact (failsInMarkup_declareDefault d w start _ _ _ _).bind fun _ ↦ failsInMarkup_ok _
    | (repeat' apply FailsInMarkup.ite
       all_goals first | exact failsInMarkup_ok _ | exact hmisplaced _)
    | (split
       · exact failsInMarkup_error rfl
       · exact failsInMarkup_ok _)
    | (refine (failsInMarkup_refuse _).bind fun _ ↦ ?_
       split
       · rename_i f hfault
         exact (failsInMarkup_ok _).ite
           (failsInMarkup_error (Literal.isOfCharset_of_fault? hfault))
       · exact failsInMarkup_ok _)

theorem failsInMarkup_readAttributes (declared : List AttributeDeclaration) (scope : Scope)
    (seen : List (QName × String)) (as : List RawAttribute) :
    FailsInMarkup (d.readAttributes start declared scope seen as) := by
  induction as generalizing scope seen with
  | nil => exact failsInMarkup_ok _
  | cons a as ih =>
    rw [readAttributes]
    refine FailsInMarkup.ite (failsInMarkup_malformed _ _) ?_
    simp only
    split
    · rename_i f hfault
      exact failsInMarkup_error (Piece.isOfCharset_of_fault? hfault)
    · split
      · exact ih scope _
      · exact (failsInMarkup_mapError _ start).bind fun scope ↦ ih scope _

theorem failsInMarkup_addBindings (scope : Scope) (bindings : List (Option String × String)) :
    FailsInMarkup (d.addBindings start scope bindings) := by
  rw [addBindings]
  refine (failsInMarkup_ok _).ite ?_
  induction bindings generalizing scope with
  | nil => exact failsInMarkup_ok _
  | cons b bs ih =>
    rw [List.foldlM_cons]
    exact (failsInMarkup_mapError _ start).bind ih

theorem failsInMarkup_enter (scope : Scope) (tag : StartTag) :
    FailsInMarkup (d.enter scope start tag) := by
  rw [enter]
  refine (failsInMarkup_readAttributes d start _ scope [] _).bind fun p ↦
    (failsInMarkup_addBindings d start p.1 _).bind fun scope ↦ ?_
  simp only
  split
  · exact failsInMarkup_malformed _ _
  · exact (failsInMarkup_malformed _ _).ite (failsInMarkup_ok _)

end Doctype

/-! ## The reader -/

namespace Reader

variable (r : Reader)

theorem failsInMarkup_stepProlog (again : Nat) (d : Doctype) (g : Doctype.Grammar)
    (s : Prolog.State) (c : Char) : FailsInMarkup (r.stepProlog again d g s c) := by
  induction again generalizing r d g s with
  | zero =>
    unfold stepProlog
    cases s.step r.writing c with
    | more s => exact failsInMarkup_ok _
    | done t => exact (d.failsInMarkup_accept _ _ g t).bind fun _ ↦ failsInMarkup_ok _
    | root =>
      cases g with
      | opening | beforeDoctype | afterDoctype =>
        exact (failsInMarkup_malformed _ _).ite (failsInMarkup_ok _)
      | _ => exact failsInMarkup_malformed _ _
    | invalid back => exact failsInMarkup_malformed _ _
    | before t s back => exact failsInMarkup_malformed _ _
  | succ again ih =>
    unfold stepProlog
    cases s.step r.writing c with
    | more s => exact failsInMarkup_ok _
    | done t => exact (d.failsInMarkup_accept _ _ g t).bind fun _ ↦ failsInMarkup_ok _
    | root =>
      cases g with
      | opening | beforeDoctype | afterDoctype =>
        exact (failsInMarkup_malformed _ _).ite (failsInMarkup_ok _)
      | _ => exact failsInMarkup_malformed _ _
    | invalid back => exact failsInMarkup_malformed _ _
    | before t s back => exact (d.failsInMarkup_accept _ _ g t).bind fun p ↦ ih _ p.1 p.2 s

theorem failsInMarkup_accept (d : Doctype) (opened : List OpenElement) (t : Content.Token) :
    FailsInMarkup (r.accept d opened t) := by
  unfold accept
  split
  · refine (d.failsInMarkup_enter r.start _ _).bind fun p ↦ ?_
    exact (failsInMarkup_ok _).ite (failsInMarkup_ok _)
  all_goals
    repeat' split
    all_goals first | exact failsInMarkup_ok _ | exact failsInMarkup_error rfl

/-- **One more character.** -/
theorem failsInMarkup_step (c : Char) : FailsInMarkup (r.step c) := by
  rw [step]
  split
  · exact r.failsInMarkup_stepProlog 3 _ _ _ c
  · unfold stepContent
    simp only
    split
    · exact failsInMarkup_malformed _ _
    · exact failsInMarkup_ok _
    · exact (failsInMarkup_accept _ _ _ _).bind fun _ ↦ failsInMarkup_ok _
  · unfold stepEpilog
    simp only
    split <;> first | exact failsInMarkup_ok _ | exact failsInMarkup_malformed _ _

theorem isOfCharset_of_run {r r' : Reader} {cs : List Char} {f : Fault}
    (h : r.run cs = (r', some f)) : f.isOfCharset = false := by
  induction cs generalizing r with
  | nil => cases h
  | cons c cs ih =>
    rw [run] at h
    split at h
    · exact ih h
    · rename_i f' hstep
      cases h
      exact failsInMarkup_step _ c _ hstep

theorem isOfCharset_interrupted (c : Char) (unread : Nat) {otherwise : Reader → Fault}
    (h : ∀ r, (otherwise r).isOfCharset = false) :
    (r.interrupted c unread otherwise).isOfCharset = false := by
  rw [interrupted]
  split
  · split <;> rfl
  · split
    · rename_i f hstep
      exact r.failsInMarkup_step c f hstep
    · exact h _

theorem failsInMarkup_close (isHalf : Bool) : FailsInMarkup (r.close isHalf) := by
  rw [close]
  simp only
  split
  · refine ((failsInMarkup_malformed _ _).ite (failsInMarkup_malformed _ _)).ite ?_
    split
    · exact (Doctype.failsInMarkup_accept _ _ _ _ _).bind fun _ ↦ failsInMarkup_malformed _ _
    · exact failsInMarkup_malformed _ _
  · exact (failsInMarkup_malformed _ _).ite (failsInMarkup_malformed _ _)
  · exact failsInMarkup_malformed _ _
  · exact failsInMarkup_malformed _ _
  · refine ((failsInMarkup_malformed _ _).ite (failsInMarkup_ok _)).ite ?_
    exact (failsInMarkup_malformed _ _).ite (failsInMarkup_malformed _ _)

theorem failsInMarkup_finish (ending : Ending) : FailsInMarkup (r.finish ending) := by
  cases ending with
  | complete => exact r.failsInMarkup_close false
  | half => exact r.failsInMarkup_close true
  | malformed isLead unread =>
    exact failsInMarkup_error (r.isOfCharset_interrupted _ unread fun _ ↦ rfl)
  | cut unread => exact failsInMarkup_error (r.isOfCharset_interrupted _ unread fun _ ↦ rfl)

end Reader

/-- **A document** that is read is never refused because of its character set. -/
theorem Decoded.failsInMarkup_read (text : Decoded) : FailsInMarkup text.read := by
  rw [read]
  simp only
  split
  · exact Reader.failsInMarkup_finish _ _
  · rename_i hrun
    exact failsInMarkup_error (Reader.isOfCharset_of_run hrun)

end VectorLint.Markup
