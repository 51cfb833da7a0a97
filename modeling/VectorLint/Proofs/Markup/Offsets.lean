import Mathlib.Data.Option.Basic
import VectorLint.Markup.Reader

/-!
# Reading markup wherever it stands

A reader keeps the places of what it reads, and faults give them. Nothing else depends on them:
whether some text can be read, and what it says, is the same wherever it stands. So two readings can
be compared of which one begins behind a byte order mark and the other does not.

A result is compared without its fault, by `Except.toOption`, and a state without the places in it.
Without places, a state steps as if it stood at the beginning.
-/

namespace VectorLint.Markup

theorem toOption_bind {ε α β : Type} (x : Except ε α) (f : α → Except ε β) :
    (x >>= f).toOption = x.toOption.bind fun a ↦ (f a).toOption := by
  cases x <;> rfl

theorem eq_ok_of_toOption {ε α : Type} {x : Except ε α} {a : α} (h : x.toOption = some a) :
    x = .ok a := by
  cases x with
  | error e => cases h
  | ok b => rw [Option.some.inj h]

private theorem toOption_bind_congr {ε α β γ δ : Type} {p : α → γ} {q : β → δ} {x y : Except ε α}
    {f g : α → Except ε β} (h : x.toOption.map p = y.toOption.map p)
    (hfg : ∀ a b, p a = p b → (f a).toOption.map q = (g b).toOption.map q) :
    (x >>= f).toOption.map q = (y >>= g).toOption.map q := by
  cases x <;> cases y <;> first | rfl | cases h | exact hfg _ _ (Option.some.inj h)

/-! ## The declaration of a document -/

namespace Declaration

/-- What an item says, without its places. -/
def Item.said (i : Item) : List Char × List Char × List Char := (i.name, i.value, i.rest)

variable (offset offset' : Nat) (cs : List Char)

theorem said_item? : (item? offset cs).toOption.map (·.map Item.said)
    = (item? offset' cs).toOption.map (·.map Item.said) := by
  simp only [item?]
  repeat' split
  all_goals rfl

theorem toOption_standalone? {i i' : Item} (h : i.said = i'.said) :
    (standalone? i).toOption = (standalone? i').toOption := by
  obtain ⟨hname, hvalue, hrest⟩ : i.name = i'.name ∧ i.value = i'.value ∧ i.rest = i'.rest := by
    simpa [Item.said] using h
  simp only [standalone?, hname, hvalue, hrest]
  repeat' split
  all_goals rfl

/-- What a declaration says, without its places. -/
def said (d : Declaration) : Option String × Bool := (d.encoding.map (·.1), d.standalone)

theorem said_afterVersion : (afterVersion offset cs).toOption.map said
    = (afterVersion offset' cs).toOption.map said := by
  have hlast {i i' : Item} (h : i.said = i'.said) {e e' : Option (String × Nat)}
      (he : e.map (·.1) = e'.map (·.1)) :
      ((standalone? i).bind fun b ↦ pure (⟨e, b⟩ : Declaration)).toOption.map said
        = ((standalone? i').bind fun b ↦ pure (⟨e', b⟩ : Declaration)).toOption.map said := by
    refine toOption_bind_congr (p := id) (by rw [toOption_standalone? h]) ?_
    rintro b _ rfl
    exact congrArg (fun e ↦ some (e, b)) he
  refine toOption_bind_congr (said_item? offset offset' cs) fun i i' h ↦ ?_
  rcases i with _ | i <;> rcases i' with _ | i' <;> try first | rfl | cases h
  have hsaid : i.said = i'.said := Option.some.inj h
  obtain ⟨hname, hvalue, hrest⟩ : i.name = i'.name ∧ i.value = i'.value ∧ i.rest = i'.rest := by
    simpa [Item.said] using hsaid
  simp only [hname, hvalue, hrest]
  split
  · split
    · rfl
    refine toOption_bind_congr (said_item? i.restOffset i'.restOffset i'.rest) fun i i' h ↦ ?_
    rcases i with _ | i <;> rcases i' with _ | i' <;> try first | rfl | cases h
    exact hlast (Option.some.inj h) rfl
  · exact hlast hsaid rfl

theorem said_read : (read offset cs).toOption.map said = (read offset' cs).toOption.map said := by
  refine toOption_bind_congr (said_item? offset offset' cs) fun i i' h ↦ ?_
  rcases i with _ | i <;> rcases i' with _ | i' <;> try first | rfl | cases h
  obtain ⟨hname, -, hrest⟩ : i.name = i'.name ∧ i.value = i'.value ∧ i.rest = i'.rest := by
    simpa [Item.said] using h
  simp only [hname, hrest]
  split
  · exact said_afterVersion _ _ _
  · rfl

theorem standalone_read : (read offset cs).toOption.map (·.standalone)
    = (read offset' cs).toOption.map (·.standalone) := by
  have hsaid := congrArg (Option.map Prod.snd) (said_read offset offset' cs)
  rwa [Option.map_map, Option.map_map] at hsaid

end Declaration

/-! ## Literals -/

theorem Reference.isNone_fault? (isPartial : Bool) (start start' offset offset' : Nat)
    (r : Reference) :
    (r.fault? isPartial start offset).isNone = (r.fault? isPartial start' offset').isNone := by
  cases r <;> rw [Reference.fault?, Reference.fault?] <;> split <;> rfl

namespace Literal

/-- What is being read in a literal, without its place. -/
def State.unplaced : State → State
  | .text => .text
  | .reference _ r => .reference 0 r
  | .percent _ => .percent 0
  | .parameter _ => .parameter 0

theorem isNone_publicFault? (offset offset' : Nat) (cs : List Char) :
    (publicFault? offset cs).isNone = (publicFault? offset' cs).isNone := by
  induction cs generalizing offset offset' with
  | nil => rfl
  | cons c cs ih =>
    rw [publicFault?, publicFault?]
    split
    · exact ih _ _
    · rfl

theorem isNone_fault? (w : Writing) (isEntity isPartial : Bool) (start start' offset offset' : Nat)
    {s s' : State} (hs : s.unplaced = s'.unplaced) (cs : List Char) :
    (fault? w isEntity isPartial start offset s cs).isNone
      = (fault? w isEntity isPartial start' offset' s' cs).isNone := by
  induction cs generalizing offset offset' s s' with
  | nil => cases s <;> cases s' <;> first | rfl | cases hs
  | cons c cs ih =>
    cases s <;> cases s' <;> cases hs <;> simp only [fault?]
    -- the place of a reference is told by its fault alone
    case reference.reference.refl mark r mark' =>
      cases r.step w c with
      | more r => exact ih _ _ rfl
      | invalid => rfl
      | done r =>
        have h := r.isNone_fault? (isEntity || isPartial) start start' mark mark'
        revert h
        simp only
        cases r.fault? (isEntity || isPartial) start mark <;>
          cases r.fault? (isEntity || isPartial) start' mark' <;> intro h <;>
          first | exact ih _ _ rfl | rfl | cases h
    all_goals
      repeat' split
      all_goals first | rfl | exact ih _ _ rfl

end Literal

/-! ## Tokens of a prolog -/

namespace Doctype

theorem toOption_readPublic (start start' : Nat) (text : List Char) :
    (readPublic start text).toOption = (readPublic start' text).toOption := by
  have h := Literal.isNone_publicFault? (start + 1) (start' + 1) text
  revert h
  rw [readPublic, readPublic]
  cases Literal.publicFault? (start + 1) text <;> cases Literal.publicFault? (start' + 1) text <;>
    intro h <;> first | rfl | cases h

theorem toOption_declareDefault (d : Doctype) (w : Writing) (element name : String) (isText : Bool)
    (start start' : Nat) (text : List Char) :
    (d.declareDefault w element name isText start text).toOption
      = (d.declareDefault w element name isText start' text).toOption := by
  have h := Literal.isNone_fault? w false d.isPartial start start' (start + 1) (start' + 1)
    (s := .text) rfl text
  revert h
  simp only [declareDefault]
  split
  · exact fun _ ↦ rfl
  split
  · intro _
    split <;> rfl
  · cases Literal.fault? w false d.isPartial start (start + 1) .text text <;>
      cases Literal.fault? w false d.isPartial start' (start' + 1) .text text <;>
      intro h <;> first | rfl | cases h

/-- **A token** is accepted or not wherever it stands, and to the same effect. -/
theorem toOption_accept (d : Doctype) (w : Writing) (g : Grammar) (start start' : Nat) (t : Token) :
    (d.accept w g start t).toOption = (d.accept w g start' t).toOption := by
  have hbind {α β : Type} {x y : Except Fault α} {f : α → Except Fault β}
      (h : x.toOption = y.toOption) : (x >>= f).toOption = (y >>= f).toOption := by
    rw [toOption_bind, toOption_bind, h]
  have hdeclaration {o o' : Option Bool} (h : o = o') :
      o.map (fun b ↦ ({ d with standalone := b }, Grammar.beforeDoctype))
        = o'.map fun b ↦ ({ d with standalone := b }, Grammar.beforeDoctype) := by
    rw [h]
  have hfault (text : List Char) :=
    Literal.isNone_fault? w true d.isPartial start start' (start + 1) (start' + 1) (s := .text) rfl
      text
  have hskip {α : Type} (e : Entity) (p : α) (f f' : Fault) :
      (do e.refuse
          if d.isSkipping then return p else throw f : Except Fault α).toOption
      = (do e.refuse
            if d.isSkipping then return p else throw f' : Except Fault α).toOption := by
    rw [toOption_bind, toOption_bind]
    split <;> rfl
  unfold accept
  split
  -- most tokens have no places; those that come with a text have them in their faults
  all_goals
    first
    | rfl
    | (have h := hdeclaration (Declaration.standalone_read (start + 5) (start' + 5) ‹List Char›)
       revert h
       cases Declaration.read (start + 5) _ <;> cases Declaration.read (start' + 5) _ <;> exact id)
    | exact hbind (toOption_readPublic start start' _)
    | exact hbind (toOption_declareDefault d w _ _ _ start start' _)
    | (have h := hfault ‹List Char›
       revert h
       cases Literal.fault? w true d.isPartial start (start + 1) .text _ <;>
         cases Literal.fault? w true d.isPartial start' (start' + 1) .text _ <;> intro h <;>
         first | rfl | exact hskip .. | cases h)
    | repeat' split
      all_goals rfl

end Doctype

/-! ## Tags -/

/-- A move with its state and its token taken to others. -/
def Move.map {σ τ α β : Type} (f : σ → τ) (g : α → β) : Move σ α → Move τ β
  | .more s => .more (f s)
  | .done a => .done (g a)
  | .invalid => .invalid

/-- A piece without its place. -/
def Piece.unplaced : Piece → Piece
  | .char c => .char c
  | .reference r _ => .reference r 0

/-- The name of an attribute without its place. -/
def Key.unplaced (k : Key) : Key := { k with offset := 0 }

/-- An attribute as it is written, without places. -/
def RawAttribute.unplaced (a : RawAttribute) : RawAttribute :=
  ⟨a.toKey.unplaced, a.value.map Piece.unplaced⟩

/-- A start tag without places. -/
def StartTag.unplaced (t : StartTag) : StartTag :=
  { t with attributes := t.attributes.map RawAttribute.unplaced }

namespace OpenTag

/-- The finished parts of a start tag, without places. -/
def unplaced (t : OpenTag) : OpenTag :=
  { t with attributes := t.attributes.map RawAttribute.unplaced }

end OpenTag

/-- What has been read of a start tag, without places. -/
def StartTag.Start.unplaced : StartTag.Start → StartTag.Start
  | .name n => .name n
  | .gap t => .gap t.unplaced
  | .key t n _ => .key t.unplaced n 0
  | .equals t k => .equals t.unplaced k.unplaced
  | .quote t k => .quote t.unplaced k.unplaced
  | .value t k q pieces => .value t.unplaced k.unplaced q (pieces.map Piece.unplaced)
  | .reference t k q pieces _ r =>
    .reference t.unplaced k.unplaced q (pieces.map Piece.unplaced) 0 r
  | .closed t => .closed t.unplaced
  | .slash t => .slash t.unplaced

namespace OpenTag

theorem unplaced_push (t : OpenTag) (k : Key) (pieces : List Piece) :
    (t.push k pieces).unplaced = t.unplaced.push k.unplaced (pieces.map Piece.unplaced) := by
  simp only [push, unplaced, List.map_cons, RawAttribute.unplaced, List.map_reverse]

theorem unplaced_close (t : OpenTag) (isEmpty : Bool) :
    (t.close isEmpty).unplaced = t.unplaced.close isEmpty := by
  simp only [close, unplaced, StartTag.unplaced, List.map_reverse]

theorem map_between (t : OpenTag) (c : Char) :
    (t.between c).map StartTag.Start.unplaced StartTag.unplaced = t.unplaced.between c := by
  simp only [between]
  repeat' split
  all_goals first | rfl | exact congrArg Move.done (t.unplaced_close false)

end OpenTag

theorem StartTag.Start.map_step (w : Writing) (offset : Nat) (s : StartTag.Start) (c : Char) :
    (s.step w offset c).map unplaced StartTag.unplaced = s.unplaced.step w 0 c := by
  cases s with
  | name n =>
    simp only [step, unplaced]
    split
    · rfl
    · exact OpenTag.map_between _ c
    · rfl
  | gap t =>
    simp only [step, unplaced]
    split
    · rfl
    · exact t.map_between c
  | closed t => exact t.map_between c
  | reference t k q pieces start r =>
    simp only [step, unplaced]
    cases r.step w c <;> rfl
  | value t k q pieces =>
    simp only [step, unplaced, ← t.unplaced_push]
    repeat' split
    all_goals rfl
  | slash t =>
    simp only [step, unplaced, ← t.unplaced_close]
    split <;> rfl
  | _ =>
    simp only [step, unplaced]
    repeat' split
    all_goals rfl

/-! ## Content -/

namespace Content

/-- A token of an element's content, without places. -/
def Token.unplaced : Token → Token
  | .start t => .start t.unplaced
  | t => t

/-- What has been read of a token of an element's content, without places. -/
def State.unplaced : State → State
  | .tag s => .tag s.unplaced
  | s => s

/-- **The content of an element** is read alike wherever it stands. -/
theorem State.unplaced_step (w : Writing) (offset : Nat) (s : State) (c : Char) :
    (s.step w offset c).toOption.map (Prod.map unplaced (Option.map Token.unplaced))
      = (s.unplaced.step w 0 c).toOption := by
  cases s with
  | tag s =>
    simp only [step, unplaced, ← s.map_step w offset c]
    cases s.step w offset c <;> rfl
  | remark r =>
    simp only [step, unplaced]
    cases r.step w c <;> rfl
  | endTag r =>
    simp only [step, unplaced]
    cases r.step w c <;> rfl
  | reference r =>
    simp only [step, unplaced]
    cases r.step w c <;> rfl
  | _ =>
    simp only [step, unplaced, Content.text, Content.characterData]
    repeat' split
    all_goals rfl

end Content

/-! ## The beginning of an element -/

namespace Piece

theorem value_unplaced (isText : Bool) (pieces : List Piece) :
    value isText (pieces.map unplaced) = value isText pieces := by
  have h (afterReturn : Bool) :
      denoted afterReturn (pieces.map unplaced) = denoted afterReturn pieces := by
    induction pieces generalizing afterReturn with
    | nil => rfl
    | cons p pieces ih => cases p <;> simp only [List.map_cons, unplaced, denoted, ih]
  rw [value, value, h]

theorem isNone_fault?_unplaced (isPartial : Bool) (start start' : Nat) (pieces : List Piece) :
    (fault? isPartial start pieces).isNone
      = (fault? isPartial start' (pieces.map unplaced)).isNone := by
  rw [fault?, fault?]
  induction pieces with
  | nil => rfl
  | cons p pieces ih =>
    cases p with
    | char c => exact ih
    | reference r offset =>
      have h := r.isNone_fault? isPartial start start' offset 0
      revert h
      simp only [List.map_cons, unplaced, List.findSome?_cons]
      cases r.fault? isPartial start offset <;> cases r.fault? isPartial start' 0 <;> intro h <;>
        first | exact ih | rfl | cases h

end Piece

/-- Attributes are read alike wherever they stand, by all who agree on whether there may be
declarations elsewhere. -/
theorem Doctype.toOption_readAttributes {d d' : Doctype} (hd : d.isPartial = d'.isPartial)
    (start start' : Nat) (declared : List AttributeDeclaration) (scope : Scope)
    (seen : List (QName × String)) (as : List RawAttribute) :
    (d.readAttributes start declared scope seen as).toOption
      = (d'.readAttributes start' declared scope seen
        (as.map RawAttribute.unplaced)).toOption := by
  induction as generalizing scope seen with
  | nil => rfl
  | cons a as ih =>
    have hname : a.unplaced.name = a.name := rfl
    have hvalue : a.unplaced.value = a.value.map Piece.unplaced := rfl
    have hfault := Piece.isNone_fault?_unplaced d.isPartial start start' a.value
    revert hfault
    simp only [readAttributes, List.map_cons, hname, hvalue, ← hd, Piece.value_unplaced]
    split
    · exact fun _ ↦ rfl
    cases Piece.fault? d.isPartial start a.value <;>
      cases Piece.fault? d.isPartial start' (a.value.map Piece.unplaced) <;> intro hfault <;>
      try first | rfl | cases hfault
    cases a.name.binding? with
    | none => exact ih scope _
    | some space =>
      simp only
      cases scope.bind space (Piece.value ((declared.find? (·.name = a.name.text)).all (·.isText))
        a.value) with
      | error p => rfl
      | ok scope => exact ih scope _

end VectorLint.Markup
