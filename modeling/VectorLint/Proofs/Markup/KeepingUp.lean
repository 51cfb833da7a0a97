import VectorLint.Proofs.Markup.Grammar

/-!
# A thorough reading that keeps up

A thorough reading of what the check has passed may fail nevertheless: it refuses every entity, it
reads defaults that the check skips, and it follows parentheses to a certain depth only. What it has
read more than the check may then also spoil the beginning of an element, where a value counts as a
text for the one and as a list of names for the other. In all these cases it fails at the beginning
of a token, or else at a place that does not count; and apart from them it accepts what the check
accepts.
-/

namespace VectorLint.Markup

/-! ## Keeping up -/

/-- Whether a fault that has a place in the text is at one with `P`. -/
def Fault.IsAt (P : Nat → Prop) : Fault → Prop
  | malformed _ offset => P offset
  | _ => True

/-- Whether, if `x` comes to a result, so does `x'` to one in the relation `R`, or else fails at a
place with `P`. -/
def KeepsUp {α β : Type} (P : Nat → Prop) (R : α → β → Prop) (x : Except Fault α)
    (x' : Except Fault β) : Prop :=
  ∀ a, x = .ok a → (∃ b, x' = .ok b ∧ R a b) ∨ ∃ f, x' = .error f ∧ f.IsAt P

section

variable {α β γ δ : Type} {P : Nat → Prop} {R : α → β → Prop} {S : γ → δ → Prop}
  {x y : Except Fault α} {x' y' : Except Fault β}

theorem keepsUp_ok {a : α} {b : β} (h : R a b) : KeepsUp P R (.ok a) (.ok b) := by
  rintro _ ⟨⟩
  exact .inl ⟨b, rfl, h⟩

theorem keepsUp_error (f : Fault) (x' : Except Fault β) : KeepsUp P R (.error f) x' := by
  rintro a ⟨⟩

theorem keepsUp_fails {f : Fault} (hf : f.IsAt P) (x : Except Fault α) :
    KeepsUp P R x (.error f) := by
  intro a _
  exact .inr ⟨f, rfl, hf⟩

theorem KeepsUp.ite {Q : Prop} [Decidable Q] (h : Q → KeepsUp P R x x')
    (h' : ¬ Q → KeepsUp P R y y') :
    KeepsUp P R (if Q then x else y) (if Q then x' else y') := by
  by_cases hQ : Q
  · rw [if_pos hQ, if_pos hQ]
    exact h hQ
  · rw [if_neg hQ, if_neg hQ]
    exact h' hQ

theorem KeepsUp.bind {f : α → Except Fault γ} {f' : β → Except Fault δ} (h : KeepsUp P R x x')
    (hf : ∀ a b, R a b → KeepsUp P S (f a) (f' b)) : KeepsUp P S (x >>= f) (x' >>= f') := by
  cases x with
  | error e => exact keepsUp_error e _
  | ok a =>
    rcases h a rfl with ⟨b, rfl, hab⟩ | ⟨e, rfl, he⟩
    · exact hf a b hab
    · exact keepsUp_fails he _

theorem keepsUp_bind_self {f : α → Except Fault γ} {f' : α → Except Fault δ}
    (hf : ∀ a, KeepsUp P S (f a) (f' a)) : KeepsUp P S (x >>= f) (x >>= f') := by
  cases x with
  | error e => exact keepsUp_error e _
  | ok a => exact hf a

end

/-! ## One token of a prolog -/

namespace Doctype

/-- Whether a thorough reading knows what the check knows, but for attributes. -/
structure IsKnownTo (d d' : Doctype) : Prop where
  isThorough : d.isThorough = false
  isThorough' : d'.isThorough = true
  isSkipping' : d'.isSkipping = false
  standalone : d'.standalone = d.standalone
  hasExternal : d'.hasExternal = d.hasExternal

theorem IsKnownTo.isPartial {d d' : Doctype} (h : IsKnownTo d d') :
    d'.isPartial = d.isPartial := by
  rw [Doctype.isPartial, Doctype.isPartial, h.standalone, h.hasExternal]

/-- What may come next, where the entity that is being declared, if one is, has a name. -/
def Grammar.named (name : String) : Grammar → Grammar
  | .entityValue p e => .entityValue p { e with name := some name }
  | .entityPublic p e => .entityPublic p { e with name := some name }
  | .entitySystem p e => .entitySystem p { e with name := some name }
  | .entityEnd p e => .entityEnd p { e with name := some name }
  | .entityNotation e => .entityNotation { e with name := some name }
  | g => g

/-- Whether a thorough reading is between the tokens where the check is. -/
def IsBetween (p p' : Doctype × Grammar) : Prop :=
  IsKnownTo p.1 p'.1 ∧ ∃ name, p'.2 = p.2.named name

/-- Whether a thorough reading may refuse a token that the check accepts. -/
def Token.mayFail : Token → Bool
  | .openParenthesis => true
  | .literal _ => true
  | _ => false

variable {P : Nat → Prop} {d d' : Doctype} {start : Nat}

theorem isBetween_mk (hd : IsKnownTo d d') {g : Grammar} (hg : ∀ name, g.named name = g) :
    IsBetween (d, g) (d', g) := ⟨hd, "", (hg "").symm⟩

theorem IsKnownTo.declare (hd : IsKnownTo d d') (element name : String) (isText : Bool)
    (value value' : Option String) :
    IsKnownTo (d.declare element name isText value) (d'.declare element name isText value') := by
  obtain ⟨as, h⟩ := exists_declare_eq d element name isText value
  obtain ⟨as', h'⟩ := exists_declare_eq d' element name isText value'
  rw [h, h']
  exact ⟨hd.isThorough, hd.isThorough', hd.isSkipping', hd.standalone, hd.hasExternal⟩

theorem keepsUp_declareDefault (hd : IsKnownTo d d') (w : Writing) (element name : String)
    (isText : Bool) (hstart : P start) (text : List Char) :
    KeepsUp P IsKnownTo (d.declareDefault w element name isText start text)
      (d'.declareDefault w element name isText start text) := by
  intro d₁ h
  obtain ⟨as, rfl⟩ := exists_eq_of_declareDefault h
  simp only [declareDefault, hd.isSkipping', hd.isThorough', Bool.false_eq_true, if_false, if_true]
  cases Literal.salvaged? w none text with
  | none => exact .inr ⟨_, rfl, hstart⟩
  | some pieces =>
    obtain ⟨as', h'⟩ :=
      exists_declare_eq d' element name isText (some (Piece.value isText pieces))
    refine .inl ⟨_, rfl, ?_⟩
    rw [h']
    exact ⟨hd.isThorough, hd.isThorough', hd.isSkipping', hd.standalone, hd.hasExternal⟩

private theorem keepsUp_accept_of_isEntity (hd : IsKnownTo d d') (w : Writing) {g : Grammar}
    (hg : g.isEntity = true) (name : String) (t : Token) :
    KeepsUp P IsBetween (d.accept w g start t) (d'.accept w (g.named name) start t) := by
  rintro ⟨d₁, g₁⟩ h
  unfold accept at h
  split at h
  -- the case of white space, the two names, and a public identifier are left
  all_goals
    first
    | (cases hg; done)
    | (cases h; done)
    | (cases h; exact .inl ⟨_, rfl, isBetween_mk hd fun _ ↦ rfl⟩)
    | (cases h; exact .inl ⟨_, rfl, hd, _, rfl⟩)
    | exact .inr ⟨_, rfl, trivial⟩
    | skip
  case h_2 =>
    cases h
    refine .inl ⟨(d', g.named name), ?_, hd, name, rfl⟩
    cases g <;> first | rfl | cases hg
  case h_29 s =>
    cases h
    refine .inl ⟨(d', .entityValue false ⟨some s, none, none⟩), ?_, hd, s, rfl⟩
    simp only [Grammar.named, accept, hd.isThorough', Bool.true_or, if_true]
  case h_30 s =>
    cases h
    refine .inl ⟨(d', .entityValue true ⟨some s, none, none⟩), ?_, hd, s, rfl⟩
    simp only [Grammar.named, accept, hd.isSkipping', Bool.false_eq_true, if_false]
  case h_34 text =>
    simp only [Grammar.named, accept]
    cases hpublic : readPublic start text with
    | error f =>
      rw [hpublic] at h
      cases h
    | ok publicId =>
      rw [hpublic] at h
      cases h
      exact .inl ⟨_, rfl, hd, name, rfl⟩

/-- **A token** that the check accepts is accepted thoroughly, or else declares an entity, or is one
that may fail. -/
theorem keepsUp_accept (hd : IsKnownTo d d') (w : Writing) (g : Grammar) (name : String)
    (t : Token) (hstart : t.mayFail = true → P start) :
    KeepsUp P IsBetween (d.accept w g start t) (d'.accept w (g.named name) start t) := by
  by_cases hg : g.isEntity = true
  · exact keepsUp_accept_of_isEntity hd w hg name t
  have hnamed : g.named name = g := by
    cases g <;> first | rfl | exact absurd rfl hg
  rw [hnamed]
  have hmk {d d' : Doctype} (hd : IsKnownTo d d') {g : Grammar} (hg : ∀ name, g.named name = g) :
      KeepsUp P IsBetween (.ok (d, g)) (.ok (d', g)) := keepsUp_ok (isBetween_mk hd hg)
  have hexternal : IsKnownTo { d with hasExternal := true } { d' with hasExternal := true } :=
    ⟨hd.isThorough, hd.isThorough', hd.isSkipping', hd.standalone, rfl⟩
  have herror (f : Fault) (x : Except Fault (Doctype × Grammar)) :
      KeepsUp P IsBetween (.error f) x := keepsUp_error f x
  have hdefault (element name : String) (isText : Bool) (text : List Char) (h : P start) :
      KeepsUp P IsBetween
        (do return (← d.declareDefault w element name isText start text, .listName element))
        (do return (← d'.declareDefault w element name isText start text, .listName element)) :=
    (keepsUp_declareDefault hd w element name isText h text).bind fun _ _ hd ↦
      hmk hd fun _ ↦ rfl
  unfold accept
  split
  -- most tokens lead on or are misplaced; the others come with a choice, a text or a fault
  all_goals
    first
    | exact herror _ _
    | exact hmk hd fun _ ↦ rfl
    | exact hmk hexternal fun _ ↦ rfl
    | exact keepsUp_bind_self fun _ ↦ hmk hd fun _ ↦ rfl
    | exact keepsUp_bind_self fun _ ↦ hmk hexternal fun _ ↦ rfl
    | exact hdefault _ _ _ _ (hstart rfl)
    | exact absurd rfl hg
    | (repeat' refine KeepsUp.ite (fun _ ↦ ?_) fun _ ↦ ?_
       all_goals
         first
         | exact herror _ _
         | exact hmk hd fun _ ↦ rfl
         | exact hmk (hd.declare ..) fun _ ↦ rfl)
    | skip
  case h_2 => exact keepsUp_ok ⟨hd, name, hnamed.symm⟩
  case h_3 body =>
    cases Declaration.read (start + 5) body with
    | error offset => exact herror _ _
    | ok declaration =>
      refine hmk ?_ fun _ ↦ rfl
      exact ⟨hd.isThorough, hd.isThorough', hd.isSkipping', rfl, hd.hasExternal⟩
  case h_26 =>
    refine hmk ?_ fun _ ↦ rfl
    refine ⟨hd.isThorough, hd.isThorough', ?_, hd.standalone, rfl⟩
    simp only [hd.isThorough', Bool.not_true, Bool.and_false]
  case h_78 separators =>
    rw [hd.isThorough, Bool.false_and, if_neg Bool.false_ne_true]
    by_cases hdepth : (d'.isThorough && decide (separators.length ≥ maxDepth)) = true
    · rw [if_pos hdepth]
      refine keepsUp_fails ?_ _
      exact hstart rfl
    · rw [if_neg hdepth]
      exact hmk hd fun _ ↦ rfl
  case h_82 outer mark =>
    refine hmk hd fun _ ↦ ?_
    cases outer <;> rfl

/-! ## The beginning of an element -/

theorem keepsUp_readAttributes (hpartial : d'.isPartial = d.isPartial) (hstart : P start)
    (declared declared' : List AttributeDeclaration) (scope scope' : Scope)
    {seen seen' : List (QName × String)} (hseen : seen'.map (·.1) = seen.map (·.1))
    (as : List RawAttribute) :
    KeepsUp P (fun _ _ ↦ True) (d.readAttributes start declared scope seen as)
      (d'.readAttributes start declared' scope' seen' as) := by
  induction as generalizing scope scope' seen seen' with
  | nil => exact keepsUp_ok trivial
  | cons a as ih =>
    have hany (seen : List (QName × String)) :
        seen.any (·.1 = a.name) = (seen.map (·.1)).any (· = a.name) := by
      rw [List.any_map]
      rfl
    have hcons (value value' : String) : ((a.name, value') :: seen').map (·.1)
        = ((a.name, value) :: seen).map (·.1) := by
      rw [List.map_cons, List.map_cons, hseen]
    rw [readAttributes, readAttributes, hany, hany, hseen, hpartial]
    refine KeepsUp.ite (fun _ ↦ keepsUp_error _ _) fun _ ↦ ?_
    simp only
    cases Piece.fault? d.isPartial start a.value with
    | some f => exact keepsUp_error f _
    | none =>
      cases a.name.binding? with
      | none => exact ih scope scope' (hcons _ _)
      | some space =>
        refine KeepsUp.bind (R := fun _ _ ↦ True) ?_ fun scope scope' _ ↦
          ih scope scope' (hcons _ _)
        intro scope₁ _
        -- the values may differ, and with them what may be bound
        rcases Scope.bind scope' space _ with p | scope₁'
        · exact .inr ⟨_, rfl, hstart⟩
        · exact .inl ⟨_, rfl, trivial⟩

/-- **An element** that may begin for the check begins thoroughly, or its tag stands at a place with
`P`. -/
theorem keepsUp_enter (hpartial : d'.isPartial = d.isPartial) (hd' : d'.isThorough = true)
    (hstart : P start) (scope scope' : Scope) (tag : StartTag) :
    KeepsUp P (fun _ _ ↦ True) (d.enter scope start tag) (d'.enter scope' start tag) := by
  rw [enter, enter]
  refine (keepsUp_readAttributes hpartial hstart _ _ scope scope' rfl tag.attributes).bind
    fun q q' _ ↦ ?_
  -- whatever the check makes of the attributes, a thorough reading knows no other faults
  intro p _
  simp only [addBindings, hd', if_true, Bool.not_true, Bool.and_false]
  exact .inl ⟨_, rfl, trivial⟩

end Doctype

end VectorLint.Markup
