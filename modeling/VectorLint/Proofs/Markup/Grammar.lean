import Mathlib.Data.List.Basic
import VectorLint.Proofs.Markup.Offsets

/-!
# What the grammar of a prolog lets through

A token that may stand where it stands changes little: it may declare an attribute or open a
parenthesis, and only a few tokens do more. The frame of a token says all that is needed of this at
once, for every state of the grammar, and what holds of a whole prolog follows from it by induction
along the tokens.

Declarations of entities are refused as late as at their end. What makes them refused is settled at
their name, and no token behind it can undo it; so a declaration that will be refused leads to no
root element.
-/

namespace VectorLint.Markup.Doctype

/-! ## States of the grammar -/

namespace Grammar

/-- Whether a root element may begin. -/
def mayEnd : Grammar → Bool
  | .opening | .beforeDoctype | .afterDoctype => true
  | _ => false

/-- Whether a declaration of an entity is being read. -/
def isEntity : Grammar → Bool
  | .entityName | .parameterName | .entityValue .. | .entityPublic .. | .entitySystem ..
  | .entityEnd .. | .entityNotation _ => true
  | _ => false

/-- Whether declarations of attributes are being read. -/
def isList : Grammar → Bool
  | .listElement | .listName _ | .listType .. | .listToken .. | .listNext .. | .listNotation ..
  | .listDefault .. | .listFixed .. => true
  | _ => false

/-- The number of parentheses that are open. -/
def depth : Grammar → Nat
  | .listToken .. | .listNext .. | .groupFirst | .mixedNext | .mixedName | .mixedEnd => 1
  | .groupItem separators | .groupNext separators => separators.length
  | _ => 0

/-- Whether a declaration of an entity is being read that will be refused. -/
def Refuses (d : Doctype) : Grammar → Prop
  | .parameterName => d.isSkipping = false
  | .entityValue _ e | .entityPublic _ e | .entitySystem _ e | .entityEnd _ e | .entityNotation e =>
    e.name.isSome
  | _ => False

theorem mayEnd_eq_false_of_refuses {d : Doctype} {g : Grammar} (h : g.Refuses d) :
    g.mayEnd = false := by
  cases g <;> first | rfl | cases h

end Grammar

/-- The parentheses that a token opens. -/
def Token.opens : Token → Nat
  | .openParenthesis => 1
  | _ => 0

/-- The parentheses that a token closes. -/
def Token.closes : Token → Nat
  | .closeParenthesis _ => 1
  | _ => 0

/-- The keywords of declarations. -/
def keywords : List String := ["DOCTYPE", "ENTITY", "ATTLIST", "ELEMENT", "NOTATION"]

/-- Whether the text between the target and the end of a declaration of a document says that the
document stands alone. -/
def saysStandalone (body : List Char) : Bool :=
  (Declaration.read 0 body).toOption.any (·.standalone)

/-! ## What one token changes -/

/-- What a token that may stand where it stands changes. -/
structure Frame (d : Doctype) (g : Grammar) (t : Token) (d' : Doctype) (g' : Grammar) : Prop where
  isThorough : d'.isThorough = d.isThorough
  standalone : (∀ body, t ≠ .remark (.declaration body)) → d'.standalone = d.standalone
  declared : ∀ body, t = .remark (.declaration body) →
    g = .opening ∧ d'.standalone = saysStandalone body
  isSkipping : d'.isSkipping = d.isSkipping
    ∨ t = .parameterReference ∧ d'.isSkipping = (!d.standalone && !d.isThorough)
  ne_opening : g' ≠ .opening
  isEntity : g'.isEntity → g.isEntity ∨ t = .opening "ENTITY"
  refuses : g.Refuses d → g'.Refuses d'
  isList : g'.isList → g.isList ∨ t = .opening "ATTLIST"
  depth : g'.depth + t.closes = g.depth + t.opens
  keyword : ∀ k, t = .opening k → k ∈ keywords

private theorem Frame.of_attributes (d : Doctype) (hasExternal : Bool)
    (as : List AttributeDeclaration) {g g' : Grammar} {t : Token}
    (ht : ∀ body, t ≠ .remark (.declaration body)) (hopening : g' ≠ .opening)
    (hentity : g'.isEntity → g.isEntity ∨ t = .opening "ENTITY")
    (hrefuses : g.Refuses d → g'.Refuses d)
    (hlist : g'.isList → g.isList ∨ t = .opening "ATTLIST")
    (hdepth : g'.depth + t.closes = g.depth + t.opens)
    (hkeyword : ∀ k, t = .opening k → k ∈ keywords) :
    Frame d g t { d with hasExternal, attributes := as } g' := by
  refine ⟨rfl, fun _ ↦ rfl, fun body h ↦ absurd h (ht body), .inl rfl, hopening, hentity,
    fun h ↦ ?_, hlist, hdepth, hkeyword⟩
  have := hrefuses h
  cases g' <;> exact this

theorem exists_declare_eq (d : Doctype) (element name : String) (isText : Bool)
    (value : Option String) :
    ∃ as, d.declare element name isText value = { d with attributes := as } := by
  rw [declare]
  split <;> exact ⟨_, rfl⟩

theorem exists_eq_of_declareDefault {d d' : Doctype} {w : Writing} {element name : String}
    {isText : Bool} {start : Nat} {text : List Char}
    (h : d.declareDefault w element name isText start text = .ok d') :
    ∃ as, d' = { d with attributes := as } := by
  simp only [declareDefault] at h
  repeat' split at h
  all_goals cases h
  · exact ⟨_, rfl⟩
  · exact exists_declare_eq ..
  · exact exists_declare_eq ..

theorem Entity.refuse_eq_ok {e : Entity} {u : Unit} : e.refuse = .ok u ↔ e.name = none := by
  rw [Entity.refuse]
  cases e.name with
  | none => exact iff_of_true rfl rfl
  | some s => exact iff_of_false nofun nofun

private theorem Frame.of_declaration {d : Doctype} {start : Nat} {body : List Char}
    {declaration : Declaration} (h : Declaration.read (start + 5) body = .ok declaration) :
    Frame d .opening (.remark (.declaration body))
      { d with standalone := declaration.standalone } .beforeDoctype := by
  have hread := Declaration.standalone_read (start + 5) 0 body
  rw [h] at hread
  refine ⟨rfl, fun h ↦ absurd rfl (h body), fun body' h ↦ ⟨rfl, ?_⟩, .inl rfl, by simp, nofun, id,
    nofun, rfl, by simp⟩
  obtain rfl : body = body' := by simpa using h
  have hsaid (o : Option Declaration) (h : some declaration.standalone = o.map (·.standalone)) :
      declaration.standalone = o.any (·.standalone) := by
    cases o with
    | none => cases h
    | some declaration' => exact Option.some.inj h
  exact hsaid _ hread

private theorem Frame.of_listName {d d' : Doctype} {g : Grammar} {t : Token} {element : String}
    (h : ∃ as, d' = { d with attributes := as }) (hlist : g.isList = true) (hg : g.depth = 0)
    (hrefuses : ¬ g.Refuses d) (ht : (∃ s, t = .pound s) ∨ ∃ text, t = .literal text) :
    Frame d g t d' (.listName element) := by
  obtain ⟨as, rfl⟩ := h
  obtain ⟨s, rfl⟩ | ⟨text, rfl⟩ := ht
  all_goals
    exact Frame.of_attributes d _ as (by simp) (by simp) nofun (fun h ↦ absurd h hrefuses)
      (fun _ ↦ .inl hlist) hg.symm (by simp)

private theorem Frame.of_closed (d : Doctype) (separator : Option Char)
    (outer : List (Option Char)) (mark : Mark) :
    Frame d (.groupNext (separator :: outer)) (.closeParenthesis mark) d (.closed outer) := by
  cases outer
  all_goals
    exact Frame.of_attributes d _ _ (by simp) (by simp [Grammar.closed]) nofun nofun nofun rfl
      (by simp)

/-- **The frame of a token.** -/
theorem frame_of_accept {d d' : Doctype} {w : Writing} {g g' : Grammar} {start : Nat} {t : Token}
    (h : d.accept w g start t = .ok (d', g')) : Frame d g t d' g' := by
  revert h
  unfold accept
  split <;> intro h
  -- space changes nothing, in whatever state but the first
  case h_2 hg =>
    cases h
    exact ⟨rfl, fun _ ↦ rfl, by simp, .inl rfl, hg, .inl, id, .inl, rfl, by simp⟩
  all_goals
    try simp only [bind, Except.bind, pure, Except.pure, throw, throwThe, MonadExceptOf.throw] at h
    repeat' split at h
  all_goals cases h
  all_goals
    first
    | refine Frame.of_attributes d _ _ ?_ ?_ ?_ ?_ ?_ ?_ ?_ <;>
        simp [Grammar.isEntity, Grammar.Refuses, Grammar.isList, Grammar.depth, Token.opens,
          Token.closes, keywords]
      done
    | exact Frame.of_declaration ‹_›
    | exact Frame.of_listName (exists_declare_eq ..) rfl rfl nofun (.inl ⟨_, rfl⟩)
    | exact Frame.of_listName (exists_eq_of_declareDefault ‹_›) rfl rfl nofun (.inr ⟨_, rfl⟩)
    | exact Frame.of_closed ..
    | exact ⟨rfl, fun _ ↦ rfl, by simp, .inr ⟨rfl, rfl⟩, by simp, nofun, id, nofun, rfl, by simp⟩
    | refine Frame.of_attributes d _ _ ?_ ?_ ?_ ?_ ?_ ?_ ?_ <;>
        simp_all [Grammar.isEntity, Grammar.Refuses, Grammar.isList, Grammar.depth, Token.opens,
          Token.closes, keywords, Entity.refuse_eq_ok]

/-! ## Tokens one behind the other -/

/-- What some tokens make of what is known and of what may come next, if they may stand there. -/
def acceptAll (w : Writing) (d : Doctype) (g : Grammar) : List Token → Option (Doctype × Grammar)
  | [] => some (d, g)
  | t :: ts => (d.accept w g 0 t).toOption.bind fun (d, g) ↦ acceptAll w d g ts

section AcceptAll

variable {w : Writing} {d d' : Doctype} {g g' : Grammar} {t : Token} {ts ts' : List Token}

theorem acceptAll_append (w : Writing) (d : Doctype) (g : Grammar) (ts ts' : List Token) :
    acceptAll w d g (ts ++ ts') = (acceptAll w d g ts).bind fun (d, g) ↦ acceptAll w d g ts' := by
  induction ts generalizing d g with
  | nil => rfl
  | cons t ts ih =>
    rw [List.cons_append, acceptAll, acceptAll, Option.bind_assoc]
    exact congrArg _ (funext fun p ↦ ih p.1 p.2)

theorem exists_of_acceptAll_append (h : acceptAll w d g (ts ++ ts') = some (d', g')) :
    ∃ d₁ g₁, acceptAll w d g ts = some (d₁, g₁) ∧ acceptAll w d₁ g₁ ts' = some (d', g') := by
  rw [acceptAll_append] at h
  obtain ⟨⟨d₁, g₁⟩, h₁, h'⟩ := Option.bind_eq_some_iff.mp h
  exact ⟨d₁, g₁, h₁, h'⟩

theorem exists_of_acceptAll_cons (h : acceptAll w d g (t :: ts) = some (d', g')) :
    ∃ d₁ g₁, d.accept w g 0 t = .ok (d₁, g₁) ∧ acceptAll w d₁ g₁ ts = some (d', g') := by
  obtain ⟨⟨d₁, g₁⟩, h₁, h'⟩ := Option.bind_eq_some_iff.mp h
  exact ⟨d₁, g₁, eq_ok_of_toOption h₁, h'⟩

/-- Whether some tokens begin with the declaration of a document that says that the document stands
alone. -/
def isStandalone : List Token → Bool
  | .remark (.declaration body) :: _ => saysStandalone body
  | _ => false

private theorem skipping_of_acceptAll (hg : g ≠ .opening)
    (h : acceptAll w d g ts = some (d', g')) :
    d'.isThorough = d.isThorough ∧ d'.standalone = d.standalone
      ∧ (d'.isSkipping = true → d.isSkipping = true
        ∨ .parameterReference ∈ ts ∧ d.standalone = false) := by
  induction ts generalizing d g with
  | nil =>
    cases h
    exact ⟨rfl, rfl, .inl⟩
  | cons t ts ih =>
    obtain ⟨d₁, g₁, haccept, hrest⟩ := exists_of_acceptAll_cons h
    have hframe := frame_of_accept haccept
    have hstandalone : d₁.standalone = d.standalone :=
      hframe.standalone fun body ht ↦ hg (hframe.declared body ht).1
    obtain ⟨hthorough, hstandalone', hskipping⟩ := ih hframe.ne_opening hrest
    refine ⟨hthorough.trans hframe.isThorough, hstandalone'.trans hstandalone, fun hd' ↦ ?_⟩
    rcases hskipping hd' with hd₁ | ⟨hmem, hd₁⟩
    -- skipping goes on, or begins with this token
    · rcases hframe.isSkipping with heq | ⟨rfl, heq⟩
      · exact .inl (heq ▸ hd₁)
      · rw [heq] at hd₁
        exact .inr ⟨List.mem_cons_self, by simpa using (Bool.and_eq_true_iff.mp hd₁).1⟩
    · exact .inr ⟨List.mem_cons_of_mem _ hmem, hstandalone ▸ hd₁⟩

/-- **Skipping.** Declarations are skipped only behind a reference to a parameter entity, and not in
a document that is declared to stand alone. -/
theorem skipping_of_acceptAll_initial (h : acceptAll w (.initial false) .opening ts = some (d, g)) :
    d.isThorough = false
      ∧ (d.isSkipping = true → .parameterReference ∈ ts ∧ isStandalone ts = false) := by
  cases ts with
  | nil =>
    cases h
    exact ⟨rfl, nofun⟩
  | cons t ts =>
    obtain ⟨d₁, g₁, haccept, hrest⟩ := exists_of_acceptAll_cons h
    have hframe := frame_of_accept haccept
    obtain ⟨hthorough, -, hskipping⟩ := skipping_of_acceptAll hframe.ne_opening hrest
    have hstandalone : d₁.standalone = isStandalone (t :: ts) := by
      by_cases ht : ∃ body, t = .remark (.declaration body)
      · obtain ⟨body, rfl⟩ := ht
        exact (hframe.declared body rfl).2
      · rw [hframe.standalone fun body h ↦ ht ⟨body, h⟩]
        cases t with
        | remark r =>
          cases r with
          | declaration body => exact absurd ⟨body, rfl⟩ ht
          | _ => rfl
        | _ => rfl
    refine ⟨hthorough.trans hframe.isThorough, fun hd ↦ ?_⟩
    rcases hskipping hd with hd₁ | ⟨hmem, hd₁⟩
    · rcases hframe.isSkipping with heq | ⟨rfl, -⟩
      · rw [heq] at hd₁
        cases hd₁
      · exact ⟨List.mem_cons_self, rfl⟩
    · exact ⟨List.mem_cons_of_mem _ hmem, hstandalone ▸ hd₁⟩

/-! ## Declarations of entities -/

theorem Grammar.Refuses.acceptAll (hg : g.Refuses d)
    (h : acceptAll w d g ts = some (d', g')) : g'.Refuses d' := by
  induction ts generalizing d g with
  | nil =>
    cases h
    exact hg
  | cons t ts ih =>
    obtain ⟨d₁, g₁, haccept, hrest⟩ := exists_of_acceptAll_cons h
    exact ih ((frame_of_accept haccept).refuses hg) hrest

/-- Whether the tokens behind the keyword of a declaration of an entity begin with the name of a
predefined entity. -/
def namesPredefined : List Token → Bool
  | .space :: ts => namesPredefined ts
  | .name s :: _ => (predefined? s).isSome
  | _ => false

theorem overlooked_of_entityName
    (h : acceptAll w d .entityName ts = some (d', g')) (hend : g'.mayEnd = true) :
    d.isSkipping = true ∨ namesPredefined ts = true := by
  -- a declaration bound to be refused stays so to the end, where no root element may begin
  have hrefuses {g : Grammar} {ts : List Token} (hg : d.isSkipping = false → g.Refuses d)
      (h : acceptAll w d g ts = some (d', g')) : d.isSkipping = true := by
    by_contra hskipping
    have hrefused := (hg (Bool.eq_false_iff.mpr hskipping)).acceptAll h
    rw [Grammar.mayEnd_eq_false_of_refuses hrefused] at hend
    cases hend
  induction ts with
  | nil =>
    cases h
    cases hend
  | cons t ts ih =>
    obtain ⟨d₁, g₁, haccept, hrest⟩ := exists_of_acceptAll_cons h
    cases t with
    | space =>
      cases haccept
      exact ih hrest
    | percent =>
      cases haccept
      exact .inl (hrefuses id hrest)
    | name s =>
      cases haccept
      cases hs : predefined? s with
      | some c => exact .inr (by rw [namesPredefined, hs]; rfl)
      | none =>
        refine .inl (hrefuses (fun hskipping ↦ ?_) hrest)
        simp [Grammar.Refuses, hskipping, hs]
    | remark r => cases r <;> cases haccept
    | _ => cases haccept

theorem accept_entity {start : Nat} (h : d.accept w g start (.opening "ENTITY") = .ok (d', g')) :
    d' = d ∧ g' = .entityName := by
  cases g with
  | subset =>
    cases h
    exact ⟨rfl, rfl⟩
  | _ => cases h

/-- **Entities.** An entity whose declaration a prolog gets away with is a predefined one, or its
declaration is skipped: it stands behind a reference to a parameter entity, and the document is not
declared to stand alone. -/
theorem overlooked_of_acceptAll {front behind : List Token}
    (h : acceptAll w (.initial false) .opening (front ++ .opening "ENTITY" :: behind)
      = some (d', g')) (hend : g'.mayEnd = true) :
    namesPredefined behind = true ∨ .parameterReference ∈ front
      ∧ isStandalone (front ++ .opening "ENTITY" :: behind) = false := by
  obtain ⟨d₁, g₁, hfront, hrest⟩ := exists_of_acceptAll_append h
  obtain ⟨d₂, g₂, haccept, hbehind⟩ := exists_of_acceptAll_cons hrest
  obtain ⟨rfl, rfl⟩ := accept_entity haccept
  rcases overlooked_of_entityName hbehind hend with hd | hnames
  · obtain ⟨hmem, hstandalone⟩ := (skipping_of_acceptAll_initial hfront).2 hd
    refine .inr ⟨hmem, ?_⟩
    -- the first token of all tells, and it stands in front
    cases front with
    | nil => cases hmem
    | cons t front =>
      cases t with
      | remark r => cases r <;> exact hstandalone
      | _ => exact hstandalone
  · exact .inl hnames

end AcceptAll

end VectorLint.Markup.Doctype
