import Mathlib.Data.List.Infix
import Mathlib.Data.List.TakeWhile
import VectorLint.Proofs.Markup.Writings

/-!
# Declarations read thoroughly

Markup is read twice, and the second reading is more thorough: it reads declarations that the check
skips, it takes down entities where the check refuses them, and it holds itself to a depth of
parentheses that the check does not know. A prolog in which none of this comes up is harmless. What
the check makes of a harmless prolog, the thorough reading makes of it as well, and so both know the
same of attributes when the root element begins. An element that may begin for the check begins for
the thorough reading too, and with the same event.
-/

namespace VectorLint.Markup

/-! ## Literals -/

namespace Literal

theorem salvagedPiece?_of_fault? {isPartial : Bool} {start offset : Nat} {r : Reference}
    (h : r.fault? isPartial start offset = none) : salvagedPiece? r = some (.reference r 0) := by
  cases r with
  | entity name => rfl
  | number n =>
    rw [Reference.fault?] at h
    split at h
    · rename_i hn
      cases n with
      | zero => exact absurd hn (by decide)
      | succ n =>
        rw [salvagedPiece?, if_pos hn]
        intro h
        cases h
    · cases h

/-- What is read of a literal before a character that is to be looked at. -/
def State.within? : State → Option (Option Reference.Start)
  | .text => some none
  | .reference _ r => some (some r)
  | _ => none

theorem salvaged?_of_fault? {w : Writing} {isPartial : Bool} {start offset : Nat}
    {s : State} {s' : Option Reference.Start} {cs : List Char} (hs : s.within? = some s')
    (hcs : ∀ c ∈ cs, w.IsUsual c) (h : fault? w false isPartial start offset s cs = none) :
    salvaged? .octets s' cs = some (pieces w s' cs) := by
  induction cs generalizing s s' offset with
  | nil => cases s <;> cases hs <;> first | rfl | cases h
  | cons c cs ih =>
    have hrest : ∀ c ∈ cs, w.IsUsual c := fun c hc ↦ hcs c (List.mem_cons_of_mem _ hc)
    cases s with
    | text =>
      cases hs
      rw [fault?] at h
      simp only [salvaged?, pieces]
      split at h
      · rename_i hamp
        rw [if_pos hamp, if_pos hamp]
        exact ih rfl hrest h
      · rename_i hamp
        rw [if_neg hamp, if_neg hamp]
        simp only [Bool.false_and, Bool.false_eq_true, if_false, Bool.not_false, Bool.true_and] at h
        split at h
        · cases h
        · rw [ih rfl hrest h]
          rfl
    | reference mark r =>
      cases hs
      have hstep := Reference.Start.step_octets (hcs c List.mem_cons_self) r
      rw [fault?, hstep] at h
      simp only [salvaged?, pieces, hstep]
      cases hr : r.step .octets c with
      | more r' =>
        rw [hr] at h
        exact ih rfl hrest h
      | invalid => rw [hr] at h; cases h
      | done r' =>
        rw [hr] at h
        simp only at h ⊢
        split at h
        · cases h
        · rename_i hfault
          rw [salvagedPiece?_of_fault? hfault, ih rfl hrest h]
          rfl
    | _ => cases hs

end Literal

/-! ## One token -/

namespace Doctype

/-- What a thorough reading knows. -/
def thorough (d : Doctype) : Doctype := { d with isThorough := true, isSkipping := false }

theorem declare_thorough {d : Doctype} (hd : d.isSkipping = false) (element name : String)
    (isText : Bool) (value : Option String) :
    d.thorough.declare element name isText value
      = (d.declare element name isText value).thorough := by
  rw [declare, declare, hd]
  rfl

theorem declareDefault_thorough {d d' : Doctype} {w : Writing} {element name : String}
    {isText : Bool} {start : Nat} {text : List Char} (hd : d.isThorough = false)
    (hskipping : d.isSkipping = false) (htext : ∀ c ∈ text, w.IsUsual c)
    (h : d.declareDefault w element name isText start text = .ok d') (start' : Nat) :
    d.thorough.declareDefault .octets element name isText start' text = .ok d'.thorough := by
  simp only [declareDefault, hd, hskipping, Bool.false_eq_true, if_false] at h
  split at h
  · cases h
  · rename_i hfault
    cases h
    have hsalvaged : Literal.salvaged? .octets none text = some (Literal.pieces w none text) :=
      Literal.salvaged?_of_fault? rfl htext hfault
    have hthorough : d.thorough.isThorough = true := rfl
    have hskipping' : d.thorough.isSkipping = false := rfl
    simp only [declareDefault, hthorough, hskipping', Bool.false_eq_true, if_false, if_true,
      hsalvaged, ← declare_thorough hskipping]

private theorem ite_eq_ok {P : Prop} [Decidable P] {α : Type} {x y x' y' : Except Fault α}
    {a a' : α} (hx : x = .ok a → x' = .ok a') (hy : y = .ok a → y' = .ok a') :
    (if P then x else y) = .ok a → (if P then x' else y') = .ok a' := by
  split
  · exact hx
  · exact hy

private theorem bind_eq_ok {α β : Type} {x : Except Fault α} {f f' : α → Except Fault β} {b b' : β}
    (hf : ∀ a, x = .ok a → f a = .ok b → f' a = .ok b') :
    (x >>= f) = .ok b → (x >>= f') = .ok b' := by
  cases x with
  | error e => exact nofun
  | ok a => exact hf a rfl

/-- **A token** that the check accepts is accepted thoroughly, to the same effect, unless it belongs
to the declaration of an entity or to a list of attributes that is skipped, or opens too many
parentheses. -/
theorem accept_thorough {d d' : Doctype} {w : Writing} {g g' : Grammar} {start : Nat} {t : Token}
    (hd : d.isThorough = false) (hentity : g.isEntity = false)
    (hlist : g.isList = true → d.isSkipping = false)
    (hdepth : t = .openParenthesis → g.depth < maxDepth)
    (hliteral : ∀ c ∈ Prolog.literalOf t, w.IsUsual c) (h : d.accept w g start t = .ok (d', g')) :
    d.thorough.accept .octets g start t = .ok (d'.thorough, g') := by
  have hdefault {element name : String} {isText : Bool} {text : List Char}
      (hg : g.isList = true) (ht : t = .literal text)
      (h : (do return (← d.declareDefault w element name isText start text, .listName element) :
        Except Fault (Doctype × Grammar)) = .ok (d', g')) :
      (do return (← d.thorough.declareDefault .octets element name isText start text,
          .listName element) : Except Fault (Doctype × Grammar)) = .ok (d'.thorough, g') := by
    cases hdefault : d.declareDefault w element name isText start text with
    | error f => rw [hdefault] at h; cases h
    | ok d₁ =>
      rw [hdefault] at h
      cases h
      have htext : ∀ c ∈ text, w.IsUsual c := by
        rw [ht] at hliteral
        exact hliteral
      rw [declareDefault_thorough hd (hlist hg) htext hdefault start]
      rfl
  have hopens {separators : List (Option Char)} {g₁ : Grammar} {f : Fault}
      (hlength : separators.length < maxDepth)
      (h : (if d.isThorough && separators.length ≥ maxDepth then .error f else .ok (d, g₁))
        = Except.ok (d', g')) :
      (if d.thorough.isThorough && separators.length ≥ maxDepth then .error f
        else .ok (d.thorough, g₁)) = Except.ok (d'.thorough, g') := by
    rw [hd, Bool.false_and, if_neg Bool.false_ne_true] at h
    cases h
    rw [if_neg (by simp; omega)]
  revert h
  unfold accept
  split
  -- tokens that are ruled out or refused come first, then those with a lemma of their own
  all_goals
    first
    | (cases hentity; done)
    | (intro h; cases h; done)
    | (intro h; cases h; rfl)
    | (intro h; cases h; simp [thorough])
    | exact hdefault rfl rfl
    | exact hopens (hdepth rfl)
    | (cases Declaration.read (start + 5) _ <;> intro h <;> cases h; rfl)
    | (refine bind_eq_ok fun _ _ h ↦ ?_; cases h; rfl)
    | (repeat' apply ite_eq_ok
       all_goals (intro h; cases h; try first | rfl | rw [declare_thorough (hlist rfl)]))

/-! ## Harmless prologs -/

/-- What the tokens of a list come to together. -/
def total (f : Token → Nat) (ts : List Token) : Nat := (ts.map f).foldr (· + ·) 0

theorem total_concat (f : Token → Nat) (ts : List Token) (t : Token) :
    total f (ts ++ [t]) = total f ts + f t := by
  induction ts with
  | nil => exact Nat.add_comm _ _
  | cons t' ts ih =>
    have hcons (ts : List Token) : total f (t' :: ts) = f t' + total f ts := rfl
    rw [List.cons_append, hcons, hcons, ih, Nat.add_assoc]

/-- Whether some tokens hold nothing that a thorough reading takes in another way than the check: no
entity is declared, no list of attributes stands where declarations are skipped, and no more
parentheses are open at a time than a thorough reading follows. -/
structure IsHarmless (ts : List Token) : Prop where
  entities : .opening "ENTITY" ∉ ts
  attributes : isStandalone ts = true
    ∨ .opening "ATTLIST" ∉ ts.dropWhile (· ≠ .parameterReference)
  depth : ∀ front ∈ ts.inits, total Token.opens front ≤ total Token.closes front + maxDepth

instance : DecidablePred IsHarmless := fun ts ↦
  decidable_of_iff (.opening "ENTITY" ∉ ts
    ∧ (isStandalone ts = true ∨ .opening "ATTLIST" ∉ ts.dropWhile (· ≠ .parameterReference))
    ∧ ∀ front ∈ ts.inits, total Token.opens front ≤ total Token.closes front + maxDepth)
    ⟨fun ⟨h, h', h''⟩ ↦ ⟨h, h', h''⟩, fun ⟨h, h', h''⟩ ↦ ⟨h, h', h''⟩⟩

/-- Where a list of attributes stands behind a reference to a parameter entity, the document is
declared to stand alone. -/
theorem IsHarmless.isStandalone {front behind : List Token}
    (h : IsHarmless (front ++ .opening "ATTLIST" :: behind)) (hmem : .parameterReference ∈ front) :
    isStandalone (front ++ .opening "ATTLIST" :: behind) = true := by
  refine h.attributes.resolve_right fun hbehind ↦ hbehind ?_
  have hfront : (front.dropWhile (· ≠ .parameterReference)).isEmpty = false := by
    rw [List.isEmpty_eq_false_iff, ne_eq, List.dropWhile_eq_nil_iff]
    exact fun hall ↦ of_decide_eq_true (hall _ hmem) rfl
  rw [List.dropWhile_append, hfront]
  exact List.mem_append_right _ List.mem_cons_self

theorem isStandalone_append {ts : List Token} (hts : ts ≠ []) (ts' : List Token) :
    isStandalone (ts ++ ts') = isStandalone ts := by
  cases ts with
  | nil => exact absurd rfl hts
  | cons t ts =>
    cases t with
    | remark r => cases r <;> rfl
    | _ => rfl

theorem accept_parameterReference {d d' : Doctype} {w : Writing} {g g' : Grammar} {start : Nat}
    (h : d.accept w g start .parameterReference = .ok (d', g')) : g' = .subset := by
  cases g with
  | subset =>
    cases h
    rfl
  | _ => cases h

/-- What holds between two tokens of a harmless prolog, behind the tokens `front`. -/
structure IsCalm (front : List Token) (d : Doctype) (g : Grammar) : Prop where
  isEntity : g.isEntity = false
  isList : g.isList = true → d.isSkipping = false
  depth : g.depth + total Token.closes front = total Token.opens front

section

variable {w : Writing} {d d' : Doctype} {g g' : Grammar} {t : Token} {front ts : List Token}

theorem IsCalm.accept (hharmless : IsHarmless (front ++ t :: ts))
    (hfront : acceptAll w (.initial false) .opening front = some (d, g)) (hcalm : IsCalm front d g)
    (h : d.accept w g 0 t = .ok (d', g')) : IsCalm (front ++ [t]) d' g' := by
  have hframe := frame_of_accept h
  refine ⟨?_, fun hg' ↦ ?_, ?_⟩
  -- only a keyword leads into a declaration, and a harmless prolog has none for entities
  · refine Bool.eq_false_iff.mpr fun hg' ↦ ?_
    rcases hframe.isEntity hg' with hg | rfl
    · rw [hcalm.isEntity] at hg
      cases hg
    · exact hharmless.entities (List.mem_append_right _ List.mem_cons_self)
  · have hskipping : d'.isSkipping = d.isSkipping := by
      rcases hframe.isSkipping with heq | ⟨rfl, -⟩
      · exact heq
      · rw [accept_parameterReference h] at hg'
        cases hg'
    rw [hskipping]
    rcases hframe.isList hg' with hg | rfl
    · exact hcalm.isList hg
    -- a list that begins while declarations are skipped stands behind a reference to a parameter
    -- entity, which the prolog allows only where nothing is skipped behind it
    · refine Bool.eq_false_iff.mpr fun hd ↦ ?_
      obtain ⟨hmem, hstandalone⟩ := (skipping_of_acceptAll_initial hfront).2 hd
      have hsays := hharmless.isStandalone hmem
      rw [isStandalone_append (List.ne_nil_of_mem hmem), hstandalone] at hsays
      cases hsays
  · have hdepth := hframe.depth
    have hcalm := hcalm.depth
    rw [total_concat, total_concat]
    omega

/-- **A harmless prolog** that the check accepts is accepted thoroughly, to the same effect. -/
theorem acceptAll_thorough (hharmless : IsHarmless (front ++ ts))
    (hliteral : ∀ t ∈ ts, ∀ c ∈ Prolog.literalOf t, w.IsUsual c)
    (hfront : acceptAll w (.initial false) .opening front = some (d, g)) (hcalm : IsCalm front d g)
    (h : acceptAll w d g ts = some (d', g')) :
    acceptAll .octets d.thorough g ts = some (d'.thorough, g') := by
  induction ts generalizing front d g with
  | nil =>
    cases h
    rfl
  | cons t ts ih =>
    obtain ⟨d₁, g₁, haccept, hrest⟩ := exists_of_acceptAll_cons h
    have hdepth (ht : t = .openParenthesis) : g.depth < maxDepth := by
      have hbound := hharmless.depth (front ++ [t]) ((List.mem_inits _ _).mpr ⟨ts, by simp⟩)
      have hcalm := hcalm.depth
      have hopens : t.opens = 1 ∧ t.closes = 0 := ht ▸ ⟨rfl, rfl⟩
      rw [total_concat, total_concat, hopens.1, hopens.2] at hbound
      omega
    have hthorough := accept_thorough (skipping_of_acceptAll_initial hfront).1 hcalm.isEntity
      hcalm.isList hdepth (hliteral t List.mem_cons_self) haccept
    have hone : acceptAll w d g [t] = some (d₁, g₁) := by
      rw [acceptAll, haccept]
      rfl
    have hfront' : acceptAll w (.initial false) .opening (front ++ [t]) = some (d₁, g₁) := by
      rw [acceptAll_append, hfront]
      exact hone
    rw [acceptAll, hthorough]
    exact ih (by rwa [List.append_assoc]) (fun t ht ↦ hliteral t (List.mem_cons_of_mem _ ht))
      hfront' (hcalm.accept hharmless hfront haccept) hrest

theorem lt_of_mem_keywords {k : String} (hk : k ∈ keywords) : ∀ c ∈ k.toList, c.toNat < 0x80 := by
  have hall : (keywords.all fun k ↦ k.toList.all fun c ↦ c.toNat < 0x80) = true := by
    decide +kernel
  exact fun c hc ↦ of_decide_eq_true (List.all_eq_true.mp (List.all_eq_true.mp hall k hk) c hc)

/-- The keywords of a prolog that is accepted are those of declarations. -/
theorem mem_keywords_of_acceptAll {k : String}
    (h : acceptAll w d g ts = some (d', g')) (hk : .opening k ∈ ts) : k ∈ keywords := by
  induction ts generalizing d g with
  | nil => cases hk
  | cons t ts ih =>
    obtain ⟨d₁, g₁, haccept, hrest⟩ := exists_of_acceptAll_cons h
    rcases List.mem_cons.mp hk with rfl | hk
    · exact (frame_of_accept haccept).keyword k rfl
    · exact ih hrest hk

end

/-! ## The beginning of an element -/

theorem addBindings_thorough {d : Doctype} (hd : d.isThorough = false) {start : Nat}
    {scope scope' : Scope} {bindings : List (Option String × String)}
    (h : d.addBindings start scope bindings = .ok scope') (start' : Nat) :
    d.thorough.addBindings start' scope bindings = .ok scope' := by
  -- either way the bindings are put in front one by one; the check looks at them before
  have hreverse : scope' = bindings.reverse ++ scope := by
    rw [addBindings, hd, if_neg Bool.false_ne_true] at h
    induction bindings generalizing scope with
    | nil => exact (Except.ok.inj h).symm
    | cons b bs ih =>
      rw [List.foldlM_cons] at h
      cases hb : scope.bind b.1 b.2 with
      | error p =>
        simp only [hb] at h
        cases h
      | ok s =>
        simp only [hb] at h
        have hs : s = b :: scope := by
          rw [Scope.bind] at hb
          split at hb
          · cases hb
          · exact (Except.ok.inj hb).symm
        rw [ih h, hs, List.reverse_cons, List.append_assoc, List.singleton_append]
  rw [hreverse]
  rfl

private theorem readAttributes_thorough {d : Doctype} {declared : List AttributeDeclaration}
    {scope : Scope} {start : Nat} {as as' : List RawAttribute} {q : Scope × List (QName × String)}
    (has : as.map RawAttribute.unplaced = as'.map RawAttribute.unplaced)
    (h : d.readAttributes start declared scope [] as = .ok q) (start' : Nat) :
    d.thorough.readAttributes start' declared scope [] as' = .ok q := by
  have hpartial : d.thorough.isPartial = d.isPartial := rfl
  have hread := toOption_readAttributes (Eq.refl d.isPartial) start start' declared scope [] as
  have hread' := toOption_readAttributes hpartial start' start' declared scope [] as'
  rw [h, has, ← hread'] at hread
  exact eq_ok_of_toOption hread.symm

/-- **An element** that may begin for the check begins thoroughly, wherever it stands. -/
theorem enter_thorough {d : Doctype} (hd : d.isThorough = false) {scope : Scope} {start : Nat}
    {tag tag' : StartTag} (htag : tag.unplaced = tag'.unplaced) {p : Scope × Event}
    (h : d.enter scope start tag = .ok p) (start' : Nat) :
    d.thorough.enter scope start' tag' = .ok p := by
  have hname : tag'.name = tag.name := (congrArg (·.name) htag).symm
  have hattributes : tag.attributes.map RawAttribute.unplaced
      = tag'.attributes.map RawAttribute.unplaced := congrArg (·.attributes) htag
  have hdeclared (s : String) : d.thorough.declarationsOf s = d.declarationsOf s := rfl
  simp only [enter, bind, Except.bind, hname, hdeclared, throw, throwThe,
    MonadExceptOf.throw] at h ⊢
  cases hread : d.readAttributes start (d.declarationsOf tag.name.text) scope []
    tag.attributes with
  | error f => rw [hread] at h; cases h
  | ok q =>
    rw [hread] at h
    rw [readAttributes_thorough hattributes hread start']
    simp only at h ⊢
    generalize (List.filterMap _ _ : List (QName × String)) = defaults at h ⊢
    cases hadd : d.addBindings start q.1 (bindingsOf defaults) with
    | error f => rw [hadd] at h; cases h
    | ok scope' =>
      rw [hadd] at h
      rw [addBindings_thorough hd hadd start']
      -- what is left of the two differs in the faults that the thorough reading does not know
      have hthorough : d.thorough.isThorough = true := rfl
      simp only [hd, hthorough, if_true, Bool.false_eq_true, if_false, Bool.not_true,
        Bool.and_false] at h ⊢
      split at h
      · cases h
      split at h
      · cases h
      exact h

end Doctype

end VectorLint.Markup
