import VectorLint.Proofs.Markup.Shifted

/-!
# What passes in octets passes in pairs

In UTF-16 three signs count as letters that count as none in UTF-8. So more is well-formed in UTF-16
than in UTF-8, and the converse of what is known of usual characters has to be shown by itself. It
rests on one fact: where a reader of UTF-8 asks whether a character belongs to a name, one of the
three signs is a fault. What has no fault in UTF-8 has then been asked of usual characters alone, or
of signs in places where nobody asks.
-/

namespace VectorLint.Markup

/-! ## The three signs -/

namespace Writing

/-- Whether a character is one of the signs that are letters in UTF-16 alone. -/
structure IsSign (c : Char) : Prop where
  isName : octets.isName c = false
  isNameStart : octets.isNameStart c = false
  ne : ∀ d : Char, d.toNat < 0x80 → c ≠ d

theorem isSign_of_mem {c : Char} (h : c ∈ letterSigns) : IsSign c := by
  have hall : (letterSigns.all fun c ↦ !octets.isName c && !octets.isNameStart c
      && decide (0x80 ≤ c.toNat)) = true := by
    decide +kernel
  have hc := List.all_eq_true.mp hall c h
  rw [Bool.and_eq_true, Bool.and_eq_true, Bool.not_eq_true', Bool.not_eq_true',
    decide_eq_true_eq] at hc
  obtain ⟨⟨hname, hstart⟩, hlarge⟩ := hc
  refine ⟨hname, hstart, ?_⟩
  rintro d hd rfl
  omega

theorem isUsual_or_isSign (c : Char) : pairs.IsUsual c ∨ IsSign c := by
  by_cases h : c ∈ letterSigns
  · exact .inr (isSign_of_mem h)
  · exact .inl (isUsual_of_notMem fun _ ↦ h)

theorem IsSign.isSpace {c : Char} (hc : IsSign c) : isSpace c = false := by
  simp (disch := decide) [Markup.isSpace, hc.ne]

theorem isNameStart_pairs {c : Char} (h : octets.isNameStart c = true) :
    pairs.isNameStart c = true := by
  have hstart : Markup.isNameStart c = true := by
    simpa [Writing.isNameStart, hasLetterSigns] using h
  rw [Writing.isNameStart, hstart, Bool.true_or]

theorem isName_pairs {c : Char} (h : octets.isName c = true) : pairs.isName c = true := by
  have hname : Markup.isName c = true := by
    simpa [Writing.isName, hasLetterSigns] using h
  rw [Writing.isName, hname, Bool.true_or]

theorem isLegal_of_isNameStart {c : Char} (h : octets.isNameStart c = true) :
    isLegal c = true := by
  have hstart : Markup.isNameStart c = true := by
    simpa [Writing.isNameStart, hasLetterSigns] using h
  have hlast : Text.betweenChanges nameStartChanges 0xFFFE = false
      ∧ Text.betweenChanges nameStartChanges 0xFFFF = false := by
    decide +kernel
  rw [Markup.isNameStart] at hstart
  simp only [isLegal]
  by_cases hsmall : c.toNat < 0x80
  · -- letters and the underscore stand behind the control characters
    rw [if_pos hsmall] at hstart
    have hlarge : 0x41 ≤ c.toNat := by
      rcases Bool.or_eq_true_iff.mp hstart with h | h
      · rcases Bool.or_eq_true_iff.mp h with h | h
        · exact (of_decide_eq_true h).1
        · exact Nat.le_trans (by decide) (of_decide_eq_true (Bool.and_eq_true_iff.mp h).1)
      · rw [beq_iff_eq.mp h]
        decide
    rw [if_neg (by omega)]
    simp
    omega
  · rw [if_neg hsmall] at hstart
    rw [if_neg (by omega)]
    simp only [Bool.and_eq_true, bne_iff_ne]
    constructor
    · intro h
      rw [h, hlast.1] at hstart
      cases hstart
    · intro h
      rw [h, hlast.2] at hstart
      cases hstart

end Writing

open Writing (IsSign isUsual_or_isSign)
open Doctype (Token)

/-! ## One character -/

section

variable {c : Char}

theorem Remark.Start.step_pairs {s : Remark.Start} (h : s.step .octets c ≠ .invalid) :
    s.step .pairs c = s.step .octets c := by
  rcases isUsual_or_isSign c with hc | hc
  · exact step_octets hc s
  · cases s with
    | mark => exact absurd (by simp [step, hc.isNameStart]) h
    | name read =>
      exact absurd (by simp (disch := decide) [step, hc.isName, hc.isSpace, hc.ne]) h
    | _ => rfl

theorem Reference.Start.step_pairs {s : Reference.Start} (h : s.step .octets c ≠ .invalid) :
    s.step .pairs c = s.step .octets c := by
  rcases isUsual_or_isSign c with hc | hc
  · exact step_octets hc s
  · cases s with
    | empty => exact absurd (by simp (disch := decide) [step, hc.isNameStart, hc.ne]) h
    | name read => exact absurd (by simp (disch := decide) [step, hc.isName, hc.ne]) h
    | _ => rfl

theorem EndTag.step_pairs {s : EndTag} (h : s.step .octets c ≠ .invalid) :
    s.step .pairs c = s.step .octets c := by
  rcases isUsual_or_isSign c with hc | hc
  · exact step_octets hc s
  · cases s with
    | empty => exact absurd (by simp [step, hc.isNameStart]) h
    | name read =>
      exact absurd (by simp (disch := decide) [step, hc.isName, hc.isSpace, hc.ne]) h
    | gap read => rfl

theorem StartTag.Start.step_pairs {offset : Nat} {s : StartTag.Start}
    (h : s.step .octets offset c ≠ .invalid) :
    s.step .pairs offset c = s.step .octets offset c := by
  rcases isUsual_or_isSign c with hc | hc
  · exact step_octets hc offset s
  · have hpush (n : NameStart) : n.push? .octets c = none := by
      unfold NameStart.push?
      split
      · simp [hc.isNameStart]
      · simp (disch := decide) [hc.isName, hc.ne]
    have hbetween (t : OpenTag) : t.between c = .invalid := by
      simp (disch := decide) [OpenTag.between, hc.isSpace, hc.ne]
    cases s with
    | name n =>
      refine absurd ?_ h
      rw [step, hpush]
      cases n.finish? with
      | none => rfl
      | some q => exact hbetween _
    | gap t => exact absurd (by simp [step, hc.isNameStart, hbetween]) h
    | key t n start =>
      refine absurd ?_ h
      rw [step, hpush]
      cases n.finish? with
      | none => rfl
      | some q => simp (disch := decide) [hc.isSpace, hc.ne]
    | reference t key q pieces start r =>
      have hr : r.step .octets c ≠ .invalid := fun hr ↦ h (by simp only [step, hr])
      simp only [step, Reference.Start.step_pairs hr]
    | _ => rfl

theorem Content.State.step_pairs {offset : Nat} {s : Content.State}
    (hs : ∀ read, s ≠ .sectionMark read) {p : Content.State × Option Content.Token}
    (h : s.step .octets offset c = .ok p) : s.step .pairs offset c = .ok p := by
  have hmove {σ α : Type} (state : σ → State) (token : α → Token) {m m' : Move σ α}
      (hm : m ≠ .invalid → m' = m) (h : Next.ofMove offset state token m = .ok p) :
      Next.ofMove offset state token m' = .ok p := by
    rw [hm]
    · exact h
    · rintro rfl
      cases h
  cases s with
  | sectionMark read => exact absurd rfl (hs read)
  | remark r => exact hmove .remark .remark Remark.Start.step_pairs h
  | tag t => exact hmove .tag .start StartTag.Start.step_pairs h
  | endTag t => exact hmove .endTag .close EndTag.step_pairs h
  | reference r => exact hmove .reference .reference Reference.Start.step_pairs h
  | angle =>
    rcases isUsual_or_isSign c with hc | hc
    · rwa [step_octets hc offset hs]
    · simp (disch := decide) [step, hc.isNameStart, hc.ne] at h
  | _ => exact h

namespace Prolog

theorem isKeyword_pairs (h : Writing.octets.isKeyword c = true) :
    Writing.pairs.isKeyword c = true := by
  obtain ⟨hplain, hstart⟩ := Bool.and_eq_true_iff.mp h
  refine Bool.and_eq_true_iff.mpr ⟨?_, Writing.isNameStart_pairs hstart⟩
  simp only [Writing.isPlain, decide_eq_true_eq] at hplain ⊢
  omega

theorem beginsElement_pairs (h : Writing.octets.isNameStart c = true) :
    Writing.pairs.beginsElement c = true := by
  rw [Writing.beginsElement]
  split
  · exact Writing.isNameStart_pairs h
  · rw [Writing.isLegal_of_isNameStart h, Bool.or_true]

private theorem ite_pairs {P Q : Prop} [Decidable P] [Decidable Q] {n : Next}
    (hvalid : ∀ back, (if P then n else .invalid 0) ≠ .invalid back) (h : P → Q) :
    (if Q then n else .invalid 0) = if P then n else .invalid 0 := by
  by_cases hP : P
  · rw [if_pos hP, if_pos (h hP)]
  · rw [if_neg hP] at hvalid
    exact absurd rfl (hvalid 0)

/-- **One character of a prolog** that has no fault in UTF-8 does the same in UTF-16. -/
theorem State.step_pairs {s : State} (hvalid : ∀ back, s.step .octets c ≠ .invalid back)
    (hroot : s.step .octets c = .root → Writing.octets.isNameStart c = true) :
    s.step .pairs c = s.step .octets c := by
  have hfault {n : Next} {back : Nat} (h : s.step .octets c = .invalid back) :
      n = s.step .octets c := absurd h (hvalid back)
  cases s with
  | angle =>
    simp only [step] at hvalid hroot ⊢
    split
    · rfl
    split
    · rfl
    rename_i hbang hmark
    rw [if_neg hbang, if_neg hmark] at hvalid hroot
    exact ite_pairs hvalid fun h ↦ beginsElement_pairs (hroot (if_pos h))
  | bang =>
    simp only [step] at hvalid ⊢
    split
    · rfl
    split
    · rfl
    rename_i hhyphen hbracket
    rw [if_neg hhyphen, if_neg hbracket] at hvalid
    exact ite_pairs hvalid isKeyword_pairs
  | keyword read =>
    simp only [step] at hvalid ⊢
    split
    · rfl
    split
    · rfl
    rename_i hpercent hspace
    rw [if_neg hpercent, if_neg hspace] at hvalid
    exact ite_pairs hvalid isKeyword_pairs
  | remark r =>
    have hr : r.step .octets c ≠ .invalid := fun hr ↦ hvalid 0 (by simp only [step, hr])
    simp only [step, Remark.Start.step_pairs hr]
  | _ =>
    rcases isUsual_or_isSign c with hc | hc
    · simp only [step, begin, continueWord, hc.isName, hc.isNameStart]
    -- a sign that is asked for here is a fault
    · first
      | rfl
      | exact hfault (show _ = Next.invalid 0 by
          simp (disch := decide) [step, begin, continueWord, hc.isName, hc.isNameStart, hc.isSpace,
            hc.ne])

theorem State.read_pairs {again : Nat} {s : State} {ts : List Token} {s' : Option State}
    (h : s.read .octets again c = some (ts, s'))
    (hroot : s' = none → Writing.octets.isNameStart c = true) :
    s.read .pairs again c = some (ts, s') := by
  induction again generalizing s ts with
  | zero =>
    unfold read at h ⊢
    rw [step_pairs]
    · exact h
    · intro back hstep
      rw [hstep] at h
      cases h
    · intro hstep
      rw [hstep] at h
      cases h
      exact hroot rfl
  | succ again ih =>
    unfold read at h ⊢
    rw [step_pairs]
    · cases hstep : s.step .octets c with
      | before t s₁ back =>
        rw [hstep] at h
        obtain ⟨⟨ts', s₂⟩, hread, hp⟩ := Option.map_eq_some_iff.mp h
        cases hp
        simp only [ih hread, Option.map_some]
      | _ => rwa [hstep] at h
    · intro back hstep
      rw [hstep] at h
      cases h
    · intro hstep
      rw [hstep] at h
      cases h
      exact hroot rfl

/-- **A prolog** is split in UTF-16 as it is in UTF-8. -/
theorem split?_pairs {s : State} {cs rest : List Char} {ts : List Token}
    (h : split? .octets s cs = some (ts, c, rest)) (hc : Writing.octets.isNameStart c = true) :
    split? .pairs s cs = some (ts, c, rest) := by
  induction cs generalizing s ts with
  | nil => cases h
  | cons c' cs ih =>
    rw [split?] at h ⊢
    rcases hread : s.read .octets 3 c' with _ | ⟨ts₁, _ | s'⟩ <;> rw [hread] at h
    · cases h
    · cases h
      rw [State.read_pairs hread fun _ ↦ hc]
    · obtain ⟨⟨ts₂, root⟩, hrest, hp⟩ := Option.map_eq_some_iff.mp h
      cases hp
      rw [State.read_pairs hread (fun h ↦ by cases h)]
      simp only [ih hrest, Option.map_some]

end Prolog

end

/-! ## Literals -/

namespace Literal

variable {isEntity isPartial : Bool} {start offset : Nat} {cs : List Char}

theorem step_ne_invalid_of_fault? {w : Writing} {mark : Nat} {r : Reference.Start} {c : Char}
    (h : fault? w isEntity isPartial start offset (.reference mark r) (c :: cs) = none) :
    r.step w c ≠ .invalid := by
  intro hr
  rw [fault?, hr] at h
  cases h

theorem fault?_pairs {s : State}
    (h : fault? .octets isEntity isPartial start offset s cs = none) :
    fault? .pairs isEntity isPartial start offset s cs = none := by
  induction cs generalizing offset s with
  | nil => exact h
  | cons c cs ih =>
    cases s with
    | text =>
      rw [fault?] at h ⊢
      repeat' split at h
      · rename_i hamp
        rw [if_pos hamp]
        exact ih h
      · rename_i hamp hpercent
        rw [if_neg hamp, if_pos hpercent]
        exact ih h
      · cases h
      · rename_i hamp hpercent hangle
        rw [if_neg hamp, if_neg hpercent, if_neg hangle]
        exact ih h
    | reference mark r =>
      have hstep := Reference.Start.step_pairs (step_ne_invalid_of_fault? h)
      rw [fault?] at h ⊢
      rw [hstep]
      cases hr : r.step .octets c with
      | more r' =>
        rw [hr] at h
        exact ih h
      | invalid => rw [hr] at h; cases h
      | done r' =>
        rw [hr] at h
        simp only at h ⊢
        split at h
        · cases h
        · exact ih h
    | percent mark =>
      rw [fault?] at h ⊢
      split at h
      · rename_i hstart
        rw [if_pos (Writing.isNameStart_pairs hstart)]
        exact ih h
      · cases h
    | parameter mark =>
      rw [fault?] at h ⊢
      split at h
      · cases h
      split at h
      · rename_i hsemicolon hname
        rw [if_neg hsemicolon, if_pos (Writing.isName_pairs hname)]
        exact ih h
      · cases h

theorem pieces_pairs {s : State} {s' : Option Reference.Start} (hs : s.within? = some s')
    (h : fault? .octets false isPartial start offset s cs = none) :
    pieces .pairs s' cs = pieces .octets s' cs := by
  induction cs generalizing s s' offset with
  | nil => rfl
  | cons c cs ih =>
    cases s with
    | text =>
      cases hs
      rw [fault?] at h
      rw [pieces, pieces]
      split at h
      · rename_i hamp
        rw [if_pos hamp, if_pos hamp]
        exact ih rfl h
      · rename_i hamp
        rw [if_neg hamp, if_neg hamp]
        simp only [Bool.false_and, Bool.false_eq_true, if_false] at h
        split at h
        · cases h
        · rw [ih rfl h]
    | reference mark r =>
      cases hs
      have hstep := Reference.Start.step_pairs (step_ne_invalid_of_fault? h)
      rw [fault?] at h
      simp only [pieces, hstep]
      cases hr : r.step .octets c with
      | more r' =>
        rw [hr] at h
        exact ih rfl h
      | invalid => rw [hr] at h; cases h
      | done r' =>
        rw [hr] at h
        simp only at h ⊢
        split at h
        · cases h
        · rw [ih rfl h]
    | percent mark => cases hs
    | parameter mark => cases hs

end Literal

/-! ## One token -/

namespace Doctype

variable {d d' : Doctype} {g g' : Grammar} {start : Nat}

theorem declareDefault_pairs (hd : d.isThorough = false) {element name : String} {isText : Bool}
    {text : List Char} (h : d.declareDefault .octets element name isText start text = .ok d') :
    d.declareDefault .pairs element name isText start text = .ok d' := by
  simp only [declareDefault, hd, Bool.false_eq_true, if_false] at h ⊢
  split at h
  · rename_i hskipping
    rw [if_pos hskipping]
    exact h
  · rename_i hskipping
    rw [if_neg hskipping]
    split at h
    · cases h
    · rename_i hfault
      rw [Literal.fault?_pairs hfault, Literal.pieces_pairs rfl hfault]
      exact h

/-- **A token** that the check accepts in UTF-8 it accepts in UTF-16, to the same effect. -/
theorem accept_pairs (hd : d.isThorough = false) {t : Token}
    (h : d.accept .octets g start t = .ok (d', g')) :
    d.accept .pairs g start t = .ok (d', g') := by
  have hdefault {element name : String} {isText : Bool} {text : List Char}
      (h : (do return (← d.declareDefault .octets element name isText start text,
          .listName element) : Except Fault (Doctype × Grammar)) = .ok (d', g')) :
      (do return (← d.declareDefault .pairs element name isText start text, .listName element) :
        Except Fault (Doctype × Grammar)) = .ok (d', g') := by
    cases hdefault : d.declareDefault .octets element name isText start text with
    | error f => rw [hdefault] at h; cases h
    | ok d₁ =>
      rw [hdefault] at h
      rw [declareDefault_pairs hd hdefault]
      exact h
  revert h
  unfold accept
  split
  all_goals
    first
    | exact id
    | exact hdefault
    | skip
  -- the value of an entity is left
  rename_i e text
  intro h
  cases hrefuse : e.refuse with
  | error f => rw [hrefuse] at h; cases h
  | ok u =>
    rw [hrefuse] at h
    cases hfault : Literal.fault? .octets true d.isPartial start (start + 1) .text text with
    | none => rwa [Literal.fault?_pairs hfault, ← hfault]
    | some f =>
      by_cases hskipping : d.isSkipping = true
      · simp only [hfault, hskipping, if_true] at h ⊢
        cases Literal.fault? .pairs true d.isPartial start (start + 1) .text text <;> exact h
      · simp only [hfault, hskipping] at h
        cases h

/-- **Tokens** that the check accepts in UTF-8 it accepts in UTF-16. -/
theorem acceptAll_pairs (hd : d.isThorough = false) {ts : List Token}
    (h : acceptAll .octets d g ts = some (d', g')) : acceptAll .pairs d g ts = some (d', g') := by
  induction ts generalizing d g with
  | nil => exact h
  | cons t ts ih =>
    obtain ⟨d₁, g₁, haccept, hrest⟩ := exists_of_acceptAll_cons h
    have hd₁ : d₁.isThorough = false := (frame_of_accept haccept).isThorough.trans hd
    rw [acceptAll, accept_pairs hd haccept]
    exact ih hd₁ hrest

end Doctype

/-! ## The root element and what follows it -/

theorem Content.State.IsOpen.step_pairs {offset : Nat} {s s₁ : Content.State} {c : Char}
    {t : Option Content.Token} (hs : s.IsOpen) (h : s.step .octets offset c = .ok (s₁, t)) :
    s₁.IsStuck ∧ t = none ∨ s.step .pairs offset c = .ok (s₁, t) ∧ s₁.IsOpen := by
  by_cases hmark : ∃ read, s = .sectionMark read
  · obtain ⟨read, rfl⟩ := hmark
    exact IsOpen.step_sectionMark hs h .pairs offset
  · rw [not_exists] at hmark
    exact .inr ⟨Content.State.step_pairs hmark h, isOpen_of_step hmark h⟩

/-- Whether a reading has left the prolog and a section may still begin where its mark is looked
for. -/
def Mode.IsInside : Mode → Prop
  | .prolog _ _ _ => False
  | .content _ _ s => s.IsOpen
  | .epilog _ => True

namespace Reader

variable {r r' r₁ : Reader} {c : Char} {cs : List Char}

/-- A reader as if its characters were written in UTF-16. -/
def inPairs (r : Reader) : Reader := { r with writing := .pairs }

/-- Whether a reader of UTF-16 is where a reader of UTF-8 is inside the root element or behind it,
but for places, and has found the same. -/
structure InPairs (r r' : Reader) : Prop where
  writing : r.writing = .octets
  isInside : r.mode.IsInside
  view : r'.view = (r.mode.unplaced, .pairs, r.events)

private theorem gist_step_pairs (hwriting : r.writing = .octets) (hinside : r.mode.IsInside)
    (hr : r.step c = .ok r₁) : r₁.mode.IsStuck ∨ r₁.writing = .octets ∧ r₁.mode.IsInside
      ∧ (r.inPairs.step c).toOption.map gist = some (r₁.mode, .pairs, r₁.events) := by
  have hgist := gist_eq_of_step hr
  cases hm : r.mode with
  | prolog d g s =>
    rw [hm] at hinside
    exact hinside.elim
  | content d opened s =>
    rw [hm] at hinside
    rw [gist_step_of_content hm, hwriting] at hgist
    rw [gist_step_of_content (r := r.inPairs) hm]
    obtain ⟨⟨s₁, t⟩, hs₁, hp⟩ := Option.bind_eq_some_iff.mp hgist
    rcases hinside.step_pairs (eq_ok_of_toOption hs₁) with ⟨hstuck, rfl⟩ | ⟨hstep, hopen⟩
    · rw [show r₁.mode = _ from congrArg Prod.fst (Option.some.inj hp).symm]
      exact .inl hstuck
    refine .inr ?_
    rw [show r.inPairs.writing = .pairs from rfl, show r.inPairs.offset = r.offset from rfl, hstep]
    cases t with
    | none =>
      obtain ⟨hmode, hw, hevents⟩ := gist_eq_iff.mp (Option.some.inj hp).symm
      rw [hmode, hevents]
      exact ⟨hw, hopen, rfl⟩
    | some t =>
      obtain ⟨q, hq, hr₁⟩ := Option.map_eq_some_iff.mp hp
      obtain ⟨hmode, hw, hevents⟩ := gist_eq_iff.mp hr₁.symm
      have haccept : (r.inPairs.atToken s).accept d opened t = .ok q := eq_ok_of_toOption (by
        rw [toOption_accept _ (r.atToken s), ← toOption_accept (r.atToken s), hq])
      rw [hmode, hevents]
      refine ⟨hw, ?_, ?_⟩
      · rw [behindToken]
        split
        · trivial
        · exact hopen
      · simp only [Except.toOption, Option.bind_some, haccept, Option.map_some]
        rfl
  | epilog s =>
    rw [gist_step_of_epilog hm, hwriting] at hgist
    rw [gist_step_of_epilog (r := r.inPairs) hm]
    obtain ⟨s₁, hs₁, hp⟩ := Option.map_eq_some_iff.mp hgist
    obtain ⟨hmode, hw, hevents⟩ := gist_eq_iff.mp hp.symm
    rw [hmode, hevents, show r.inPairs.writing = .pairs from rfl, Prolog.State.step_pairs, hs₁]
    · exact .inr ⟨hw, trivial, rfl⟩
    · intro back hstep
      rw [hstep] at hs₁
      cases hs₁
    · intro hstep
      rw [hstep] at hs₁
      cases hs₁

/-- **In pairs.** A character that is read in UTF-8 is read in UTF-16, wherever it stands. -/
theorem InPairs.step (h : InPairs r r') (hr : r.step c = .ok r₁) :
    r₁.mode.IsStuck ∨ ∃ r₁', r'.step c = .ok r₁' ∧ InPairs r₁ r₁' := by
  rcases gist_step_pairs h.writing h.isInside hr with hstuck | ⟨hwriting, hinside, hgist⟩
  · exact .inl hstuck
  · obtain ⟨r₂, hr₂, hgist₂⟩ := exists_of_gist hgist
    have hview := map_view_step (r := r.inPairs) h.view.symm c
    rw [hr₂] at hview
    obtain ⟨r₁', hr₁', hview'⟩ := Option.map_eq_some_iff.mp hview.symm
    refine .inr ⟨r₁', eq_ok_of_toOption hr₁', hwriting, hinside, hview'.trans ?_⟩
    exact congrArg (fun p ↦ (p.1.unplaced, p.2)) hgist₂

theorem InPairs.run (h : InPairs r r') (hrun : r.run cs = (r₁, none))
    (hend : r₁.mode = .epilog .idle) : ∃ r₁', r'.run cs = (r₁', none) ∧ InPairs r₁ r₁' := by
  induction cs generalizing r r' with
  | nil =>
    cases hrun
    exact ⟨r', rfl, h⟩
  | cons c cs ih =>
    cases hr : r.step c with
    | error f => rw [run_cons_of_error hr] at hrun; cases hrun
    | ok r₂ =>
      rw [run_cons_of_ok hr] at hrun
      rcases h.step hr with hstuck | ⟨r₂', hr', h₂⟩
      · have hstuck := isStuck_run hstuck cs
        rw [hrun, hend] at hstuck
        exact hstuck.elim
      · rw [run_cons_of_ok hr']
        exact ih h₂ hrun

end Reader

/-! ## Whole documents -/

/-- **What passes in UTF-8 passes in UTF-16**, behind a byte order mark or not, and comes to the
same events. -/
theorem Decoded.read_pairs {text text' : Decoded} {events : List Event}
    (h : text.read = .ok events) (hwriting : text.writing = .octets)
    (hwriting' : text'.writing = .pairs) (hchars : unmarked text'.chars = unmarked text.chars)
    (hending : text'.ending = .complete) : text'.read = .ok events := by
  obtain ⟨d, g, c, rest, hsplit, haccept, hend, hstart, r, r₁, hr, hrun, hr₁, rfl⟩ :=
    Decoded.exists_of_read h
  rw [hwriting] at hsplit haccept hstart hr
  have hleave : Reader.leave? .pairs (.initial false) .opening .idle (unmarked text'.chars)
      = some (d, c, rest) := by
    rw [Reader.leave?, hchars, Prolog.split?_pairs hsplit hstart, Option.bind_some]
    simp only
    rw [Doctype.acceptAll_pairs rfl haccept, Option.bind_some]
    simp only [hend, Writing.isNameStart_pairs hstart, Bool.and_self, if_true]
  obtain ⟨offset, -, hbefore⟩ := Reader.exists_before_eq text'.chars
  have hprolog := Reader.run_prolog (r := .initial .pairs false offset) rfl (unmarked text'.chars)
  rw [show (Reader.initial .pairs false offset).writing = .pairs from rfl, hleave] at hprolog
  obtain ⟨r', hrun', hr'⟩ := hprolog
  obtain ⟨hmode, hw, hevents⟩ := Reader.gist_eq_iff.mp hr
  have hpairs : Reader.InPairs r r' := by
    refine ⟨hw, ?_, ?_⟩
    · rw [hmode]
      trivial
    · rw [hmode, hevents]
      exact congrArg (fun p ↦ (p.1.unplaced, p.2)) hr'
  obtain ⟨r₁', hrun₁, hview⟩ := hpairs.run hrun hr₁
  rw [read, hbefore, hwriting']
  have hmode₁ : r₁'.mode = .epilog .idle := Mode.eq_epilog (by
    rw [show r₁'.mode.unplaced = _ from congrArg Prod.fst hview.view, hr₁]
    rfl)
  have hevents₁ : r₁'.events = r₁.events := congrArg (·.2.2) hview.view
  simp only [hrun', hrun₁, hending, Reader.finish, Reader.close, hmode₁, hevents₁, if_true,
    Bool.false_eq_true, if_false]

end VectorLint.Markup
