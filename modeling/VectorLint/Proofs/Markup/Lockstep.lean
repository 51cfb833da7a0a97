import VectorLint.Proofs.Markup.Thorough

/-!
# Two readings in step

Behind a harmless prolog the check and the thorough reading are where the root element begins, and
from there on they go in step: character by character they are in the same state, but for places,
with the same elements open, and they have found the same events. Two states have to be looked at
apart. What is read of the mark of a section is compared when enough units are read, and how many
characters that are depends on the writing; and behind the root element a word may go on in one
writing where it ends in another. A reading that is in such a state and not at the beginning of a
mark is stuck: whatever follows, it comes to no good end.
-/

namespace VectorLint.Markup

open Doctype (IsHarmless acceptAll)

/-! ## The mark of a section -/

namespace Content

theorem agreement_eq_length_iff (as bs : List Char) :
    agreement as bs = bs.length ↔ bs <+: as := by
  induction as generalizing bs with
  | nil =>
    cases bs with
    | nil => exact iff_of_true rfl List.prefix_rfl
    | cons b bs => exact iff_of_false nofun (by simp)
  | cons a as ih =>
    cases bs with
    | nil => exact iff_of_true rfl List.nil_prefix
    | cons b bs =>
      rw [agreement, List.cons_prefix_cons, List.length_cons]
      split
      · rename_i hab
        rw [Nat.add_right_cancel_iff, ih, and_iff_right hab.symm]
      · rename_i hab
        exact iff_of_false nofun fun h ↦ hab h.1.symm

/-- The number of units that some characters are written with. -/
def units (w : Writing) (read : List Char) : Nat := (read.map w.size).foldr (· + ·) 0

theorem units_eq_length (w : Writing) {read : List Char} (h : read ⊆ sectionName) :
    units w read = read.length := by
  have hall : (sectionName.all fun c ↦ w.size c = 1) = true := by
    cases w <;> rfl
  have hsize (c : Char) (hc : c ∈ sectionName) : w.size c = 1 :=
    of_decide_eq_true (List.all_eq_true.mp hall c hc)
  induction read with
  | nil => rfl
  | cons c read ih =>
    have hunits : units w (c :: read) = w.size c + units w read := rfl
    rw [hunits, ih fun c hc ↦ h (List.mem_cons_of_mem _ hc), hsize c (h List.mem_cons_self),
      List.length_cons, Nat.add_comm]

/-- Whether what is read behind `<![` is the beginning of the mark of a section. -/
def IsMark (read : List Char) : Prop :=
  read.reverse <+: sectionName ∧ read.length < sectionName.length

namespace State

/-- Whether it is certain that a section does not begin where its mark is looked for. -/
def IsStuck : State → Prop
  | .sectionMark read => ¬ read.reverse <+: sectionName ∧ ¬ sectionName <+: read.reverse
  | _ => False

/-- Whether a section may still begin where its mark is looked for. -/
def IsOpen : State → Prop
  | .sectionMark read => IsMark read
  | _ => True

theorem step_sectionMark (w : Writing) (offset : Nat) (read : List Char) (c : Char) :
    (State.sectionMark read).step w offset c
      = if units w (c :: read) < sectionName.length then .ok (.sectionMark (c :: read), none)
        else if agreement (c :: read).reverse sectionName = sectionName.length then
          .ok (.characterData 0 false, none)
        else .error (offset + 1 + agreement (c :: read).reverse sectionName
          - (c :: read).length) := rfl

theorem IsStuck.step {w : Writing} {offset : Nat} {s s' : State} {c : Char} {t : Option Token}
    (hs : s.IsStuck) (h : s.step w offset c = .ok (s', t)) : s'.IsStuck ∧ t = none := by
  cases s with
  | sectionMark read =>
    have hbegins : read.reverse <+: (c :: read).reverse := by
      rw [List.reverse_cons]
      exact List.prefix_append _ _
    have hread : ¬ sectionName <+: (c :: read).reverse := by
      intro hname
      rcases List.prefix_or_prefix_of_prefix hname hbegins with hover | hshort
      · exact hs.2 hover
      · exact hs.1 hshort
    rw [step_sectionMark] at h
    split at h
    · cases h
      exact ⟨⟨fun hname ↦ hs.1 (hbegins.trans hname), hread⟩, rfl⟩
    · rw [if_neg fun hagree ↦ hread ((agreement_eq_length_iff _ _).mp hagree)] at h
      cases h
  | _ => exact hs.elim

theorem IsOpen.step_sectionMark {w : Writing} {offset : Nat} {read : List Char} {c : Char}
    {s' : State} {t : Option Token} (hmark : IsMark read)
    (h : (State.sectionMark read).step w offset c = .ok (s', t)) (w' : Writing) (offset' : Nat) :
    s'.IsStuck ∧ t = none
      ∨ (State.sectionMark read).step w' offset' c = .ok (s', t) ∧ s'.IsOpen := by
  have hlength : (c :: read).length ≤ sectionName.length := hmark.2
  rw [State.step_sectionMark] at h ⊢
  -- as long as the mark may still follow each character counts once, so lengths are compared
  by_cases hbegins : (c :: read).reverse <+: sectionName
  · have hsub : c :: read ⊆ sectionName := fun x hx ↦
      hbegins.subset (List.mem_reverse.mpr hx)
    rw [units_eq_length w hsub] at h
    rw [units_eq_length w' hsub]
    split at h
    · rename_i hlt
      rw [if_pos hlt]
      cases h
      exact .inr ⟨rfl, hbegins, hlt⟩
    · rename_i hlt
      rw [if_neg hlt]
      split at h
      · rename_i hagree
        rw [if_pos hagree]
        cases h
        exact .inr ⟨rfl, trivial⟩
      · cases h
  · have hname : ¬ sectionName <+: (c :: read).reverse := fun hname ↦ by
      have heq := hname.eq_of_length_le (by rwa [List.length_reverse])
      exact hbegins (heq ▸ List.prefix_rfl)
    split at h
    · cases h
      exact .inl ⟨⟨hbegins, hname⟩, rfl⟩
    · rw [if_neg fun hagree ↦ hname ((agreement_eq_length_iff _ _).mp hagree)] at h
      cases h

theorem isOpen_of_step {w : Writing} {offset : Nat} {s s' : State} {c : Char} {t : Option Token}
    (hs : ∀ read, s ≠ .sectionMark read) (h : s.step w offset c = .ok (s', t)) : s'.IsOpen := by
  have hmove {σ α : Type} (state : σ → State) (token : α → Token) {m : Move σ α}
      (hstate : ∀ x, (state x).IsOpen) (h : Next.ofMove offset state token m = .ok (s', t)) :
      s'.IsOpen := by
    cases m <;> cases h
    · exact hstate _
    · trivial
  cases s with
  | sectionMark read => exact absurd rfl (hs read)
  | remark r => exact hmove .remark .remark (fun _ ↦ trivial) h
  | tag r => exact hmove .tag .start (fun _ ↦ trivial) h
  | endTag r => exact hmove .endTag .close (fun _ ↦ trivial) h
  | reference r => exact hmove .reference .reference (fun _ ↦ trivial) h
  | _ =>
    simp only [step, Content.text, Content.characterData] at h
    repeat' split at h
    all_goals cases h
    all_goals trivial

/-- **The content of an element** is read alike in any writing and wherever it stands, unless no
section begins where its mark is looked for. -/
theorem IsOpen.step {w : Writing} {offset : Nat} {s s' s₁ : State} {c : Char} {t : Option Token}
    (hs : s.IsOpen) (hc : w.IsUsual c) (hs' : s.unplaced = s'.unplaced)
    (h : s.step w offset c = .ok (s₁, t)) (offset' : Nat) :
    s₁.IsStuck ∧ t = none ∨ ∃ s₁' t', s'.step .octets offset' c = .ok (s₁', t') ∧ s₁.IsOpen
      ∧ s₁.unplaced = s₁'.unplaced ∧ t.map Token.unplaced = t'.map Token.unplaced := by
  by_cases hmark : ∃ read, s = .sectionMark read
  · obtain ⟨read, rfl⟩ := hmark
    cases s' with
    | sectionMark read' =>
      cases hs'
      rcases IsOpen.step_sectionMark hs h .octets offset' with hstuck | ⟨hstep, hopen⟩
      · exact .inl hstuck
      · exact .inr ⟨s₁, t, hstep, hopen, rfl, rfl⟩
    | _ => cases hs'
  · have hs : ∀ read, s ≠ .sectionMark read := fun read hread ↦ hmark ⟨read, hread⟩
    have hopen := isOpen_of_step hs h
    -- first another writing at the same place, then another place
    rw [step_octets hc offset hs] at h
    have hstep := unplaced_step .octets offset s c
    rw [hs', ← unplaced_step .octets offset' s' c, h] at hstep
    obtain ⟨p, hstep', hp⟩ := Option.map_eq_some_iff.mp hstep.symm
    obtain ⟨hstate, htoken⟩ := Prod.mk.inj hp
    exact .inr ⟨p.1, p.2, eq_ok_of_toOption hstep', hopen, hstate.symm, htoken.symm⟩

end State

end Content

/-! ## One character -/

namespace Reader

/-- The reader with the place where the token begins that the next character may end. -/
def atToken (r : Reader) (s : Content.State) : Reader :=
  { r with
    start := match s with
      | .text _ _ => r.offset
      | .characterData _ _ => r.offset
      | _ => r.start }

/-- The mode behind a token of an element's content. -/
def behindToken (d : Doctype) (opened : List OpenElement) (s : Content.State) : Mode :=
  if opened.isEmpty then .epilog .idle else .content d opened s

/-- The namespaces inside the innermost of some open elements. -/
def scopeInside : List OpenElement → Scope
  | [] => .initial
  | e :: _ => e.scope

theorem accept_eq_map (r : Reader) (d : Doctype) (opened : List OpenElement) (tag : StartTag) :
    r.accept d opened (.start tag) = (d.enter (scopeInside opened) r.start tag).map fun p ↦
      if tag.isEmpty then (opened, [.closing, p.2])
      else (⟨tag.name.text, p.1⟩ :: opened, [p.2]) := by
  have hmap (x : Except Fault (Scope × Event)) :
      (x >>= fun p ↦
        if tag.isEmpty then .ok (opened, [.closing, p.2])
        else .ok (⟨tag.name.text, p.1⟩ :: opened, [p.2])) = x.map fun p ↦
        if tag.isEmpty then (opened, [.closing, p.2])
        else (⟨tag.name.text, p.1⟩ :: opened, [p.2]) := by
    cases x with
    | error f => rfl
    | ok p => cases tag.isEmpty <;> rfl
  cases opened <;> exact hmap _

private theorem gist_token (r r' : Reader) (d : Doctype) (opened : List OpenElement)
    (s : Content.State) (t : Content.Token) (next start : Nat) :
    (do let (opened, events) ← r'.accept d opened t
        let mode := if opened.isEmpty then .epilog .idle else .content d opened s
        return { r with offset := next, start, mode, events := events ++ r.events } :
          Except Fault Reader).toOption.map gist
      = (r'.accept d opened t).toOption.map fun q ↦
        (behindToken d q.1 s, r.writing, q.2 ++ r.events) := by
  cases r'.accept d opened t <;> rfl

theorem gist_stepContent (r : Reader) (d : Doctype) (opened : List OpenElement) (s : Content.State)
    (c : Char) :
    (r.stepContent d opened s c).toOption.map gist
      = (s.step r.writing r.offset c).toOption.bind fun p ↦
        match p.2 with
        | none => some (.content d opened p.1, r.writing, r.events)
        | some t => ((r.atToken s).accept d opened t).toOption.map fun q ↦
          (behindToken d q.1 p.1, r.writing, q.2 ++ r.events) := by
  unfold stepContent
  rcases s.step r.writing r.offset c with f | ⟨s₁, _ | t⟩
  · rfl
  · rfl
  · exact gist_token r (r.atToken s) d opened s₁ t _ _

/-- The state behind a character behind the root element, if the character may stand there. -/
def behindRoot? : Prolog.Next → Option Prolog.State
  | .more s => some s
  | .done .space => some .idle
  | .done (.remark (.declaration _)) => none
  | .done (.remark _) => some .idle
  | _ => none

theorem gist_stepEpilog (r : Reader) (s : Prolog.State) (c : Char) :
    (r.stepEpilog s c).toOption.map gist
      = (behindRoot? (s.step r.writing c)).map fun s ↦ (.epilog s, r.writing, r.events) := by
  rw [stepEpilog]
  rcases s.step r.writing c with s | t | ⟨t, s, back⟩ | _ | back
  · rfl
  · cases t with
    | remark r => cases r <;> rfl
    | _ => rfl
  all_goals rfl

variable {r r' r₁ : Reader} {c : Char} {cs : List Char}

theorem gist_eq_of_step (h : r.step c = .ok r₁) : (r.step c).toOption.map gist = some r₁.gist := by
  rw [h]
  rfl

theorem gist_step_of_content {d : Doctype} {opened : List OpenElement} {s : Content.State}
    (hm : r.mode = .content d opened s) (c : Char) :
    (r.step c).toOption.map gist
      = (s.step r.writing r.offset c).toOption.bind fun p ↦
        match p.2 with
        | none => some (.content d opened p.1, r.writing, r.events)
        | some t => ((r.atToken s).accept d opened t).toOption.map fun q ↦
          (behindToken d q.1 p.1, r.writing, q.2 ++ r.events) := by
  rw [step, hm, gist_stepContent]

theorem gist_step_of_epilog {s : Prolog.State} (hm : r.mode = .epilog s) (c : Char) :
    (r.step c).toOption.map gist
      = (behindRoot? (s.step r.writing c)).map fun s ↦ (.epilog s, r.writing, r.events) := by
  rw [step, hm, gist_stepEpilog]

end Reader

/-! ## Stuck readings -/

/-- Whether it is certain that a reading comes to no good end: a section does not begin where its
mark is looked for, or a declaration is begun behind the root element. -/
def Mode.IsStuck : Mode → Prop
  | .content _ _ s => s.IsStuck
  | .epilog (.keyword _) => True
  | .epilog (.keywordPercent _) => True
  | _ => False

namespace Reader

variable {r r' r₁ : Reader} {c : Char} {cs : List Char}

theorem isStuck_of_behindRoot? {s s' : Prolog.State} (hs : (Mode.epilog s).IsStuck) {w : Writing}
    (h : behindRoot? (s.step w c) = some s') : (Mode.epilog s').IsStuck := by
  revert h
  cases s with
  | keyword read =>
    rw [Prolog.State.step]
    repeat' split
    all_goals intro h
    all_goals cases h
    all_goals trivial
  | keywordPercent read =>
    rw [Prolog.State.step]
    split
    all_goals
      intro h
      cases h
  | _ => exact hs.elim

theorem isStuck_of_step (hr : r.mode.IsStuck) (h : r.step c = .ok r₁) : r₁.mode.IsStuck := by
  have hgist := gist_eq_of_step h
  cases hm : r.mode with
  | prolog d g s =>
    rw [hm] at hr
    exact hr.elim
  | content d opened s =>
    rw [hm] at hr
    rw [gist_step_of_content hm] at hgist
    obtain ⟨⟨s', t⟩, hstep, hp⟩ := Option.bind_eq_some_iff.mp hgist
    obtain ⟨hstuck, rfl⟩ := Content.State.IsStuck.step hr (eq_ok_of_toOption hstep)
    rw [show r₁.mode = _ from congrArg Prod.fst (Option.some.inj hp).symm]
    exact hstuck
  | epilog s =>
    rw [hm] at hr
    rw [gist_step_of_epilog hm] at hgist
    obtain ⟨s', hs', hp⟩ := Option.map_eq_some_iff.mp hgist
    rw [show r₁.mode = _ from congrArg Prod.fst hp.symm]
    exact isStuck_of_behindRoot? hr hs'

theorem isStuck_run (hr : r.mode.IsStuck) (cs : List Char) : (r.run cs).1.mode.IsStuck := by
  induction cs generalizing r with
  | nil => exact hr
  | cons c cs ih =>
    cases h : r.step c with
    | error f =>
      rw [run_cons_of_error h]
      exact hr
    | ok r' =>
      rw [run_cons_of_ok h]
      exact ih (isStuck_of_step hr h)

/-! ## In step -/

/-- Whether a thorough reading is where another one is: in the same state, but for places, with the
same elements open. -/
inductive ModesAlike : Mode → Mode → Prop where
  | content {d : Doctype} {opened : List OpenElement} {s s' : Content.State}
    (hd : d.isThorough = false) (hopen : s.IsOpen) (hs : s.unplaced = s'.unplaced) :
    ModesAlike (.content d opened s) (.content d.thorough opened s')
  | epilog (s : Prolog.State) : ModesAlike (.epilog s) (.epilog s)

/-- Whether a thorough reader of UTF-8 is where another reader is, and has found the same. -/
structure Alike (r r' : Reader) : Prop where
  mode : ModesAlike r.mode r'.mode
  writing : r'.writing = .octets
  events : r'.events = r.events

theorem alike_of_gist {m m' : Mode} {w : Writing} {events : List Event}
    (hr : r.gist = (m, w, events)) (hr' : r'.gist = (m', .octets, events)) (hm : ModesAlike m m') :
    Alike r r' ∧ r.writing = w := by
  obtain ⟨rfl, rfl, rfl⟩ := gist_eq_iff.mp hr
  obtain ⟨rfl, hwriting, hevents⟩ := gist_eq_iff.mp hr'
  exact ⟨⟨hm, hwriting, hevents⟩, rfl⟩

theorem ModesAlike.behindToken {d : Doctype} (hd : d.isThorough = false)
    (opened : List OpenElement) {s s' : Content.State} (hopen : s.IsOpen)
    (hs : s.unplaced = s'.unplaced) :
    ModesAlike (behindToken d opened s) (behindToken d.thorough opened s') := by
  rw [Reader.behindToken, Reader.behindToken]
  split
  · exact .epilog .idle
  · exact .content hd hopen hs

theorem accept_thorough {d : Doctype} (hd : d.isThorough = false) {opened : List OpenElement}
    {t t' : Content.Token} (ht : t.unplaced = t'.unplaced) {q : List OpenElement × List Event}
    (h : r.accept d opened t = .ok q) (r' : Reader) :
    r'.accept d.thorough opened t' = .ok q := by
  cases t with
  | start tag =>
    cases t' with
    | start tag' =>
      have htag : tag.unplaced = tag'.unplaced := Content.Token.start.inj ht
      have hempty : tag'.isEmpty = tag.isEmpty := (congrArg (·.isEmpty) htag).symm
      have hname : tag'.name = tag.name := (congrArg (·.name) htag).symm
      rw [accept_eq_map] at h ⊢
      cases henter : d.enter (scopeInside opened) r.start tag with
      | error f => rw [henter] at h; cases h
      | ok p =>
        rw [henter] at h
        rw [Doctype.enter_thorough hd htag henter, hempty, hname]
        exact h
    | _ => cases ht
  | close name =>
    obtain rfl : .close name = t' := by cases t' <;> first | exact ht | cases ht
    cases opened with
    | nil => cases h
    | cons e opened =>
      simp only [accept] at h ⊢
      split at h
      · rename_i hname
        rw [if_pos hname]
        exact h
      · cases h
  | reference ref =>
    obtain rfl : .reference ref = t' := by cases t' <;> first | exact ht | cases ht
    cases ref with
    | entity name =>
      simp only [accept] at h ⊢
      split at h
      · exact h
      · split at h <;> cases h
    | number n =>
      simp only [accept] at h ⊢
      split at h
      · exact h
      · cases h
  | remark rem =>
    obtain rfl : .remark rem = t' := by cases t' <;> first | exact ht | cases ht
    cases rem <;> first | exact h | cases h
  | text cs =>
    obtain rfl : .text cs = t' := by cases t' <;> first | exact ht | cases ht
    exact h

/-- **In step.** A character that the check reads is read thoroughly as well, unless the check is
stuck behind it. -/
theorem Alike.step (h : Alike r r') (hc : r.writing.IsUsual c) (hr : r.step c = .ok r₁) :
    r₁.mode.IsStuck ∨ ∃ r₁', r'.step c = .ok r₁' ∧ Alike r₁ r₁' ∧ r₁.writing = r.writing := by
  have hgist := gist_eq_of_step hr
  obtain ⟨hmode, hwriting, hevents⟩ := h
  generalize hm : r.mode = m at hmode
  generalize hm' : r'.mode = m' at hmode
  cases hmode with
  | content hd hopen hs =>
    rename_i d opened s s'
    rw [gist_step_of_content hm] at hgist
    obtain ⟨⟨s₁, t⟩, hs₁, hp⟩ := Option.bind_eq_some_iff.mp hgist
    rcases hopen.step hc hs (eq_ok_of_toOption hs₁) r'.offset with
      ⟨hstuck, rfl⟩ | ⟨s₁', t', hstep', hopen₁, hs₁', ht⟩
    · rw [show r₁.mode = _ from congrArg Prod.fst (Option.some.inj hp).symm]
      exact .inl hstuck
    refine .inr ?_
    have hgist' := gist_step_of_content hm' c
    rw [hwriting, hstep', hevents] at hgist'
    cases t with
    | none =>
      cases t' with
      | some t' => cases ht
      | none =>
        obtain ⟨r₁', hr', hr₁'⟩ := exists_of_gist hgist'
        exact ⟨r₁', hr', alike_of_gist (Option.some.inj hp).symm hr₁' (.content hd hopen₁ hs₁')⟩
    | some t =>
      cases t' with
      | none => cases ht
      | some t' =>
        obtain ⟨q, hq, hr₁⟩ := Option.map_eq_some_iff.mp hp
        have haccept' := accept_thorough hd (Option.some.inj ht) (eq_ok_of_toOption hq)
          (r'.atToken s')
        simp only [Except.toOption, Option.bind_some, haccept', Option.map_some] at hgist'
        obtain ⟨r₁', hr', hr₁'⟩ := exists_of_gist hgist'
        exact ⟨r₁', hr', alike_of_gist hr₁.symm hr₁' (.behindToken hd q.1 hopen₁ hs₁')⟩
  | epilog s =>
    rw [gist_step_of_epilog hm] at hgist
    obtain ⟨s', hs', hp⟩ := Option.map_eq_some_iff.mp hgist
    have hgist' := gist_step_of_epilog hm' c
    rw [hwriting, hevents] at hgist'
    rcases s.agrees_step hc with hstep | ⟨read, hstep, -⟩ | ⟨hstep, -⟩ | ⟨back, hstep⟩
    · rw [hstep, hs', Option.map_some] at hgist'
      obtain ⟨r₁', hr', hr₁'⟩ := exists_of_gist hgist'
      exact .inr ⟨r₁', hr', alike_of_gist hp.symm hr₁' (.epilog s')⟩
    -- the check may take a letter for one of a keyword, and no keyword may stand here
    all_goals
      rw [hstep] at hs'
      cases hs'
    · rw [show r₁.mode = _ from congrArg Prod.fst hp.symm]
      exact .inl trivial

theorem Alike.run (h : Alike r r') (hcs : ∀ c ∈ cs, r.writing.IsUsual c)
    (hrun : r.run cs = (r₁, none)) (hend : r₁.mode = .epilog .idle) :
    ∃ r₁', r'.run cs = (r₁', none) ∧ r₁'.events = r₁.events := by
  induction cs generalizing r r' with
  | nil =>
    cases hrun
    exact ⟨r', rfl, h.events⟩
  | cons c cs ih =>
    cases hr : r.step c with
    | error f => rw [run_cons_of_error hr] at hrun; cases hrun
    | ok r₂ =>
      rw [run_cons_of_ok hr] at hrun
      -- a reading once stuck would be so at the end, where the document is over
      rcases h.step (hcs c List.mem_cons_self) hr with hstuck | ⟨r₂', hr', hr₂, hwriting⟩
      · have hstuck := isStuck_run hstuck cs
        rw [hrun, hend] at hstuck
        exact hstuck.elim
      · rw [run_cons_of_ok hr']
        exact ih hr₂ (fun c hc ↦ hwriting ▸ hcs c (List.mem_cons_of_mem _ hc)) hrun

end Reader

/-! ## Whole documents -/

theorem unmarked_subset (cs : List Char) : unmarked cs ⊆ cs := by
  unfold unmarked
  split
  · exact List.subset_cons_self _ _
  · exact fun _ ↦ id

/-- **The check and the thorough reading agree** on a document without a fault whose prolog is
harmless and whose characters count alike in names. -/
theorem readPart_of_read {text : Decoded} {events : List Event} (h : text.read = .ok events)
    (husual : ∀ c ∈ text.chars, text.writing.IsUsual c) (hharmless : IsHarmless text.prolog)
    {cs : List Char} (hcs : unmarked cs = unmarked text.chars) : readPart cs = (events, none) := by
  obtain ⟨d, g, c, rest, hsplit, haccept, hend, hstart, r, r₁, hr, hrun, hr₁, rfl⟩ :=
    Decoded.exists_of_read h
  have hunmarked : ∀ c ∈ unmarked text.chars, text.writing.IsUsual c := fun c hc ↦
    husual c (unmarked_subset _ hc)
  have hsuffix := Prolog.suffix_of_split? hsplit
  have hrest : ∀ c' ∈ c :: rest, text.writing.IsUsual c' := fun c' hc' ↦
    hunmarked c' (hsuffix.subset hc')
  -- the prolog
  have hsplit' := Prolog.split?_octets hunmarked hsplit hstart fun k hk ↦
    Doctype.lt_of_mem_keywords (Doctype.mem_keywords_of_acceptAll haccept hk)
  have hliteral : ∀ t ∈ text.prolog, ∀ c ∈ Prolog.literalOf t, text.writing.IsUsual c :=
    fun t ht c hc ↦ hunmarked c (Prolog.literalOf_subset hsplit t ht hc)
  have hinitial : Doctype.IsCalm [] (.initial false) .opening := ⟨rfl, nofun, rfl⟩
  have haccept' := Doctype.acceptAll_thorough hharmless hliteral rfl hinitial haccept
  have hd := (Doctype.skipping_of_acceptAll_initial haccept).1
  have hleave : Reader.leave? .octets (.initial true) .opening .idle (unmarked cs)
      = some (d.thorough, c, rest) := by
    have hstart' : Writing.octets.isNameStart c = true :=
      (hrest c List.mem_cons_self).isNameStart ▸ hstart
    rw [Reader.leave?, hcs, hsplit', Option.bind_some]
    simp only
    rw [show acceptAll .octets (.initial true) .opening text.prolog = some (d.thorough, g) from
      haccept', Option.bind_some]
    simp only [hend, hstart', Bool.and_self, if_true]
  -- the root element and what follows it
  obtain ⟨offset, -, hbefore⟩ := Reader.exists_before_eq cs
  have hprolog := Reader.run_prolog (r := .initial .octets true offset) rfl (unmarked cs)
  rw [show (Reader.initial .octets true offset).writing = .octets from rfl, hleave] at hprolog
  obtain ⟨r', hrun', hr'⟩ := hprolog
  obtain ⟨halike, hwriting⟩ := Reader.alike_of_gist hr hr'
    (.content hd trivial rfl)
  obtain ⟨r₁', hrun₁, hevents⟩ := halike.run
    (fun c hc ↦ hwriting ▸ hrest c (List.mem_cons_of_mem _ hc)) hrun hr₁
  rw [readPart, hbefore]
  simp only [hrun', hrun₁, hevents]

end VectorLint.Markup
