import VectorLint.Proofs.Markup.Grammar

/-!
# A prolog as tokens

Before the root element a reader does two things at once: it splits the characters into tokens, and
it holds each token to the grammar. Neither depends on the other. Where tokens end is told by the
characters alone, and what they come to by the tokens alone. So a prolog can be split first and
accepted then, and what the grammar lets through as a list of tokens is what a reader gets past.
-/

namespace VectorLint.Markup

open Doctype (Token Grammar acceptAll)

namespace Prolog

/-- What a character does to a token that is being read: the tokens that it ends, and the state
behind it. There is none where it begins the root element. The character is read again at most
`again` times. -/
def State.read (w : Writing) (again : Nat) (s : State) (c : Char) :
    Option (List Token × Option State) :=
  match s.step w c with
  | .more s => some ([], some s)
  | .done t => some ([t], some .idle)
  | .root => some ([], none)
  | .invalid _ => none
  | .before t s _ =>
    match again with
    | 0 => none
    | again + 1 => (s.read w again c).map fun (ts, s) ↦ (t :: ts, s)

/-- The tokens before the root element, the first character of its name, and the characters behind
that one. -/
def split? (w : Writing) (s : State) : List Char → Option (List Token × Char × List Char)
  | [] => none
  | c :: cs =>
    match s.read w 3 c with
    | none => none
    | some (ts, none) => some (ts, c, cs)
    | some (ts, some s) => (split? w s cs).map fun (rest, root) ↦ (ts ++ rest, root)

end Prolog

/-- The characters of a document behind a byte order mark. -/
def unmarked : List Char → List Char
  | '\ufeff' :: cs => cs
  | cs => cs

theorem unmarked_eq_self {cs : List Char} (h : ∀ rest, cs ≠ '\ufeff' :: rest) :
    unmarked cs = cs := by
  unfold unmarked
  split
  · exact absurd rfl (h _)
  · rfl

/-- The tokens of the prolog of a document. -/
def Decoded.prolog (text : Decoded) : List Token :=
  ((Prolog.split? text.writing .idle (unmarked text.chars)).map (·.1)).getD []

namespace Reader

/-- A reader without the number of characters it has read and the place of the current token. -/
def gist (r : Reader) : Mode × Writing × List Event := (r.mode, r.writing, r.events)

theorem gist_eq_iff {r : Reader} {m : Mode} {w : Writing} {events : List Event} :
    r.gist = (m, w, events) ↔ r.mode = m ∧ r.writing = w ∧ r.events = events := by
  rw [gist, Prod.mk.injEq, Prod.mk.injEq]

/-- The mode behind a character that leaves this state, or begins the root element. -/
def behind? (w : Writing) (d : Doctype) (g : Grammar) (c : Char) :
    Option Prolog.State → Option Mode
  | some s => some (.prolog d g s)
  | none =>
    if g.mayEnd && w.isNameStart c then some (.content d [] (.tag (.name (.first c)))) else none

/-! ## One character -/

section

variable (r : Reader) (d : Doctype) (g : Grammar) (c : Char) (next start : Nat)

private theorem gist_done (t : Token) :
    (do let (d, g) ← d.accept r.writing g start t
        return { r with offset := next, start, mode := .prolog d g .idle } :
          Except Fault Reader).toOption.map gist
      = (acceptAll r.writing d g [t]).bind fun q ↦
        (behind? r.writing q.1 q.2 c (some .idle)).map fun m ↦ (m, r.writing, r.events) := by
  rw [toOption_bind, Doctype.toOption_accept _ _ _ _ 0, Option.map_bind, acceptAll,
    Option.bind_assoc]
  rfl

private theorem gist_root (offset : Nat) : (match g with
    | .opening | .beforeDoctype | .afterDoctype =>
      if !r.writing.isNameStart c then .error (.malformed .invalidToken offset)
      else .ok { r with offset := next, start, mode := .content d [] (.tag (.name (.first c))) }
    | _ => .error (.malformed .grammar start) : Except Fault Reader).toOption.map gist
      = (behind? r.writing d g c none).map fun m ↦ (m, r.writing, r.events) := by
  cases g <;> simp only [behind?, Grammar.mayEnd, Bool.true_and, Bool.false_and] <;>
    cases r.writing.isNameStart c <;> rfl

end

/-- **One character of a prolog** is read by splitting off the tokens it ends and accepting them. -/
theorem gist_stepProlog (again : Nat) (r : Reader) (d : Doctype) (g : Grammar) (s : Prolog.State)
    (c : Char) :
    (r.stepProlog again d g s c).toOption.map gist
      = (s.read r.writing again c).bind fun p ↦ (acceptAll r.writing d g p.1).bind fun q ↦
        (behind? r.writing q.1 q.2 c p.2).map fun m ↦ (m, r.writing, r.events) := by
  induction again generalizing r d g s with
  | zero =>
    unfold stepProlog Prolog.State.read
    cases s.step r.writing c with
    | more s => rfl
    | done t => exact gist_done r d g c _ _ t
    | root => exact gist_root r d g c _ _ _
    | invalid back => rfl
    | before t s back => rfl
  | succ again ih =>
    unfold stepProlog Prolog.State.read
    cases s.step r.writing c with
    | more s => rfl
    | done t => exact gist_done r d g c _ _ t
    | root => exact gist_root r d g c _ _ _
    | invalid back => rfl
    | before t s' back =>
      simp only [toOption_bind, Doctype.toOption_accept _ _ _ _ 0, Option.map_bind,
        Option.bind_map, acceptAll, Function.comp_def]
      cases d.accept r.writing g 0 t with
      | error f => cases s'.read r.writing again c <;> rfl
      | ok p => exact ih _ p.1 p.2 s'

/-! ## Many characters -/

/-- What is known where a prolog is left for the root element, if it is, with the first character of
the root element's name and the characters behind that one. -/
def leave? (w : Writing) (d : Doctype) (g : Grammar) (s : Prolog.State) (cs : List Char) :
    Option (Doctype × Char × List Char) :=
  (Prolog.split? w s cs).bind fun (ts, c, rest) ↦ (acceptAll w d g ts).bind fun (d, g) ↦
    if g.mayEnd && w.isNameStart c then some (d, c, rest) else none

theorem exists_of_leave? {w : Writing} {d d' : Doctype} {g : Grammar} {s : Prolog.State}
    {cs rest : List Char} {c : Char} (h : leave? w d g s cs = some (d', c, rest)) :
    ∃ ts g', Prolog.split? w s cs = some (ts, c, rest) ∧ acceptAll w d g ts = some (d', g')
      ∧ g'.mayEnd = true ∧ w.isNameStart c = true := by
  obtain ⟨⟨ts, c₁, rest₁⟩, hsplit, h⟩ := Option.bind_eq_some_iff.mp h
  obtain ⟨⟨d₁, g'⟩, haccept, h⟩ := Option.bind_eq_some_iff.mp h
  simp only at h
  split at h
  · rename_i hmay
    cases h
    obtain ⟨hend, hstart⟩ := Bool.and_eq_true_iff.mp hmay
    exact ⟨ts, g', hsplit, haccept, hend, hstart⟩
  · cases h

private theorem leave?_cons {w : Writing} {s s' : Prolog.State} {c : Char} {ts : List Token}
    (h : s.read w 3 c = some (ts, some s')) (d : Doctype) (g : Grammar) (cs : List Char) :
    leave? w d g s (c :: cs)
      = (acceptAll w d g ts).bind fun q ↦ leave? w q.1 q.2 s' cs := by
  simp only [leave?, Prolog.split?, h, Option.bind_map, Function.comp_def,
    Doctype.acceptAll_append]
  cases acceptAll w d g ts with
  | none => cases Prolog.split? w s' cs <;> rfl
  | some q => rfl

theorem run_cons_of_ok {r r' : Reader} {c : Char} (h : r.step c = .ok r') (cs : List Char) :
    r.run (c :: cs) = r'.run cs := by
  rw [run, h]

theorem run_cons_of_error {r : Reader} {c : Char} {f : Fault} (h : r.step c = .error f)
    (cs : List Char) : r.run (c :: cs) = (r, some f) := by
  rw [run, h]

theorem exists_of_gist {r : Reader} {c : Char} {p : Mode × Writing × List Event}
    (h : (r.step c).toOption.map gist = some p) : ∃ r₁, r.step c = .ok r₁ ∧ r₁.gist = p := by
  obtain ⟨r₁, hr, hp⟩ := Option.map_eq_some_iff.mp h
  exact ⟨r₁, eq_ok_of_toOption hr, hp⟩

/-- **A prolog** is read by splitting it into tokens and accepting them. A reader that does not come
to the root element stops in the prolog and has found nothing. -/
theorem run_prolog {r : Reader} {d : Doctype} {g : Grammar} {s : Prolog.State}
    (hm : r.mode = .prolog d g s) (cs : List Char) :
    match leave? r.writing d g s cs with
    | none => (∃ d' g' s', (r.run cs).1.mode = .prolog d' g' s') ∧ (r.run cs).1.events = r.events
    | some (d', c, rest) => ∃ r' : Reader, r.run cs = r'.run rest
      ∧ r'.gist = (.content d' [] (.tag (.name (.first c))), r.writing, r.events) := by
  induction cs generalizing r d g s with
  | nil => exact ⟨⟨d, g, s, hm⟩, rfl⟩
  | cons c cs ih =>
    have hgist := gist_stepProlog 3 r d g s c
    rw [show r.stepProlog 3 d g s c = r.step c by rw [step, hm]] at hgist
    have hstops (h : (r.step c).toOption.map gist = none) :
        (∃ d' g' s', (r.run (c :: cs)).1.mode = .prolog d' g' s')
          ∧ (r.run (c :: cs)).1.events = r.events := by
      cases hf : r.step c with
      | ok r' => rw [hf] at h; cases h
      | error f => rw [run_cons_of_error hf]; exact ⟨⟨d, g, s, hm⟩, rfl⟩
    have hmoves {p : Mode × Writing × List Event} (h : (r.step c).toOption.map gist = some p) :
        ∃ r' : Reader, r.run (c :: cs) = r'.run cs ∧ r'.gist = p := by
      obtain ⟨r', hr, hr'⟩ := exists_of_gist h
      exact ⟨r', run_cons_of_ok hr cs, hr'⟩
    rcases hread : s.read r.writing 3 c with _ | ⟨ts, _ | s'⟩
    -- the character cannot stand here, begins the root element, or stays in the prolog
    · rw [leave?, Prolog.split?, hread]
      rw [hread] at hgist
      exact hstops hgist
    · rw [leave?, Prolog.split?, hread]
      rw [hread, Option.bind_some] at hgist
      simp only [Option.bind_some] at hgist ⊢
      cases haccept : acceptAll r.writing d g ts with
      | none =>
        rw [haccept] at hgist
        exact hstops hgist
      | some q =>
        rw [haccept, Option.bind_some, behind?] at hgist
        simp only [Option.bind_some]
        split at hgist
        · rename_i h
          rw [if_pos h]
          exact hmoves hgist
        · rename_i h
          rw [if_neg h]
          exact hstops hgist
    · rw [leave?_cons hread]
      rw [hread, Option.bind_some] at hgist
      cases haccept : acceptAll r.writing d g ts with
      | none =>
        rw [haccept] at hgist
        exact hstops hgist
      | some q =>
        rw [haccept, Option.bind_some] at hgist
        obtain ⟨r', hrun, hr'⟩ := hmoves hgist
        have hrest := ih (congrArg Prod.fst hr')
        rw [show r'.writing = r.writing from congrArg (·.2.1) hr',
          show r'.events = r.events from congrArg (·.2.2) hr', ← hrun] at hrest
        exact hrest

/-! ## Whole documents -/

theorem exists_before_eq (cs : List Char) : ∃ offset, cs.drop offset = unmarked cs
    ∧ ∀ w isThorough, before w isThorough cs = (initial w isThorough offset, unmarked cs) := by
  by_cases hmark : ∃ cs', cs = '\ufeff' :: cs'
  · obtain ⟨cs', rfl⟩ := hmark
    exact ⟨1, rfl, fun _ _ ↦ rfl⟩
  · rw [not_exists] at hmark
    refine ⟨0, (unmarked_eq_self hmark).symm, fun w isThorough ↦ ?_⟩
    rw [unmarked_eq_self hmark]
    unfold before
    split
    · exact absurd rfl (hmark _)
    · rfl

theorem eq_of_finish {r : Reader} {ending : Ending} {events : List Event}
    (h : r.finish ending = .ok events) : r.mode = .epilog .idle ∧ events = r.events.reverse := by
  have hclose (isHalf : Bool) (h : r.close isHalf = .ok events) :
      r.mode = .epilog .idle ∧ events = r.events.reverse := by
    revert h
    rw [close]
    cases hm : r.mode with
    | prolog d g s =>
      simp only
      split
      · split <;> exact nofun
      · cases s.atEnd? isHalf with
        | none => exact nofun
        | some t =>
          intro h
          cases haccept : d.accept r.writing g r.start t <;> simp only [haccept] at h <;> cases h
    | content d opened s =>
      cases s with
      | text =>
        simp only
        split <;> exact nofun
      | _ => exact nofun
    | epilog s =>
      simp only
      repeat' split
      all_goals intro h
      all_goals cases h
      rename_i hs _
      exact ⟨congrArg Mode.epilog hs, rfl⟩
  cases ending with
  | complete => exact hclose false h
  | half => exact hclose true h
  | malformed isLead unread => cases h
  | cut unread => cases h

end Reader

/-- **A document without a fault.** Its prolog is left for the root element, and is a list of tokens
that the grammar accepts. -/
theorem Decoded.exists_of_read {text : Decoded} {events : List Event}
    (h : text.read = .ok events) :
    ∃ d g c rest,
      Prolog.split? text.writing .idle (unmarked text.chars) = some (text.prolog, c, rest)
      ∧ acceptAll text.writing (.initial false) .opening text.prolog = some (d, g)
      ∧ g.mayEnd = true ∧ text.writing.isNameStart c = true
      ∧ ∃ r r' : Reader, r.gist = (.content d [] (.tag (.name (.first c))), text.writing, [])
        ∧ r.run rest = (r', none) ∧ r'.mode = .epilog .idle ∧ events = r'.events.reverse := by
  obtain ⟨offset, -, hbefore⟩ := Reader.exists_before_eq text.chars
  rw [read, hbefore] at h
  simp only at h
  have hprolog := Reader.run_prolog (r := .initial text.writing false offset) rfl
    (unmarked text.chars)
  cases hrun : (Reader.initial text.writing false offset).run (unmarked text.chars) with
  | mk r f =>
    rw [hrun] at h hprolog
    cases f with
    | some f => cases h
    | none =>
      obtain ⟨hm, hevents⟩ := Reader.eq_of_finish h
      split at hprolog
      · obtain ⟨⟨d, g, s, hm'⟩, -⟩ := hprolog
        rw [hm'] at hm
        cases hm
      · rename_i d c rest hleave
        obtain ⟨ts, g, hsplit, haccept, hend, hstart⟩ := Reader.exists_of_leave? hleave
        obtain ⟨r₁, hrest, hr₁⟩ := hprolog
        have hwhole : Prolog.split? text.writing .idle (unmarked text.chars)
            = some (ts, c, rest) := hsplit
        have hts : text.prolog = ts := by
          rw [Decoded.prolog, hwhole]
          rfl
        exact ⟨d, g, c, rest, hts ▸ hsplit, hts ▸ haccept, hend, hstart, r₁, r, hr₁, hrest.symm, hm,
          hevents⟩

end VectorLint.Markup
