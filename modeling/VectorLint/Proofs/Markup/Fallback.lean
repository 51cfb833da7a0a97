import VectorLint.Proofs.Markup.Alike
import VectorLint.Proofs.Markup.KeepingUp

/-!
# Where a second reading stops

Octets whose encoding is not named are read as UTF-8, and then once more in another way if that
reading stops at the sign that stands for what is no character. But markup may hold this sign as one
of its characters, and the check passes it where any character may stand. A thorough reading of what
the check has passed keeps up with the check, and if it stops, it does so at a quote, a parenthesis
or an angle bracket. So it never stops at the sign, and markup that was written in UTF-8 is not read
in another way.
-/

namespace VectorLint.Markup

/-! ## Tokens whose place tells -/

namespace Prolog

/-- Whether the place where the token begins that is being read may be told by a fault of a thorough
reading alone. -/
def State.mayTell : State → Bool
  | .angle => true
  | .literal _ _ => true
  | .quoted _ => true
  | _ => false

/-- Whether tokens whose place may be told come up only if one had begun. -/
def Next.Tells (begun : Prop) : Next → Prop
  | .more s => s.mayTell = true → begun
  | .done t => t.mayFail = true → begun
  | .before t s _ => (t.mayFail = true → begun) ∧ s.mayTell = false
  | .root => begun
  | .invalid _ => True

theorem Next.tells_ite {begun Q : Prop} [Decidable Q] {n n' : Next} (h : Q → n.Tells begun)
    (h' : n'.Tells begun) : (if Q then n else n').Tells begun := by
  by_cases hQ : Q
  · rw [if_pos hQ]
    exact h hQ
  · rwa [if_neg hQ]

theorem State.tells_step (w : Writing) (s : State) (c : Char) :
    (s.step w c).Tells (s.mayTell = true ∨ s = .idle ∧ c ≠ '\ufffd') := by
  have hword (kind : Word) (read : List Char) {begun : Prop} :
      (continueWord w kind read c).Tells begun := by
    have hfinish : (kind.finish read).mayFail = false := by cases kind <;> rfl
    rw [continueWord]
    repeat' split
    all_goals
      first
      | trivial
      | (intro h; cases h)
      | exact ⟨fun h ↦ absurd (hfinish.symm.trans h) Bool.false_ne_true, rfl⟩
  have hbegin {begun : Prop} (h : c ≠ '\ufffd' → begun) : (begin w c).Tells begun := by
    rw [begin]
    repeat' refine Next.tells_ite (fun hc ↦ ?_) ?_
    all_goals
      first
      | trivial
      | exact fun h' ↦ absurd h' Bool.false_ne_true
      | (refine fun _ ↦ h ?_
         rintro rfl
         contradiction)
  cases s with
  | idle => exact hbegin fun h ↦ .inr ⟨rfl, h⟩
  | word kind read => exact hword kind read
  | colon read =>
    rw [step]
    split
    · intro h
      cases h
    · exact hword _ _
  | remark r =>
    rw [step]
    cases r.step w c <;> first | trivial | (intro h; cases h)
  | _ =>
    rw [step]
    repeat' split
    all_goals
      first
      | trivial
      | exact .inl rfl
      | exact fun _ ↦ .inl rfl
      | exact ⟨fun _ ↦ .inl rfl, rfl⟩
      | (intro h; cases h)
      | exact ⟨fun h ↦ (by cases h), rfl⟩

end Prolog

namespace Content

/-- Whether the place where the token begins that is being read may be told by a fault of a thorough
reading alone. -/
def State.mayTell : State → Bool
  | .angle => true
  | .tag _ => true
  | _ => false

/-- Whether a tag that is being read or ends behind a character had begun before, or begins with
this character and does not end any token, and the character is not the sign. -/
def State.Tells (s : State) (c : Char) (s₁ : State) (t : Option Token) : Prop :=
  (s₁.mayTell = true → t = none
    ∧ (s.mayTell = true ∨ (∃ n b, s = .text n b) ∧ c ≠ '\ufffd'))
    ∧ ∀ tag, t = some (.start tag) → s.mayTell = true

theorem State.tells_of_quiet {s s₁ : State} {c : Char} {t : Option Token}
    (hs₁ : s₁.mayTell = false) (ht : ∀ tag, t ≠ some (.start tag)) : s.Tells c s₁ t := by
  constructor
  · intro h
    exact absurd (hs₁.symm.trans h) Bool.false_ne_true
  · intro tag h
    exact absurd h (ht tag)

theorem State.tells_step {w : Writing} {offset : Nat} {s s₁ : State} {c : Char} {t : Option Token}
    (h : s.step w offset c = .ok (s₁, t)) : s.Tells c s₁ t := by
  have hmove {σ α : Type} (state : σ → State) (token : α → Token) {m : Move σ α}
      (hstate : (∀ x, (state x).mayTell = false) ∨ s.mayTell = true)
      (htoken : (∀ x tag, token x ≠ .start tag) ∨ s.mayTell = true)
      (h : Next.ofMove offset state token m = .ok (s₁, t)) : s.Tells c s₁ t := by
    cases m with
    | more x =>
      cases h
      refine ⟨fun hx ↦ ⟨rfl, .inl ?_⟩, by rintro _ ⟨⟩⟩
      rcases hstate with hstate | hs
      · rw [hstate x] at hx
        cases hx
      · exact hs
    | done x =>
      cases h
      refine ⟨fun hx ↦ ?_, fun tag hx ↦ ?_⟩
      · cases hx
      rcases htoken with htoken | hs
      · exact absurd (Option.some.inj hx) (htoken x tag)
      · exact hs
    | invalid => cases h
  cases s with
  | remark r => exact hmove .remark .remark (.inl fun _ ↦ rfl) (.inl (by rintro _ _ ⟨⟩)) h
  | tag r => exact hmove .tag .start (.inr rfl) (.inr rfl) h
  | endTag r => exact hmove .endTag .close (.inl fun _ ↦ rfl) (.inl (by rintro _ _ ⟨⟩)) h
  | reference r =>
    exact hmove .reference .reference (.inl fun _ ↦ rfl) (.inl (by rintro _ _ ⟨⟩)) h
  | angle =>
    have hnone : t = none := by
      simp only [step] at h
      repeat' split at h
      all_goals cases h
      all_goals rfl
    exact ⟨fun _ ↦ ⟨hnone, .inl rfl⟩, fun _ _ ↦ rfl⟩
  | text n b =>
    simp only [step, Content.text] at h
    split at h
    · rename_i hangle
      cases h
      refine ⟨fun _ ↦ ⟨rfl, .inr ⟨⟨n, b, rfl⟩, ?_⟩⟩, by rintro _ ⟨⟩⟩
      rw [hangle]
      decide
    · repeat' split at h
      all_goals cases h
      all_goals exact tells_of_quiet rfl (by rintro _ ⟨⟩)
  | _ =>
    simp only [step, Content.characterData] at h
    repeat' split at h
    all_goals cases h
    all_goals exact tells_of_quiet rfl (by rintro _ ⟨⟩)

end Content

/-! ## One character -/

/-- Whether a thorough reading is where the check is when the current token began at `start`. The
names of the open elements are the same, and a place that may be told is one with `P`. -/
inductive IsKept (P : Nat → Prop) (start : Nat) : Mode → Mode → Prop where
  | prolog {d d' : Doctype} {g : Doctype.Grammar} {s : Prolog.State} (hd : d.IsKnownTo d')
    (name : String) (hs : s.mayTell = true → P start) :
    IsKept P start (.prolog d g s) (.prolog d' (g.named name) s)
  | content {d d' : Doctype} {opened opened' : List OpenElement} {s : Content.State}
    (hpartial : d'.isPartial = d.isPartial) (hd' : d'.isThorough = true)
    (hopened : opened'.map (·.name) = opened.map (·.name)) (hs : s.mayTell = true → P start) :
    IsKept P start (.content d opened s) (.content d' opened' s)
  | epilog (s : Prolog.State) : IsKept P start (.epilog s) (.epilog s)

namespace Reader

/-- A reader at the same place that is in another mode and has found something else. -/
def moved (r : Reader) (m : Mode) (events : List Event) : Reader := { r with mode := m, events }

/-- Whether a reader is one character behind a place, and another one at the same place keeps up
with it. -/
def Follows (P : Nat → Prop) (offset : Nat) (r r' : Reader) : Prop :=
  r.offset = offset + 1 ∧ ∃ m events, r' = r.moved m events ∧ IsKept P r.start r.mode m

variable {P : Nat → Prop} {r : Reader} {c : Char}

/-- **A character of a prolog.** -/
private theorem keepsUp_stepProlog (again : Nat) (r : Reader) {d d' : Doctype}
    {g : Doctype.Grammar} {s : Prolog.State} (hd : d.IsKnownTo d') (name : String)
    (hs : s.mayTell = true → P r.start) (hc : c ≠ '\ufffd' → P r.offset) (m : Mode)
    (events : List Event) :
    KeepsUp P (Follows P r.offset) (r.stepProlog again d g s c)
      ((r.moved m events).stepProlog again d' (g.named name) s c) := by
  have htells := s.tells_step r.writing c
  have hstart (h : s.mayTell = true ∨ s = .idle ∧ c ≠ '\ufffd') :
      P (if s = .idle then r.offset else r.start) := by
    rcases h with h | ⟨rfl, hne⟩
    · rw [if_neg]
      · exact hs h
      · rintro rfl
        cases h
    · exact hc hne
  unfold stepProlog
  simp only [moved]
  cases hstep : s.step r.writing c with
  | more s₁ =>
    rw [hstep] at htells
    exact keepsUp_ok ⟨rfl, _, _, rfl, .prolog hd name fun h ↦ hstart (htells h)⟩
  | done t =>
    rw [hstep] at htells
    refine (Doctype.keepsUp_accept hd r.writing g name t fun h ↦ hstart (htells h)).bind ?_
    rintro ⟨d₁, g₁⟩ ⟨d₁', _⟩ ⟨hd₁, name₁, rfl⟩
    exact keepsUp_ok ⟨rfl, _, _, rfl, .prolog hd₁ name₁ fun h ↦ absurd h Bool.false_ne_true⟩
  | root =>
    rw [hstep] at htells
    cases g with
    | opening | beforeDoctype | afterDoctype =>
      refine KeepsUp.ite (fun _ ↦ keepsUp_error _ _) fun _ ↦ keepsUp_ok ⟨rfl, _, _, rfl, ?_⟩
      exact .content hd.isPartial hd.isThorough' rfl fun _ ↦ hstart htells
    | _ => exact keepsUp_error _ _
  | invalid back => exact keepsUp_error _ _
  | before t s₁ back =>
    rw [hstep] at htells
    cases again with
    | zero => exact keepsUp_error _ _
    | succ again =>
      refine (Doctype.keepsUp_accept hd r.writing g name t fun h ↦ hstart (htells.1 h)).bind ?_
      rintro ⟨d₁, g₁⟩ ⟨d₁', _⟩ ⟨hd₁, name₁, rfl⟩
      refine keepsUp_stepProlog again { r with start := r.offset - back } hd₁ name₁ ?_ hc m events
      intro h
      rw [htells.2] at h
      cases h

/-- Whether the elements that are open behind two tokens have the same names. -/
def OpensAlike (q q' : List OpenElement × List Event) : Prop :=
  q'.1.map (·.name) = q.1.map (·.name)

theorem keepsUp_accept (r : Reader) {d d' : Doctype} (hpartial : d'.isPartial = d.isPartial)
    (hd' : d'.isThorough = true) {opened opened' : List OpenElement}
    (hopened : opened'.map (·.name) = opened.map (·.name)) {t : Content.Token}
    (hstart : ∀ tag, t = .start tag → P r.start) (m : Mode) (events : List Event) :
    KeepsUp P OpensAlike (r.accept d opened t) ((r.moved m events).accept d' opened' t) := by
  have hok (events' : List Event) : KeepsUp P OpensAlike (.ok (opened, events'))
      (.ok (opened', events')) := keepsUp_ok hopened
  cases t with
  | start tag =>
    rw [accept_eq_map, accept_eq_map, show (r.moved m events).start = r.start from rfl]
    intro q hq
    cases henter : d.enter (scopeInside opened) r.start tag with
    | error f => rw [henter] at hq; cases hq
    | ok p =>
      rw [henter] at hq
      cases hq
      rcases Doctype.keepsUp_enter hpartial hd' (hstart tag rfl) (scopeInside opened)
        (scopeInside opened') tag p henter with ⟨p', hp', -⟩ | ⟨f, hf, hfault⟩
      · rw [hp']
        refine .inl ⟨_, rfl, ?_⟩
        by_cases hempty : tag.isEmpty = true
        · simp only [OpensAlike, hempty, if_true, hopened]
        · simp only [OpensAlike, hempty, if_false, List.map_cons, hopened, Bool.false_eq_true]
      · rw [hf]
        exact .inr ⟨f, rfl, hfault⟩
  | close name =>
    cases opened with
    | nil => exact keepsUp_error _ _
    | cons e opened =>
      obtain ⟨e', rest', rfl, he, hrest⟩ := List.map_eq_cons_iff.mp hopened
      simp only [accept, he]
      exact KeepsUp.ite (fun _ ↦ keepsUp_ok hrest) fun _ ↦ keepsUp_error _ _
  | reference ref =>
    cases ref with
    | entity name =>
      simp only [accept, hpartial]
      cases predefined? name with
      | some c => exact hok _
      | none => exact KeepsUp.ite (fun _ ↦ keepsUp_error _ _) fun _ ↦ keepsUp_error _ _
    | number n =>
      simp only [accept]
      cases numbered? n with
      | some c => exact hok _
      | none => exact keepsUp_error _ _
  | remark rem => cases rem <;> first | exact hok _ | exact keepsUp_error _ _
  | text cs => exact hok _

/-- **A character inside the root element.** -/
private theorem keepsUp_stepContent (r : Reader) {d d' : Doctype}
    (hpartial : d'.isPartial = d.isPartial) (hd' : d'.isThorough = true)
    {opened opened' : List OpenElement} (hopened : opened'.map (·.name) = opened.map (·.name))
    {s : Content.State} (hs : s.mayTell = true → P r.start) (hc : c ≠ '\ufffd' → P r.offset)
    (m : Mode) (events : List Event) :
    KeepsUp P (Follows P r.offset) (r.stepContent d opened s c)
      ((r.moved m events).stepContent d' opened' s c) := by
  unfold stepContent
  simp only [moved]
  have htold (h : s.mayTell = true ∨ (∃ n b, s = .text n b) ∧ c ≠ '\ufffd') :
      P (r.atToken s).start := by
    rcases h with h | ⟨⟨n, b, rfl⟩, hne⟩
    · cases s <;> first | exact hs h | cases h
    · exact hc hne
  rcases hstep : s.step r.writing r.offset c with f | ⟨s₁, _ | t⟩
  · exact keepsUp_error _ _
  · obtain ⟨htells, -⟩ := Content.State.tells_step hstep
    exact keepsUp_ok ⟨rfl, _, _, rfl, .content hpartial hd' hopened fun h ↦ htold (htells h).2⟩
  · obtain ⟨htells, htag⟩ := Content.State.tells_step hstep
    have hs₁ (h : s₁.mayTell = true) : P (r.atToken s).start := by
      cases (htells h).1
    refine ((r.atToken s).keepsUp_accept hpartial hd' hopened
      (fun tag ht ↦ htold (.inl (htag tag (congrArg some ht)))) m events).bind ?_
    rintro ⟨opened₁, found⟩ ⟨opened₁', found'⟩ hopened₁
    refine keepsUp_ok ⟨rfl, _, _, rfl, ?_⟩
    cases opened₁ with
    | nil =>
      rw [List.map_eq_nil_iff.mp hopened₁]
      exact .epilog .idle
    | cons e opened₁ =>
      obtain ⟨e', rest', rfl, -, -⟩ := List.map_eq_cons_iff.mp hopened₁
      exact .content hpartial hd' hopened₁ hs₁

private theorem keepsUp_stepEpilog (r : Reader) (s : Prolog.State) (c : Char) (m : Mode)
    (events : List Event) :
    KeepsUp P (Follows P r.offset) (r.stepEpilog s c) ((r.moved m events).stepEpilog s c) := by
  have hok (s : Prolog.State) (start : Nat) : KeepsUp P (Follows P r.offset)
      (.ok { r with offset := r.offset + 1, start, mode := .epilog s })
      (.ok { r.moved m events with offset := r.offset + 1, start, mode := .epilog s }) :=
    keepsUp_ok ⟨rfl, _, _, rfl, .epilog s⟩
  simp only [stepEpilog]
  rw [show (r.moved m events).writing = r.writing from rfl]
  cases s.step r.writing c with
  | more s₁ => exact hok _ _
  | done t =>
    cases t with
    | space => exact hok _ _
    | remark rem => cases rem <;> first | exact hok _ _ | exact keepsUp_error _ _
    | _ => exact keepsUp_error _ _
  | _ => exact keepsUp_error _ _

/-- **One character.** -/
theorem keepsUp_step {m : Mode} (hm : IsKept P r.start r.mode m)
    (hc : c ≠ '\ufffd' → P r.offset) (events : List Event) :
    KeepsUp P (Follows P r.offset) (r.step c) ((r.moved m events).step c) := by
  rw [step, step, show (r.moved m events).mode = m from rfl]
  generalize hr : r.mode = m₀ at hm
  cases hm with
  | prolog hd name hs => exact keepsUp_stepProlog 3 r hd name hs hc _ events
  | content hpartial hd' hopened hs =>
    exact keepsUp_stepContent r hpartial hd' hopened hs hc _ events
  | epilog s => exact keepsUp_stepEpilog r s c _ events

/-- **Many characters.** If the check gets through, a thorough reading gets through as well or stops
at a place with `P`, where `P` holds of all places but those of the sign. -/
theorem isAt_of_run {r₁ r' : Reader} {all cs : List Char} {f : Fault}
    (hP : ∀ offset, all[offset]? ≠ some '\ufffd' → P offset) (hall : all.drop r.offset = cs)
    {m : Mode} (hm : IsKept P r.start r.mode m) {events : List Event}
    (hrun : r.run cs = (r₁, none)) (hrun' : (r.moved m events).run cs = (r', some f)) :
    f.IsAt P := by
  induction cs generalizing r m events with
  | nil => cases hrun'
  | cons c cs ih =>
    have hc (hne : c ≠ '\ufffd') : P r.offset := by
      refine hP _ fun h ↦ hne ?_
      have hget : (all.drop r.offset)[0]? = all[r.offset]? := List.getElem?_drop
      rw [hall, h] at hget
      exact Option.some.inj hget
    cases hr : r.step c with
    | error f => rw [run_cons_of_error hr] at hrun; cases hrun
    | ok r₂ =>
      rw [run_cons_of_ok hr] at hrun
      rcases keepsUp_step hm hc events r₂ hr with ⟨r₂', hr', hoffset, m₂, events₂, rfl, hm₂⟩ |
        ⟨f', hr', hf'⟩
      · rw [run_cons_of_ok hr'] at hrun'
        refine ih ?_ hm₂ hrun hrun'
        rw [hoffset, ← List.tail_drop, hall, List.tail_cons]
      · rw [run_cons_of_error hr'] at hrun'
        cases hrun'
        exact hf'

theorem run_append_of_fault {r r' : Reader} {cs : List Char} {f : Fault}
    (h : r.run cs = (r', some f)) (cs' : List Char) : r.run (cs ++ cs') = (r', some f) := by
  induction cs generalizing r with
  | nil => cases h
  | cons c cs ih =>
    rw [List.cons_append]
    cases hr : r.step c with
    | error f' =>
      rw [run_cons_of_error hr] at h ⊢
      exact h
    | ok r₁ =>
      rw [run_cons_of_ok hr] at h ⊢
      exact ih h

end Reader

/-! ## Whole documents -/

/-- Whether a thorough reading of some characters does not stop at the sign. -/
def PassesSigns (cs : List Char) : Prop :=
  ∀ problem offset, (readPart cs).2 = some (.malformed problem offset) →
    cs[offset]? ≠ some '\ufffd'

/-- **What the check has passed** is not read to a sign by a thorough reading. -/
theorem passesSigns_of_read {text : Decoded} {events : List Event} (h : text.read = .ok events)
    (hwriting : text.writing = .octets) : PassesSigns text.chars := by
  intro problem offset hfault
  obtain ⟨start, hall, hbefore⟩ := Reader.exists_before_eq text.chars
  rw [Decoded.read, hbefore, hwriting] at h
  rw [readPart, hbefore] at hfault
  simp only at h hfault
  cases hrun : (Reader.initial .octets false start).run (unmarked text.chars) with
  | mk r f =>
    rw [hrun] at h
    cases f with
    | some f => cases h
    | none =>
      have hd : (Doctype.initial false).IsKnownTo (.initial true) := ⟨rfl, rfl, rfl, rfl, rfl⟩
      have hkept : IsKept (fun o ↦ text.chars[o]? ≠ some '\ufffd') start
          (.prolog (.initial false) .opening .idle) (.prolog (.initial true) .opening .idle) :=
        IsKept.prolog (g := .opening) (s := .idle) hd "" fun h ↦ absurd h Bool.false_ne_true
      exact Reader.isAt_of_run (r := .initial .octets false start) (fun _ ↦ id) hall hkept hrun
        (Prod.ext rfl hfault)

private theorem fault_readPart {c : Char} (hc : c ≠ '\ufeff') {front : List Char} {f : Fault}
    (h : ((Reader.initial .octets true 0).run (c :: front)).2 = some f) (rest : List Char) :
    (readPart (c :: (front ++ rest))).2 = some f := by
  have hbefore : Reader.before .octets true (c :: (front ++ rest))
      = (.initial .octets true 0, c :: (front ++ rest)) := by
    unfold Reader.before
    split
    · rename_i hcs
      exact absurd (List.cons.inj hcs).1 hc
    · rfl
  rw [readPart, hbefore]
  exact congrArg Prod.snd (Reader.run_append_of_fault (Prod.ext rfl h) rest)

theorem passesSigns_of_zero {cs : List Char}
    (h : (∃ rest, cs = '\x00' :: rest) ∨ ∃ n < 128, ∃ rest, cs = Char.ofNat n :: '\x00' :: rest) :
    PassesSigns cs := by
  intro problem offset hfault
  rcases h with ⟨rest, rfl⟩ | ⟨n, hn, rest, rfl⟩
  · have hfirst : ((Reader.initial .octets true 0).run ['\x00']).2
        = some (.malformed .invalidToken 0) := by
      decide +kernel
    cases hfault.symm.trans (fault_readPart (by decide) hfirst rest)
    simp
  · have hfaults : ∀ n < 128, ((Reader.initial .octets true 0).run [Char.ofNat n, '\x00']).2
        ∈ [some (.malformed .invalidToken 0), some (.malformed .invalidToken 1),
          some (.malformed .grammar 0)] := by
      decide +kernel
    have hascii : ∀ n < 128, Char.ofNat n ≠ '\ufeff' ∧ Char.ofNat n ≠ '\ufffd' := by decide +kernel
    obtain ⟨hmark, hsign⟩ := hascii n hn
    have hmem := hfaults n hn
    simp only [List.mem_cons, List.not_mem_nil, or_false] at hmem
    rcases hmem with hfirst | hsecond | hfirst
    · cases hfault.symm.trans (fault_readPart hmark hfirst rest)
      simpa using hsign
    · cases hfault.symm.trans (fault_readPart hmark hsecond rest)
      simp
    · cases hfault.symm.trans (fault_readPart hmark hfirst rest)
      simpa using hsign

/-- Octets in UTF-8 whose encoding is not named are not read in another way if their reading does
not stop at a sign. -/
theorem Encoding.salvageUnnamed_eq {bs : List UInt8} {cs : List Char}
    (h : Text.Utf8.decode bs = (cs, none)) (hcs : PassesSigns cs) :
    salvageUnnamed bs = (readPart cs).1 := by
  simp only [salvageUnnamed, replaceFaults_of_decode h]
  split
  · rename_i events problem offset hread
    rw [if_neg (hcs problem offset (by rw [hread])), hread]
  · rename_i events f hread
    rw [hread]

end VectorLint.Markup
