import Mathlib.Data.List.Basic
import VectorLint.Proofs.Markup.Prolog

/-!
# Reading markup however it is written

How characters are written matters to a reader in two ways only: three signs are letters in some
writings and not in others, and a letter is not known at once in all of them. Where the three signs
do not occur, the first falls away. The second decides about keywords, and no declaration has a
keyword with a letter beyond ASCII. So a prolog is split into the same tokens in any writing, and
the tokens of content are the same as well, but for the mark of a section, which is looked at when
enough units are read.
-/

namespace VectorLint.Markup

open Doctype (Token)

/-- Whether a character counts in names as it does in UTF-8. -/
structure Writing.IsUsual (w : Writing) (c : Char) : Prop where
  isName : w.isName c = Writing.octets.isName c
  isNameStart : w.isNameStart c = Writing.octets.isNameStart c

theorem Writing.isUsual_of_notMem {w : Writing} {c : Char}
    (h : w.hasLetterSigns = true → c ∉ letterSigns) : w.IsUsual c := by
  have hsign : (w.hasLetterSigns && letterSigns.contains c) = false := by
    cases hw : w.hasLetterSigns with
    | false => rfl
    | true => simpa using h hw
  constructor
  · simp only [Writing.isName, hsign]
    rfl
  · simp only [Writing.isNameStart, hsign]
    rfl

/-! ## One character -/

section

variable {w : Writing} {c : Char} (hc : w.IsUsual c)

include hc

theorem Remark.Start.step_octets (s : Remark.Start) : s.step w c = s.step .octets c := by
  cases s <;> simp only [step, hc.isName, hc.isNameStart]

theorem Reference.Start.step_octets (s : Reference.Start) : s.step w c = s.step .octets c := by
  cases s <;> simp only [step, hc.isName, hc.isNameStart]

theorem EndTag.step_octets (s : EndTag) : s.step w c = s.step .octets c := by
  cases s <;> simp only [step, hc.isName, hc.isNameStart]

theorem NameStart.push?_octets (n : NameStart) : n.push? w c = n.push? .octets c := by
  simp only [push?, hc.isName, hc.isNameStart]

theorem StartTag.Start.step_octets (offset : Nat) (s : StartTag.Start) :
    s.step w offset c = s.step .octets offset c := by
  cases s <;>
    simp only [step, hc.isNameStart, NameStart.push?_octets hc, Reference.Start.step_octets hc]

theorem Content.State.step_octets (offset : Nat) {s : Content.State}
    (hs : ∀ read, s ≠ .sectionMark read) : s.step w offset c = s.step .octets offset c := by
  cases s with
  | sectionMark read => exact absurd rfl (hs read)
  | _ =>
    simp only [step, hc.isNameStart, Remark.Start.step_octets hc, Reference.Start.step_octets hc,
      StartTag.Start.step_octets hc, EndTag.step_octets hc]

end

namespace Prolog

/-- Whether a character that does `n` in some writing does `n'` in UTF-8. It need not where it is a
letter beyond ASCII in a keyword, where it begins an element and starts no name, and where it
cannot stand. -/
def Next.Agrees (w : Writing) (c : Char) (n n' : Next) : Prop :=
  n' = n ∨ (∃ read, n = .more (.keyword (c :: read)) ∧ 0x80 ≤ c.toNat)
    ∨ (n = .root ∧ w.isNameStart c = false) ∨ ∃ back, n = .invalid back

namespace Next

variable {w : Writing} {c : Char}

theorem agrees_ite {P : Prop} [Decidable P] {n n' m m' : Next} (h : Agrees w c n n')
    (h' : Agrees w c m m') : Agrees w c (if P then n else m) (if P then n' else m') := by
  split
  · exact h
  · exact h'

variable (hc : w.IsUsual c)

include hc

theorem agrees_keyword (read : List Char) :
    Agrees w c (if w.isKeyword c then .more (.keyword (c :: read)) else .invalid 0)
      (if Writing.octets.isKeyword c then .more (.keyword (c :: read)) else .invalid 0) := by
  by_cases hkeyword : w.isKeyword c = true
  · rw [if_pos hkeyword]
    by_cases hsmall : c.toNat < 0x80
    · have hstart := (Bool.and_eq_true_iff.mp hkeyword).2
      have hoctets : Writing.octets.isKeyword c = true :=
        Bool.and_eq_true_iff.mpr ⟨decide_eq_true hsmall, hc.isNameStart ▸ hstart⟩
      rw [if_pos hoctets]
      exact .inl rfl
    · exact .inr (.inl ⟨read, rfl, Nat.le_of_not_lt hsmall⟩)
  · rw [if_neg hkeyword]
    exact .inr (.inr (.inr ⟨0, rfl⟩))

theorem agrees_root : Agrees w c (if w.beginsElement c then .root else .invalid 0)
    (if Writing.octets.beginsElement c then .root else .invalid 0) := by
  by_cases hbegins : w.beginsElement c = true
  · rw [if_pos hbegins]
    cases hstart : w.isNameStart c with
    | false => exact .inr (.inr (.inl ⟨rfl, hstart⟩))
    | true =>
      have hoctets : Writing.octets.beginsElement c = true := by
        rw [Writing.beginsElement, ← hc.isNameStart, hstart]
        split <;> rfl
      rw [if_pos hoctets]
      exact .inl rfl
  · rw [if_neg hbegins]
    exact .inr (.inr (.inr ⟨0, rfl⟩))

end Next

section

variable {w : Writing} {c : Char} (hc : w.IsUsual c)

include hc

/-- **One character of a prolog.** -/
theorem State.agrees_step (s : State) : (s.step w c).Agrees w c (s.step .octets c) := by
  cases s with
  | angle => exact Next.agrees_ite (.inl rfl) (Next.agrees_ite (.inl rfl) (Next.agrees_root hc))
  | bang =>
    exact Next.agrees_ite (.inl rfl) (Next.agrees_ite (.inl rfl) (Next.agrees_keyword hc []))
  | keyword read =>
    exact Next.agrees_ite (.inl rfl) (Next.agrees_ite (.inl rfl) (Next.agrees_keyword hc read))
  | _ =>
    refine .inl ?_
    simp only [step, begin, continueWord, hc.isName, hc.isNameStart, Remark.Start.step_octets hc]

theorem State.read_octets {again : Nat} {s : State} {ts : List Token} {s' : Option State}
    (h : s.read w again c = some (ts, s')) (hroot : s' = none → w.isNameStart c = true) :
    s.read .octets again c = some (ts, s')
      ∨ ∃ read, s' = some (.keyword (c :: read)) ∧ 0x80 ≤ c.toNat := by
  induction again generalizing s ts with
  | zero =>
    unfold read at h ⊢
    rcases s.agrees_step hc with hs | ⟨read, hs, hlarge⟩ | ⟨hs, hstart⟩ | ⟨back, hs⟩
    · exact .inl (hs ▸ h)
    all_goals
      rw [hs] at h
      cases h
    · exact .inr ⟨read, rfl, hlarge⟩
    · rw [hroot rfl] at hstart
      cases hstart
  | succ again ih =>
    unfold read at h ⊢
    rcases s.agrees_step hc with hs | ⟨read, hs, hlarge⟩ | ⟨hs, hstart⟩ | ⟨back, hs⟩
    · rw [hs]
      cases hstep : s.step w c with
      | before t s₁ back =>
        rw [hstep] at h
        obtain ⟨⟨ts', s₂⟩, hread, hp⟩ := Option.map_eq_some_iff.mp h
        cases hp
        rcases ih hread with hread' | hkeyword
        · exact .inl (by simp only [hread', Option.map_some])
        · exact .inr hkeyword
      | invalid back => rw [hstep] at h; cases h
      | _ => rw [hstep] at h; exact .inl h
    all_goals
      rw [hs] at h
      cases h
    · exact .inr ⟨read, rfl, hlarge⟩
    · rw [hroot rfl] at hstart
      cases hstart

end

/-! ## What one character does, step by step -/

/-- What a character does to a token that is being read, one step after the other. -/
inductive State.Reads (w : Writing) (c : Char) : State → List Token → Option State → Prop where
  | more {s s' : State} (h : s.step w c = .more s') : Reads w c s [] (some s')
  | done {s : State} {t : Token} (h : s.step w c = .done t) : Reads w c s [t] (some .idle)
  | root {s : State} (h : s.step w c = .root) : Reads w c s [] none
  | before {s s₁ : State} {t : Token} {back : Nat} {ts : List Token} {s' : Option State}
    (h : s.step w c = .before t s₁ back) (hrest : Reads w c s₁ ts s') : Reads w c s (t :: ts) s'

theorem State.reads_of_read {w : Writing} {again : Nat} {s : State} {c : Char} {ts : List Token}
    {s' : Option State} (h : s.read w again c = some (ts, s')) : Reads w c s ts s' := by
  induction again generalizing s ts with
  | zero =>
    unfold read at h
    cases hn : s.step w c <;> rw [hn] at h <;> cases h
    · exact .more hn
    · exact .done hn
    · exact .root hn
  | succ again ih =>
    unfold read at h
    cases hn : s.step w c with
    | before t s₁ back =>
      rw [hn] at h
      obtain ⟨⟨ts', s₂⟩, hread, hp⟩ := Option.map_eq_some_iff.mp h
      cases hp
      exact .before hn (ih hread)
    | more => rw [hn] at h; cases h; exact .more hn
    | done => rw [hn] at h; cases h; exact .done hn
    | root => rw [hn] at h; cases h; exact .root hn
    | invalid => rw [hn] at h; cases h

/-! ## Keywords -/

theorem State.Reads.keyword {w : Writing} {s : State} {kept : List Char} {ts : List Token}
    {c : Char} {s' : Option State} (hs : s = .keyword kept ∨ s = .keywordPercent kept)
    (h : s.Reads w c ts s') :
    .opening (textOf kept) ∈ ts ∨ ∃ kept', kept ⊆ kept'
      ∧ (s' = some (.keyword kept') ∨ s' = some (.keywordPercent kept')) := by
  have hstep : (∃ s₁ back, s.step w c = .before (.opening (textOf kept)) s₁ back)
      ∨ (∃ back, s.step w c = .invalid back)
      ∨ ∃ kept' s₁, s.step w c = .more s₁ ∧ kept ⊆ kept'
        ∧ (s₁ = .keyword kept' ∨ s₁ = .keywordPercent kept') := by
    rcases hs with rfl | rfl
    · rw [step]
      repeat' split
      · exact .inr (.inr ⟨kept, _, rfl, fun _ ↦ id, .inr rfl⟩)
      · exact .inl ⟨_, _, rfl⟩
      · exact .inr (.inr ⟨c :: kept, _, rfl, List.subset_cons_self _ _, .inl rfl⟩)
      · exact .inr (.inl ⟨_, rfl⟩)
    · rw [step]
      split
      · exact .inr (.inl ⟨_, rfl⟩)
      · exact .inl ⟨_, _, rfl⟩
  rcases hstep with ⟨s₁, back, hn⟩ | ⟨back, hn⟩ | ⟨kept', s₁, hn, hsub, hs₁⟩
  · cases h with
    | before h hrest =>
      rw [hn] at h
      cases h
      exact .inl List.mem_cons_self
    | more h | done h | root h => rw [hn] at h; cases h
  · cases h with
    | more h | done h | root h | before h => rw [hn] at h; cases h
  · cases h with
    | more h =>
      rw [hn] at h
      cases h
      exact .inr ⟨kept', hsub, hs₁.imp (congrArg some) (congrArg some)⟩
    | done h | root h | before h => rw [hn] at h; cases h

section Split

variable {w : Writing} {s : State} {cs rest : List Char} {ts : List Token} {c : Char}

theorem reads_of_split? {c' : Char} (h : split? w s (c' :: cs) = some (ts, c, rest)) :
    s.Reads w c' ts none ∧ c = c' ∧ rest = cs
      ∨ ∃ ts₁ s' ts₂, s.Reads w c' ts₁ (some s') ∧ split? w s' cs = some (ts₂, c, rest)
        ∧ ts = ts₁ ++ ts₂ := by
  rw [split?] at h
  rcases hread : s.read w 3 c' with _ | ⟨ts₁, _ | s'⟩ <;> rw [hread] at h
  · cases h
  · cases h
    exact .inl ⟨State.reads_of_read hread, rfl, rfl⟩
  · obtain ⟨⟨ts₂, root⟩, hrest, hp⟩ := Option.map_eq_some_iff.mp h
    cases hp
    exact .inr ⟨ts₁, s', ts₂, State.reads_of_read hread, hrest, rfl⟩

theorem suffix_of_split? (h : split? w s cs = some (ts, c, rest)) : c :: rest <:+ cs := by
  induction cs generalizing s ts with
  | nil => cases h
  | cons c' cs ih =>
    obtain ⟨-, rfl, rfl⟩ | ⟨ts₁, s', ts₂, -, hrest, -⟩ := reads_of_split? h
    · exact List.suffix_rfl
    · exact (ih hrest).trans (List.suffix_cons _ _)

theorem exists_opening_of_split? {kept : List Char}
    (hs : s = .keyword kept ∨ s = .keywordPercent kept)
    (h : split? w s cs = some (ts, c, rest)) :
    ∃ k, Token.opening k ∈ ts ∧ ∀ c ∈ kept, c ∈ k.toList := by
  induction cs generalizing s kept ts with
  | nil => cases h
  | cons c' cs ih =>
    have hkept : ∀ c ∈ kept, c ∈ (textOf kept).toList := fun c hc ↦ by simpa [textOf] using hc
    obtain ⟨hreads, -, -⟩ | ⟨ts₁, s', ts₂, hreads, hrest, rfl⟩ := reads_of_split? h
    · rcases hreads.keyword hs with hmem | ⟨_, -, hs' | hs'⟩
      · exact ⟨_, hmem, hkept⟩
      · cases hs'
      · cases hs'
    · rcases hreads.keyword hs with hmem | ⟨kept', hsub, hs'⟩
      · exact ⟨_, List.mem_append_left _ hmem, hkept⟩
      · obtain ⟨k, hk, hkept'⟩ := ih (hs'.imp Option.some.inj Option.some.inj) hrest
        exact ⟨k, List.mem_append_right _ hk, fun c hc ↦ hkept' c (hsub hc)⟩

/-- **A prolog** whose keywords are ASCII is split in UTF-8 as it is in any other writing. -/
theorem split?_octets (hcs : ∀ c ∈ cs, w.IsUsual c) (h : split? w s cs = some (ts, c, rest))
    (hstart : w.isNameStart c = true)
    (hts : ∀ k, .opening k ∈ ts → ∀ c ∈ k.toList, c.toNat < 0x80) :
    split? .octets s cs = some (ts, c, rest) := by
  induction cs generalizing s ts with
  | nil => cases h
  | cons c' cs ih =>
    have hc' := hcs _ List.mem_cons_self
    rw [split?] at h ⊢
    rcases hread : s.read w 3 c' with _ | ⟨ts₁, _ | s'⟩ <;> rw [hread] at h
    · cases h
    · cases h
      rcases State.read_octets hc' hread fun _ ↦ hstart with hread' | ⟨_, h', -⟩
      · rw [hread']
      · cases h'
    · obtain ⟨⟨ts₂, root⟩, hrest, hp⟩ := Option.map_eq_some_iff.mp h
      cases hp
      rcases State.read_octets hc' hread (fun h ↦ by cases h) with hread' | ⟨kept, h', hlarge⟩
      · rw [hread']
        simp only
        rw [ih (fun c hc ↦ hcs c (List.mem_cons_of_mem _ hc)) hrest fun k hk ↦
          hts k (List.mem_append_right _ hk)]
        rfl
      -- a letter that is known in one writing only would be left in a keyword beyond ASCII
      · cases h'
        obtain ⟨k, hk, hkept⟩ := exists_opening_of_split? (.inl rfl) hrest
        have hsmall := hts k (List.mem_append_right _ hk) _ (hkept c' List.mem_cons_self)
        omega

end Split

/-! ## Literals -/

/-- The characters that are kept of a literal. -/
def State.kept : State → List Char
  | .literal _ read => read
  | .quoted read => read
  | _ => []

/-- The characters of a token that is a literal. -/
def literalOf : Token → List Char
  | .literal text => text
  | _ => []

theorem literalOf_finish (kind : Word) (read : List Char) : literalOf (kind.finish read) = [] := by
  cases kind <;> rfl

/-- Whether a character `c` adds no other than itself to the characters that are kept. -/
def Next.Keeps (kept : List Char) (c : Char) : Next → Prop
  | .more s => s.kept ⊆ c :: kept
  | .done t => literalOf t = []
  | .before t s _ => literalOf t ⊆ kept ∧ s.kept = []
  | _ => True

theorem Next.keeps_ite {P : Prop} [Decidable P] {kept : List Char} {c : Char} {n n' : Next}
    (h : n.Keeps kept c) (h' : n'.Keeps kept c) : (if P then n else n').Keeps kept c := by
  split
  · exact h
  · exact h'

theorem State.keeps_step (w : Writing) (s : State) (c : Char) : (s.step w c).Keeps s.kept c := by
  have hnil {kept : List Char} : [] ⊆ kept := List.nil_subset _
  have hword (kind : Word) (read kept : List Char) :
      (continueWord w kind read c).Keeps kept c := by
    rw [continueWord]
    repeat' split
    all_goals
      first | trivial | exact hnil | rfl | exact ⟨(literalOf_finish kind read).symm ▸ hnil, rfl⟩
  cases s with
  | remark r =>
    simp only [step]
    cases r.step w c <;> first | trivial | exact hnil
  | word kind read => exact hword kind read _
  | colon read => exact Next.keeps_ite hnil (hword ..)
  | literal q read =>
    simp only [step]
    repeat' split
    · exact List.subset_cons_self _ _
    · exact fun _ ↦ id
    · trivial
  | quoted read =>
    simp only [step]
    split
    · exact ⟨fun x hx ↦ List.mem_reverse.mp hx, rfl⟩
    · trivial
  | idle =>
    unfold step begin
    repeat' apply Next.keeps_ite
    all_goals first | trivial | exact hnil
  | _ =>
    simp only [step]
    repeat' split
    all_goals first | trivial | exact hnil | rfl | exact ⟨hnil, rfl⟩

theorem State.Reads.keeps {w : Writing} {s : State} {c : Char} {ts : List Token}
    {s' : Option State} (h : Reads w c s ts s') :
    (∀ t ∈ ts, literalOf t ⊆ s.kept) ∧ ∀ s₁ ∈ s', s₁.kept ⊆ c :: s.kept := by
  induction h with
  | @more s s' hn =>
    have hstep := s.keeps_step w c
    rw [hn] at hstep
    exact ⟨nofun, fun s₁ hs₁ ↦ Option.some.inj hs₁ ▸ hstep⟩
  | @done s t hn =>
    have hstep := s.keeps_step w c
    rw [hn] at hstep
    refine ⟨fun t' ht' ↦ ?_, fun s₁ hs₁ ↦ Option.some.inj hs₁ ▸ List.nil_subset _⟩
    rw [List.mem_singleton.mp ht', show literalOf t = [] from hstep]
    exact List.nil_subset _
  | root => exact ⟨nofun, nofun⟩
  | @before s s₁ t back ts s' hn hrest ih =>
    have hstep := s.keeps_step w c
    rw [hn] at hstep
    obtain ⟨ht, hs₁⟩ := hstep
    rw [hs₁] at ih
    refine ⟨List.forall_mem_cons.mpr ⟨ht, fun t' ht' ↦ ?_⟩, fun s₂ hs₂ ↦ ?_⟩
    · exact List.Subset.trans (ih.1 t' ht') (List.nil_subset _)
    · exact List.Subset.trans (ih.2 s₂ hs₂) (List.cons_subset_cons _ (List.nil_subset _))

/-- **Literals** have no other characters than the text. -/
theorem literalOf_subset {w : Writing} {s : State} {cs rest : List Char} {ts : List Token}
    {c : Char} (h : split? w s cs = some (ts, c, rest)) :
    ∀ t ∈ ts, literalOf t ⊆ s.kept ++ cs := by
  induction cs generalizing s ts with
  | nil => cases h
  | cons c' cs ih =>
    obtain ⟨hreads, -, -⟩ | ⟨ts₁, s', ts₂, hreads, hrest, rfl⟩ := reads_of_split? h
    · exact fun t ht ↦ List.Subset.trans (hreads.keeps.1 t ht) (List.subset_append_left _ _)
    · obtain ⟨hts, hs'⟩ := hreads.keeps
      intro t ht x hx
      rcases List.mem_append.mp ht with ht | ht
      · exact List.mem_append_left _ (hts t ht hx)
      · rcases List.mem_append.mp (ih hrest t ht hx) with hx | hx
        · rcases List.mem_cons.mp (hs' s' rfl hx) with rfl | hx
          · exact List.mem_append_right _ List.mem_cons_self
          · exact List.mem_append_left _ hx
        · exact List.mem_append_right _ (List.mem_cons_of_mem _ hx)

end Prolog

end VectorLint.Markup
