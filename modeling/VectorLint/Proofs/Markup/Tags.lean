import VectorLint.Proofs.Markup.Moves

/-!
# Reading the tags of a draft

The value of an attribute is read as pieces, and the pieces differ with the hand: a character is one
as itself or as a reference. What is kept of a value is therefore not which pieces were read but
that they spell the value, piece by piece and character by character, and a tag is read as
attributes that spell those of the draft. Pieces that spell a value denote it and have no fault.
-/

namespace VectorLint.Markup

/-! ## Values -/

/-- Whether a piece of a value denotes a character: it is the character itself, and no white space
but a blank, or a reference to it. -/
def Piece.Spells : Piece → Char → Prop
  | .char d, c => d = c ∧ (isSpace c = true → c = ' ')
  | .reference r _, c => r.char? = some c

namespace Piece

theorem denoted_of_spells {pieces : List Piece} {cs : List Char}
    (h : List.Forall₂ Piece.Spells pieces cs) (afterReturn : Bool) :
    Piece.denoted afterReturn pieces = cs := by
  induction h generalizing afterReturn with
  | nil => rfl
  | @cons p c pieces cs hp _ ih =>
    cases p with
    | char d =>
      obtain ⟨rfl, hspace⟩ := hp
      have hblank : ∀ s : Char, isSpace s = true → s ≠ ' ' → d ≠ s := by
        rintro s hs hne rfl
        exact hne (hspace hs)
      have htab : d ≠ '\t' := hblank _ rfl (by decide)
      have hline : d ≠ '\n' := hblank _ rfl (by decide)
      have hreturn : d ≠ '\r' := hblank _ rfl (by decide)
      rw [denoted, if_neg (by simp [hline]), if_neg (by simp [htab, hline, hreturn]), ih]
    | reference r offset =>
      have hr : r.char? = some c := hp
      rw [denoted, hr, ih]
      rfl

theorem fault?_of_spells {pieces : List Piece} {cs : List Char}
    (h : List.Forall₂ Piece.Spells pieces cs) (isPartial : Bool) (start : Nat) :
    Piece.fault? isPartial start pieces = none := by
  induction h with
  | nil => rfl
  | @cons p c pieces cs hp _ ih =>
    rw [fault?, List.findSome?_cons, ← fault?, ih]
    cases p with
    | char d => rfl
    | reference r offset =>
      have hr : r.char? = some c := hp
      cases r with
      | entity name =>
        have hname : predefined? name = some c := hr
        simp [Reference.fault?, hname]
      | number n =>
        have hn : numbered? n = some c := hr
        simp [Reference.fault?, hn]

end Piece

theorem run_spelled_value (h : Hand) {c : Char} (hc : isLegal c = true) (offset : Nat)
    (t : OpenTag) (k : Key) (pieces : List Piece) :
    ∃ p : Piece, p.Spells c ∧ Move.run (StartTag.Start.step .octets) offset (.value t k '"' pieces)
      (spelled h.refersInValue c) = some (.value t k '"' (p :: pieces)) := by
  rw [spelled]
  split
  · obtain ⟨s, r, hrun, hdone, hr⟩ := run_referenceTo hc
    refine ⟨.reference r offset, hr, ?_⟩
    have hfirst : StartTag.Start.step .octets offset (.value t k '"' pieces) '&'
        = .more (.reference t k '"' pieces offset .empty) := rfl
    have hlift : Move.run (StartTag.Start.step .octets) (offset + 1)
        (.reference t k '"' pieces offset .empty) (referenceTo c)
          = some (.reference t k '"' pieces offset s) :=
      Move.run_inside (f := StartTag.Start.reference t k '"' pieces offset) (fun _ s c s' h ↦ by
        simp only [StartTag.Start.step, h]) (hrun (offset + 1))
    have hlast : ∀ offset',
        StartTag.Start.step .octets offset' (.reference t k '"' pieces offset s) ';'
          = .more (.value t k '"' (.reference r offset :: pieces)) := fun _ ↦ by
      simp only [StartTag.Start.step, hdone]
    rw [List.cons_append, Move.run_cons hfirst, Move.run_append hlift, Move.run_cons (hlast _),
      Move.run]
  · rename_i hraw
    simp only [isMarkup, Hand.refersInValue, Bool.or_eq_true, beq_iff_eq, not_or,
      Bool.and_eq_true, bne_iff_ne, ne_eq, not_and, not_not] at hraw
    obtain ⟨⟨⟨⟨⟨hamp, hlt⟩, -⟩, hquote⟩, -⟩, hspace, -⟩ := hraw
    refine ⟨.char c, ⟨rfl, hspace⟩, ?_⟩
    have hstep : StartTag.Start.step .octets offset (.value t k '"' pieces) c
        = .more (.value t k '"' (.char c :: pieces)) := by
      simp only [StartTag.Start.step, if_neg hquote, if_neg hamp, if_neg hlt, if_pos hc]
    rw [Move.run_cons hstep, Move.run]

theorem run_spelled_values (h : Hand) {cs : List Char} (hcs : ∀ c ∈ cs, isLegal c = true)
    (offset : Nat) (t : OpenTag) (k : Key) (pieces : List Piece) :
    ∃ ps, List.Forall₂ Piece.Spells ps cs ∧
      Move.run (StartTag.Start.step .octets) offset (.value t k '"' pieces)
        (cs.flatMap (spelled h.refersInValue)) = some (.value t k '"' (ps.reverse ++ pieces)) := by
  induction cs generalizing offset pieces with
  | nil => exact ⟨[], .nil, rfl⟩
  | cons c cs ih =>
    obtain ⟨p, hp, hrun⟩ := run_spelled_value h (hcs c List.mem_cons_self) offset t k pieces
    obtain ⟨ps, hps, hrest⟩ := ih (fun c hc ↦ hcs c (List.mem_cons_of_mem _ hc))
      (offset + (spelled h.refersInValue c).length) (p :: pieces)
    refine ⟨p :: ps, .cons hp hps, ?_⟩
    rw [List.flatMap_cons, Move.run_append hrun, hrest, List.reverse_cons, List.append_assoc,
      List.singleton_append]

/-! ## Attributes -/

/-- Whether an attribute that was read is one of a draft. -/
def RawAttribute.Spells (a : RawAttribute) (b : Draft.Attribute) : Prop :=
  a.name = ⟨none, b.name.text⟩ ∧ List.Forall₂ Piece.Spells a.value b.value.chars

/-- Whether a tag may go on with an attribute here, or end: what has been read of it is `t`. -/
def StartTag.Start.IsBetween (s : StartTag.Start) (t : OpenTag) : Prop :=
  ∀ offset, ∀ c ∈ [' ', '>', '/'], s.step .octets offset c = t.between c

theorem StartTag.Start.isBetween_closed (t : OpenTag) : (closed t).IsBetween t :=
  fun _ _ _ ↦ rfl

theorem StartTag.Start.isBetween_name (n : LocalName) :
    (name ⟨none, n.read⟩).IsBetween ⟨⟨none, n.text⟩, []⟩ := by
  intro offset c hc
  -- a Boolean, since the quantifier over characters would be decided by going through all of them
  have hname : ([' ', '>', '/'].all fun c ↦ !isName c && c != ':') = true := rfl
  obtain ⟨hno, hcolon⟩ : isName c = false ∧ c ≠ ':' := by simpa using List.all_eq_true.mp hname c hc
  simp only [step, NameStart.push?_eq_none n.read_ne_nil hno hcolon, NameStart.finish?_read]

theorem run_key {s : StartTag.Start} {t : OpenTag} (hs : s.IsBetween t) (n : LocalName)
    (offset : Nat) :
    Move.run (StartTag.Start.step .octets) offset s (' ' :: n.chars ++ ['=', '"'])
      = some (.value t ⟨⟨none, n.text⟩, offset + 1⟩ '"' []) := by
  have hblank : s.step .octets offset ' ' = .more (.gap t) :=
    (hs offset ' ' List.mem_cons_self).trans rfl
  have hfirst : StartTag.Start.step .octets (offset + 1) (.gap t) n.first
      = .more (.key t (.first n.first) (offset + 1)) := by
    rw [StartTag.Start.step, Writing.isNameStart_octets, if_pos n.isNameStart_first]
  have hrest : Move.run (StartTag.Start.step .octets) (offset + 2)
      (.key t (.first n.first) (offset + 1)) n.rest
        = some (.key t ⟨none, n.read⟩ (offset + 1)) :=
    run_name (f := fun read ↦ StartTag.Start.key t ⟨none, read⟩ (offset + 1))
      (fun _ read c hread hc ↦ by
        simp only [StartTag.Start.step, NameStart.push?_isName hread hc])
      (List.cons_ne_nil n.first []) n.isName_rest (offset + 2)
  have hpush : NameStart.push? .octets ⟨none, n.read⟩ '=' = none :=
    NameStart.push?_eq_none n.read_ne_nil rfl (by decide)
  have hequals : ∀ offset',
      StartTag.Start.step .octets offset' (.key t ⟨none, n.read⟩ (offset + 1)) '='
        = .more (.quote t ⟨⟨none, n.text⟩, offset + 1⟩) := fun _ ↦ by
    simp only [StartTag.Start.step, hpush, NameStart.finish?_read]
    rfl
  rw [LocalName.chars, List.cons_append, List.cons_append, Move.run_cons hblank,
    Move.run_cons hfirst]
  refine (Move.run_append hrest _).trans ?_
  exact (Move.run_cons (hequals _) _).trans (Move.run_cons rfl _)

theorem run_attribute (h : Hand) {s : StartTag.Start} {t : OpenTag} (hs : s.IsBetween t)
    (b : Draft.Attribute) (offset : Nat) :
    ∃ a : RawAttribute, a.Spells b ∧
      Move.run (StartTag.Start.step .octets) offset s (h.attribute b)
        = some (.closed { t with attributes := a :: t.attributes }) := by
  obtain ⟨ps, hps, hrun⟩ := run_spelled_values h b.value.isLegal_chars
    (offset + (' ' :: b.name.chars ++ ['=', '"']).length) t ⟨⟨none, b.name.text⟩, offset + 1⟩ []
  refine ⟨⟨⟨⟨none, b.name.text⟩, offset + 1⟩, ps⟩, ⟨rfl, hps⟩, ?_⟩
  have hsplit : h.attribute b = ' ' :: b.name.chars ++ ['=', '"'] ++
      (b.value.chars.flatMap (spelled h.refersInValue) ++ ['"']) := by
    simp [Hand.attribute]
  rw [hsplit, Move.run_append (run_key hs b.name offset), Move.run_append hrun, List.append_nil]
  refine (Move.run_cons rfl _).trans ?_
  rw [OpenTag.push, List.reverse_reverse]
  rfl

theorem run_attributes (h : Hand) {s : StartTag.Start} {t : OpenTag} (hs : s.IsBetween t)
    (bs : List Draft.Attribute) (offset : Nat) :
    ∃ as s', List.Forall₂ RawAttribute.Spells as bs ∧
      Move.run (StartTag.Start.step .octets) offset s (bs.flatMap h.attribute) = some s' ∧
      s'.IsBetween { t with attributes := as.reverse ++ t.attributes } := by
  induction bs generalizing s t offset with
  | nil => exact ⟨[], s, .nil, rfl, hs⟩
  | cons b bs ih =>
    obtain ⟨a, ha, hrun⟩ := run_attribute h hs b offset
    obtain ⟨as, s', has, hrest, hs'⟩ := ih (StartTag.Start.isBetween_closed _)
      (offset + (h.attribute b).length)
    refine ⟨a :: as, s', .cons ha has, ?_, ?_⟩
    · rw [List.flatMap_cons, Move.run_append hrun, hrest]
    · rw [List.reverse_cons, List.append_assoc, List.singleton_append]
      exact hs'

/-! ## Tags -/

theorem run_startTag (h : Hand) (n : LocalName) (attributes : Draft.Attributes) (offset : Nat) :
    ∃ as s, List.Forall₂ RawAttribute.Spells as attributes.list ∧
      Move.run (StartTag.Start.step .octets) offset (.name (.first n.first))
        (n.rest ++ attributes.list.flatMap h.attribute) = some s ∧
      s.IsBetween ⟨⟨none, n.text⟩, as.reverse⟩ := by
  have hname : Move.run (StartTag.Start.step .octets) offset (.name (.first n.first)) n.rest
      = some (.name ⟨none, n.read⟩) :=
    run_name (f := fun read ↦ StartTag.Start.name ⟨none, read⟩) (fun _ read c hread hc ↦ by
      simp only [StartTag.Start.step, NameStart.push?_isName hread hc])
      (List.cons_ne_nil n.first []) n.isName_rest offset
  obtain ⟨as, s, has, hrun, hs⟩ := run_attributes h (StartTag.Start.isBetween_name n)
    attributes.list (offset + n.rest.length)
  refine ⟨as, s, has, (Move.run_append hname _).trans hrun, ?_⟩
  rw [List.append_nil] at hs
  exact hs

theorem run_endTag (n : LocalName) (offset : Nat) :
    Move.run (fun _ ↦ EndTag.step .octets) offset .empty n.chars = some (.name n.read) := by
  have hfirst : EndTag.step .octets .empty n.first = .more (.name [n.first]) := by
    rw [EndTag.step, Writing.isNameStart_octets, if_pos n.isNameStart_first]
  rw [LocalName.chars, Move.run_cons hfirst]
  refine run_name (f := EndTag.name) (fun _ read c _ hc ↦ ?_) (List.cons_ne_nil _ _) n.isName_rest _
  simp only [EndTag.step, Writing.isName_octets, hc, Bool.true_or, if_true]

end VectorLint.Markup
