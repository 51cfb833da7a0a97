import Mathlib.Data.List.Basic
import VectorLint.Markup.Reader
import VectorLint.Proofs.Markup.Tags

/-!
# Reading a draft

A reader that is put before a draft goes through it without a fault, be it thorough or not, and the
tags that it finds are those of the draft in the order in which they are written. Where it stands
and which texts it finds depends on the hand; so the account of what is read says only which mode
the reader goes from and to, and which events of tags are added. Accounts of this kind compose, and
the one for a draft is put together from those for its parts, along the tree.
-/

namespace VectorLint.Markup

/-! ## The events of a draft -/

/-- Whether an element begins or ends with an event. -/
def Event.isTag : Event → Bool
  | .opening _ _ _ => true
  | .closing => true
  | .text _ => false
  | .remark => false

/-- An element of this name and with these attributes begins. -/
def Event.begin (name : String) (attributes : List (String × String)) : Event :=
  .opening ⟨⟨none, name⟩, none⟩ (attributes.map fun (a, v) ↦ (⟨⟨none, a⟩, none⟩, v)) []

namespace Draft

mutual

/-- The beginnings and ends of the elements of a draft. -/
def events : Draft → List Event
  | element n attributes content =>
    .begin n.text attributes.pairs :: (eventsOfAll content ++ [.closing])
  | text _ => []

/-- The beginnings and ends of the elements of drafts that stand one behind the other. -/
def eventsOfAll : List Draft → List Event
  | [] => []
  | t :: ts => t.events ++ eventsOfAll ts

end

end Draft

/-! ## The beginning of an element -/

/-- The attributes of a tag as they are read. -/
private def valuesOf (bs : List Draft.Attribute) : List (QName × String) :=
  bs.map fun b ↦ (⟨none, b.name.text⟩, b.value.text)

private theorem binding?_eq_none (b : Draft.Attribute) :
    QName.binding? ⟨none, b.name.text⟩ = none := by
  rw [QName.binding?]
  split
  · rename_i h
    exact absurd h b.name_ne
  · rename_i h
    cases h
  · rfl

theorem namesProblem?_of_space_eq_none {s : Scope} {seen : List (String × String)}
    {names : List QName} (h : ∀ m ∈ names, m.space = none) : s.namesProblem? seen names = none := by
  induction names with
  | nil => rfl
  | cons m names ih =>
    rw [Scope.namesProblem?, h m List.mem_cons_self]
    exact ih fun m hm ↦ h m (List.mem_cons_of_mem _ hm)

namespace Doctype

theorem readAttributes_of_spells (d : Doctype) (start : Nat) (scope : Scope)
    {as : List RawAttribute} {bs : List Draft.Attribute}
    (h : List.Forall₂ RawAttribute.Spells as bs) (seen : List Draft.Attribute)
    (hnodup : ((seen ++ bs).map (·.name.text)).Nodup) :
    d.readAttributes start [] scope (valuesOf seen).reverse as
      = .ok (scope, valuesOf (seen ++ bs)) := by
  induction h generalizing seen with
  | nil => rw [readAttributes, List.reverse_reverse, List.append_nil]
  | @cons a b as bs ha _ ih =>
    obtain ⟨hname, hvalue⟩ := ha
    have hnew : (valuesOf seen).reverse.any (·.1 = a.name) = false := by
      rw [List.map_append, List.map_cons, List.nodup_append] at hnodup
      simp only [List.any_eq_false, List.mem_reverse, valuesOf, List.forall_mem_map, hname,
        decide_eq_true_eq, QName.mk.injEq, true_and]
      exact fun c hc ↦ hnodup.2.2 _ (List.mem_map_of_mem hc) _ List.mem_cons_self
    have hdenoted : Piece.value true a.value = b.value.text := by
      rw [Piece.value, Piece.denoted_of_spells hvalue]
      rfl
    have hrest := ih (seen ++ [b]) (by rwa [List.append_assoc, List.singleton_append])
    have hseen : (valuesOf (seen ++ [b])).reverse
        = (⟨none, b.name.text⟩, b.value.text) :: (valuesOf seen).reverse := by
      simp [valuesOf]
    rw [hseen, List.append_assoc, List.singleton_append] at hrest
    rw [readAttributes, if_neg (by simp [hnew])]
    simp only [Piece.fault?_of_spells hvalue, List.find?_nil, Option.all_none, hname,
      binding?_eq_none, hdenoted]
    exact hrest

theorem enter_of_spells (isThorough : Bool) (start : Nat) (n : LocalName)
    (attributes : Draft.Attributes) {as : List RawAttribute}
    (h : List.Forall₂ RawAttribute.Spells as attributes.list) (isEmpty : Bool) :
    (initial isThorough).enter .initial start ⟨⟨none, n.text⟩, as, isEmpty⟩
      = .ok (.initial, .begin n.text attributes.pairs) := by
  have hread : (initial isThorough).readAttributes start [] .initial [] as
      = .ok (.initial, valuesOf attributes.list) :=
    readAttributes_of_spells (initial isThorough) start .initial h [] attributes.nodup
  have hbind : ∀ v ∈ valuesOf attributes.list, v.1.binding? = none := by
    simp only [valuesOf, List.forall_mem_map]
    exact fun b _ ↦ binding?_eq_none b
  have hspace : ∀ v ∈ valuesOf attributes.list, v.1.space = none := by
    simp only [valuesOf, List.forall_mem_map, implies_true]
  have hbindings : bindingsOf (valuesOf attributes.list) = [] := by
    rw [bindingsOf, List.filterMap_eq_nil_iff]
    rintro ⟨name, value⟩ hv
    simp only [hbind _ hv, Option.map_none]
  have hall : (valuesOf attributes.list).filter (·.1.binding?.isNone)
      = valuesOf attributes.list :=
    List.filter_eq_self.mpr fun v hv ↦ by rw [hbind v hv, Option.isNone_none]
  have hnames : ∀ m ∈ ((valuesOf attributes.list).map (·.1)).filter (·.binding?.isNone),
      m.space = none := by
    intro m hm
    obtain ⟨v, hv, rfl⟩ := List.mem_map.mp (List.mem_of_mem_filter hm)
    exact hspace v hv
  have hdeclared : (initial isThorough).declarationsOf n.text = [] := rfl
  have hadd : (initial isThorough).addBindings start .initial (bindingsOf []) = .ok .initial := by
    cases isThorough <;> rfl
  have hnamespace : Scope.initial.namespace? none = none := rfl
  rw [enter]
  simp only [QName.text, hdeclared, hread, bind, Except.bind, List.filterMap_nil, List.append_nil,
    hbindings, hadd, namesProblem?_of_space_eq_none hnames, ite_self, hnamespace, hall,
    Option.isSome_none, Bool.false_and, Bool.false_eq_true, if_false]
  refine congrArg
    (fun as ↦ Except.ok (Scope.initial, Event.opening ⟨⟨none, n.text⟩, none⟩ as [])) ?_
  simp only [valuesOf, Draft.Attributes.pairs, List.map_map]
  rfl

end Doctype

/-! ## Going from one mode to another -/

namespace Reader

/-- Reading some characters takes a reader of UTF-8 from one mode to another without a fault, and
adds these events of tags, wherever the reader stands. -/
def Reads (m : Mode) (cs : List Char) (m' : Mode) (es : List Event) : Prop :=
  ∀ r : Reader, r.writing = .octets → r.mode = m → ∃ r', r.run cs = (r', none) ∧
    r'.writing = .octets ∧ r'.mode = m' ∧
    r'.events.filter Event.isTag = es.reverse ++ r.events.filter Event.isTag

theorem reads_nil (m : Mode) : Reads m [] m [] :=
  fun r hw hm ↦ ⟨r, rfl, hw, hm, rfl⟩

theorem run_cons {r r' : Reader} {c : Char} (h : r.step c = .ok r') (cs : List Char) :
    r.run (c :: cs) = r'.run cs := by
  simp only [run, h]

theorem run_append {r r' : Reader} {cs : List Char} (h : r.run cs = (r', none)) (ds : List Char) :
    r.run (cs ++ ds) = r'.run ds := by
  induction cs generalizing r with
  | nil =>
    rw [run, Prod.mk.injEq] at h
    rw [List.nil_append, h.1]
  | cons c cs ih =>
    rw [run] at h
    split at h
    · rename_i next hnext
      rw [List.cons_append, run_cons hnext, ih h]
    · cases h

variable {m m' m'' : Mode} {cs ds : List Char} {es fs : List Event}

theorem Reads.append (h : Reads m cs m' es) (h' : Reads m' ds m'' fs) :
    Reads m (cs ++ ds) m'' (es ++ fs) := by
  intro r hw hm
  obtain ⟨r', hrun, hw', hm', hes⟩ := h r hw hm
  obtain ⟨r'', hrun', hw'', hm'', hfs⟩ := h' r' hw' hm'
  refine ⟨r'', (run_append hrun ds).trans hrun', hw'', hm'', ?_⟩
  rw [hfs, hes, List.reverse_append, List.append_assoc]

theorem reads_char {c : Char}
    (h : ∀ r : Reader, r.writing = .octets → r.mode = m → ∃ r', r.step c = .ok r' ∧
      r'.writing = .octets ∧ r'.mode = m' ∧
      r'.events.filter Event.isTag = es.reverse ++ r.events.filter Event.isTag) :
    Reads m [c] m' es := by
  intro r hw hm
  obtain ⟨r', hstep, hr'⟩ := h r hw hm
  exact ⟨r', run_cons hstep [], hr'⟩

/-! ## Inside the root element -/

variable {isThorough : Bool} {names : List String}

/-- Inside elements of these names, the innermost first, that bind no namespace. -/
def within (isThorough : Bool) (names : List String) (s : Content.State) : Mode :=
  .content (.initial isThorough) (names.map fun n ↦ ⟨n, .initial⟩) s

/-- Behind an element that stands inside elements of these names. -/
def behind (isThorough : Bool) (names : List String) : Mode :=
  if names.isEmpty then .epilog .idle else within isThorough names .initial

theorem step_more {r : Reader} (hw : r.writing = .octets) {s s' : Content.State}
    (hm : r.mode = within isThorough names s) {c : Char}
    (h : s.step .octets r.offset c = .ok (s', none)) :
    ∃ start, r.step c = .ok { r with
      offset := r.offset + 1, start, mode := within isThorough names s' } := by
  simp only [step, hm, within, stepContent, hw, h]
  exact ⟨_, rfl⟩

theorem reads_more {s s' : Content.State} {c : Char}
    (h : ∀ offset, s.step .octets offset c = .ok (s', none)) :
    Reads (within isThorough names s) [c] (within isThorough names s') [] := by
  refine reads_char fun r hw hm ↦ ?_
  obtain ⟨start, hstep⟩ := step_more hw hm (h r.offset)
  exact ⟨_, hstep, hw, rfl, rfl⟩

theorem reads_token (isThorough : Bool) (names names' : List String) {s s' : Content.State}
    {c : Char} {t : Content.Token} {added : List Event}
    (h : ∀ offset, s.step .octets offset c = .ok (s', some t))
    (haccept : ∀ r : Reader, r.accept (.initial isThorough) (names.map fun n ↦ ⟨n, .initial⟩) t
      = .ok (names'.map fun n ↦ ⟨n, .initial⟩, added)) :
    Reads (within isThorough names s) [c]
      (if names'.isEmpty then .epilog .idle else within isThorough names' s')
      (added.filter Event.isTag).reverse := by
  refine reads_char fun r hw hm ↦ ?_
  simp only [step, hm, within, stepContent, hw, h, haccept, bind, Except.bind, List.isEmpty_map]
  exact ⟨_, rfl, rfl, rfl, by rw [List.filter_append, List.reverse_reverse]⟩

theorem run_inside {σ α : Type} {step : Nat → σ → Char → Move σ α} {f : σ → Content.State}
    (hf : ∀ offset s c s', step offset s c = .more s' →
      (f s).step .octets offset c = .ok (f s', none))
    {r : Reader} (hw : r.writing = .octets) {s s' : σ} (hm : r.mode = within isThorough names (f s))
    {cs : List Char} (h : Move.run step r.offset s cs = some s') :
    ∃ start, r.run cs = ({ r with
      offset := r.offset + cs.length, start, mode := within isThorough names (f s') }, none) := by
  induction cs generalizing r s with
  | nil =>
    rw [Move.run, Option.some_inj] at h
    refine ⟨r.start, ?_⟩
    rw [run, ← h, ← hm]
    rfl
  | cons c cs ih =>
    rw [Move.run] at h
    split at h
    · rename_i t ht
      obtain ⟨start, hstep⟩ := step_more hw hm (hf _ _ _ _ ht)
      obtain ⟨start', hrest⟩ := ih (r := { r with
        offset := r.offset + 1, start, mode := within isThorough names (f t) }) hw rfl h
      refine ⟨start', ?_⟩
      rw [run_cons hstep, hrest, List.length_cons, Nat.add_assoc, Nat.add_comm 1]
    · cases h

theorem reads_inside {σ α : Type} {step : Nat → σ → Char → Move σ α} {f : σ → Content.State}
    (hf : ∀ offset s c s', step offset s c = .more s' →
      (f s).step .octets offset c = .ok (f s', none)) {s s' : σ} {cs : List Char}
    (h : ∀ offset, Move.run step offset s cs = some s') :
    Reads (within isThorough names (f s)) cs (within isThorough names (f s')) [] := by
  intro r hw hm
  obtain ⟨start, hrun⟩ := run_inside hf hw hm (h r.offset)
  exact ⟨_, hrun, hw, rfl, rfl⟩

/-! ## References and texts -/

theorem accept_reference {opened : List OpenElement} {r : Reference} {c : Char}
    (hr : r.char? = some c) (d : Doctype) (reader : Reader) :
    reader.accept d opened (.reference r) = .ok (opened, [.text [c]]) := by
  cases r with
  | entity name =>
    have hname : predefined? name = some c := hr
    simp only [accept, hname]
  | number n =>
    have hn : numbered? n = some c := hr
    simp only [accept, hn]

theorem reads_spelled (isThorough : Bool) {c : Char} (hc : isLegal c = true) (hnames : names ≠ [])
    (refers : Char → Bool) (b : Nat) (afterReturn : Bool) :
    ∃ b' afterReturn', Reads (within isThorough names (.text b afterReturn)) (spelled refers c)
      (within isThorough names (.text b' afterReturn')) [] := by
  have hopen : names.isEmpty = false := List.isEmpty_eq_false_iff.mpr hnames
  have htoken : ∀ {s s' : Content.State} {c : Char} {t : Content.Token} {cs : List Char},
      (∀ offset, s.step .octets offset c = .ok (s', some t)) →
      (∀ (d : Doctype) (opened : List OpenElement) (reader : Reader),
        reader.accept d opened t = .ok (opened, [.text cs])) →
      Reads (within isThorough names s) [c] (within isThorough names s') [] := by
    intro s s' c t cs hstep haccept
    have h := reads_token isThorough names names hstep fun r ↦ haccept _ _ r
    rwa [hopen] at h
  rw [spelled]
  split
  · obtain ⟨s, r, hrun, hdone, hr⟩ := run_referenceTo hc
    refine ⟨0, false, ?_⟩
    have hbegin : Reads (within isThorough names (.text b afterReturn)) ['&']
        (within isThorough names (.reference .empty)) [] := reads_more fun _ ↦ rfl
    have hinside : Reads (within isThorough names (.reference .empty)) (referenceTo c)
        (within isThorough names (.reference s)) [] :=
      reads_inside (f := .reference) (fun _ s c s' h ↦ by
        simp only [Content.State.step, h, Content.Next.ofMove]) hrun
    have hend : Reads (within isThorough names (.reference s)) [';']
        (within isThorough names .initial) [] :=
      htoken (fun _ ↦ by simp only [Content.State.step, hdone, Content.Next.ofMove])
        fun d _ reader ↦ accept_reference hr d reader
    exact (hbegin.append hinside).append hend
  -- as itself, a character may be held back (a line feed behind a carriage return), shown as
  -- another one, or counted among the brackets that could end a section
  · rename_i hraw
    simp only [isMarkup, Bool.or_eq_true, beq_iff_eq, not_or] at hraw
    obtain ⟨⟨⟨⟨⟨hamp, hlt⟩, hgt⟩, -⟩, -⟩, -⟩ := hraw
    have hstep : ∀ offset, (Content.State.text b afterReturn).step .octets offset c
        = if c = '\n' && afterReturn then .ok (.initial, none)
          else if c = '\r' then .ok (.text 0 true, some (.text ['\n']))
          else if c = ']' then .ok (.text (min 2 (b + 1)) false, some (.text [c]))
          else .ok (.initial, some (.text [c])) := by
      intro offset
      rw [Content.State.step, Content.text, if_neg hlt, if_neg hamp,
        if_neg (by simp [hgt]), if_pos hc]
    by_cases hline : (c = '\n' && afterReturn) = true
    · exact ⟨0, false, reads_more fun offset ↦ (hstep offset).trans (if_pos hline)⟩
    · simp only [if_neg hline] at hstep
      by_cases hreturn : c = '\r'
      · exact ⟨0, true, htoken (fun offset ↦ (hstep offset).trans (if_pos hreturn))
          fun _ _ _ ↦ rfl⟩
      · simp only [if_neg hreturn] at hstep
        by_cases hbracket : c = ']'
        · exact ⟨min 2 (b + 1), false, htoken
            (fun offset ↦ (hstep offset).trans (if_pos hbracket)) fun _ _ _ ↦ rfl⟩
        · exact ⟨0, false, htoken (fun offset ↦ (hstep offset).trans (if_neg hbracket))
            fun _ _ _ ↦ rfl⟩

theorem reads_text {cs : List Char} (hcs : ∀ c ∈ cs, isLegal c = true) (hnames : names ≠ [])
    (refers : Char → Bool) (b : Nat) (afterReturn : Bool) :
    ∃ b' afterReturn', Reads (within isThorough names (.text b afterReturn))
      (cs.flatMap (spelled refers)) (within isThorough names (.text b' afterReturn')) [] := by
  induction cs generalizing b afterReturn with
  | nil => exact ⟨b, afterReturn, reads_nil _⟩
  | cons c cs ih =>
    obtain ⟨b', afterReturn', hfirst⟩ := reads_spelled isThorough
      (hcs c List.mem_cons_self) hnames refers b afterReturn
    obtain ⟨b'', afterReturn'', hrest⟩ := ih (fun c hc ↦ hcs c (List.mem_cons_of_mem _ hc)) b'
      afterReturn'
    exact ⟨b'', afterReturn'', hfirst.append hrest⟩

/-! ## Tags -/

theorem accept_start (r : Reader) (names : List String) (n : LocalName)
    (attributes : Draft.Attributes) {as : List RawAttribute}
    (h : List.Forall₂ RawAttribute.Spells as attributes.list) (isEmpty : Bool) :
    r.accept (.initial isThorough) (names.map fun n ↦ ⟨n, .initial⟩)
        (.start ⟨⟨none, n.text⟩, as, isEmpty⟩)
      = .ok (if isEmpty then
          (names.map fun n ↦ ⟨n, .initial⟩, [.closing, .begin n.text attributes.pairs])
        else ((n.text :: names).map fun n ↦ ⟨n, .initial⟩, [.begin n.text attributes.pairs])) := by
  have henter := Doctype.enter_of_spells isThorough r.start n attributes h isEmpty
  cases names <;> cases isEmpty <;>
    simp only [accept, List.map_nil, List.map_cons, henter, bind, Except.bind] <;> rfl

theorem reads_startTag (h : Hand) (n : LocalName) (attributes : Draft.Attributes)
    {close : List Char}
    (hclose : ∀ (as : List RawAttribute) (s : StartTag.Start),
      List.Forall₂ RawAttribute.Spells as attributes.list →
      s.IsBetween ⟨⟨none, n.text⟩, as.reverse⟩ →
      Reads (within isThorough names (.tag s)) close m' es) :
    Reads (within isThorough names (.tag (.name (.first n.first))))
      (n.rest ++ attributes.list.flatMap h.attribute ++ close) m' es := by
  intro r hw hm
  obtain ⟨as, s, has, hrun, hs⟩ := run_startTag h n attributes r.offset
  obtain ⟨start, hrun'⟩ := run_inside (f := .tag) (fun _ s c s' h ↦ by
    simp only [Content.State.step, h, Content.Next.ofMove]) hw hm hrun
  obtain ⟨r', hclosed, hr'⟩ := hclose as s has hs { r with
    offset := r.offset + (n.rest ++ attributes.list.flatMap h.attribute).length
    start
    mode := within isThorough names (.tag s) } hw rfl
  exact ⟨r', (run_append hrun' close).trans hclosed, hr'⟩

theorem reads_opening (isThorough : Bool) (names : List String) (h : Hand) (n : LocalName)
    (attributes : Draft.Attributes) :
    Reads (within isThorough names (.tag (.name (.first n.first))))
      (n.rest ++ attributes.list.flatMap h.attribute ++ ['>'])
      (within isThorough (n.text :: names) .initial) [.begin n.text attributes.pairs] := by
  refine reads_startTag h n attributes fun as s has hs ↦ ?_
  have hstep : ∀ offset, (Content.State.tag s).step .octets offset '>'
      = .ok (.initial, some (.start ⟨⟨none, n.text⟩, as, false⟩)) := by
    intro offset
    have hbetween := hs offset '>' (by decide)
    simp only [Content.State.step, hbetween]
    simp [OpenTag.between, OpenTag.close, Content.Next.ofMove, isSpace]
  exact reads_token isThorough names (n.text :: names) hstep fun r ↦
    accept_start r names n attributes has false

theorem reads_emptyElement (h : Hand) (n : LocalName) (attributes : Draft.Attributes) :
    Reads (within isThorough names (.tag (.name (.first n.first))))
      (n.rest ++ attributes.list.flatMap h.attribute ++ ['/', '>']) (behind isThorough names)
      [.begin n.text attributes.pairs, .closing] := by
  refine reads_startTag h n attributes fun as s has hs ↦ ?_
  have hslash : ∀ offset, (Content.State.tag s).step .octets offset '/'
      = .ok (.tag (.slash ⟨⟨none, n.text⟩, as.reverse⟩), none) := by
    intro offset
    have hbetween := hs offset '/' (by decide)
    simp only [Content.State.step, hbetween]
    rfl
  have hstep : ∀ offset,
      (Content.State.tag (.slash ⟨⟨none, n.text⟩, as.reverse⟩)).step .octets offset '>'
        = .ok (.initial, some (.start ⟨⟨none, n.text⟩, as, true⟩)) := by
    intro offset
    simp [Content.State.step, StartTag.Start.step, OpenTag.close, Content.Next.ofMove]
  exact (reads_more hslash).append
    (reads_token isThorough names names hstep fun r ↦ accept_start r names n attributes has true)

theorem reads_closing (n : LocalName) (b : Nat) (afterReturn : Bool) :
    Reads (within isThorough (n.text :: names) (.text b afterReturn))
      ('<' :: '/' :: n.chars ++ ['>']) (behind isThorough names) [.closing] := by
  have hangle : Reads (within isThorough (n.text :: names) (.text b afterReturn)) ['<']
      (within isThorough (n.text :: names) .angle) [] := reads_more fun _ ↦ rfl
  have hslash : Reads (within isThorough (n.text :: names) .angle) ['/']
      (within isThorough (n.text :: names) (.endTag .empty)) [] := reads_more fun _ ↦ rfl
  have hname : Reads (within isThorough (n.text :: names) (.endTag .empty)) n.chars
      (within isThorough (n.text :: names) (.endTag (.name n.read))) [] :=
    reads_inside (f := .endTag) (fun _ s c s' h ↦ by
      simp only [Content.State.step, h, Content.Next.ofMove]) fun offset ↦ run_endTag n offset
  have hstep : ∀ offset, (Content.State.endTag (.name n.read)).step .octets offset '>'
      = .ok (.initial, some (.close n.text)) := by
    intro offset
    rw [← n.ofList_reverse_read]
    rfl
  have haccept : ∀ r : Reader, r.accept (.initial isThorough)
      ((n.text :: names).map fun n ↦ ⟨n, .initial⟩) (.close n.text)
        = .ok (names.map fun n ↦ ⟨n, .initial⟩, [.closing]) := fun _ ↦ if_pos rfl
  have hend : Reads (within isThorough (n.text :: names) (.endTag (.name n.read))) ['>']
      (behind isThorough names) [.closing] :=
    reads_token isThorough (n.text :: names) names hstep haccept
  exact hangle.append (hslash.append (hname.append hend))

/-! ## Drafts -/

theorem step_angle_of_isNameStart {c : Char} (hc : isNameStart c = true) :
    Prolog.State.angle.step .octets c = .root := by
  have hbang : c ≠ '!' := by
    rintro rfl
    exact absurd hc (by decide)
  have hmark : c ≠ '?' := by
    rintro rfl
    exact absurd hc (by decide)
  have hbegins : Writing.octets.beginsElement c = true := by
    rw [Writing.beginsElement, Writing.isNameStart_octets, hc]
    split <;> rfl
  rw [Prolog.State.step, if_neg hbang, if_neg hmark, if_pos hbegins]

theorem reads_element (isThorough : Bool) (names : List String) (h : Hand) (n : LocalName)
    (attributes : Draft.Attributes) (content : List Draft)
    (hcontent : ∃ b afterReturn, Reads (within isThorough (n.text :: names) .initial)
      (Draft.writtenAll h content) (within isThorough (n.text :: names) (.text b afterReturn))
      (Draft.eventsOfAll content)) :
    Reads (within isThorough names (.tag (.name (.first n.first))))
      (((Draft.element n attributes content).written h).drop 2) (behind isThorough names)
      (Draft.element n attributes content).events := by
  have hwritten : ((Draft.element n attributes content).written h).drop 2
      = n.rest ++ attributes.list.flatMap h.attribute ++
        if content.isEmpty && !h.closesEmpty then ['/', '>']
        else '>' :: Draft.writtenAll h content ++ '<' :: '/' :: n.chars ++ ['>'] := by
    rw [Draft.written]
    rfl
  rw [hwritten, Draft.events]
  split
  · rename_i hempty
    obtain ⟨hnil, -⟩ := Bool.and_eq_true_iff.mp hempty
    rw [List.isEmpty_iff.mp hnil, Draft.eventsOfAll]
    exact reads_emptyElement h n attributes
  · obtain ⟨b, afterReturn, hcontent⟩ := hcontent
    have hall := (reads_opening isThorough names h n attributes).append
      (hcontent.append (reads_closing n b afterReturn))
    simp only [List.append_assoc, List.cons_append, List.nil_append] at hall ⊢
    exact hall

mutual

theorem reads_written (h : Hand) (t : Draft) (names : List String) (hnames : names ≠ []) (b : Nat)
    (afterReturn : Bool) :
    ∃ b' afterReturn', Reads (within isThorough names (.text b afterReturn)) (t.written h)
      (within isThorough names (.text b' afterReturn')) t.events := by
  cases t with
  | element n attributes content =>
    refine ⟨0, false, ?_⟩
    have hbehind : behind isThorough names = within isThorough names .initial :=
      if_neg (by simp [hnames])
    have hangle : Reads (within isThorough names (.text b afterReturn)) ['<']
        (within isThorough names .angle) [] := reads_more fun _ ↦ rfl
    have hfirst : Reads (within isThorough names .angle) [n.first]
        (within isThorough names (.tag (.name (.first n.first)))) [] :=
      reads_more fun _ ↦ if_pos (by rw [Writing.isNameStart_octets, n.isNameStart_first])
    have helement := reads_element isThorough names h n attributes content
      (reads_writtenAll h content (n.text :: names) (List.cons_ne_nil _ _) 0 false)
    rw [hbehind] at helement
    rw [Draft.written]
    exact hangle.append (hfirst.append helement)
  | text t => exact reads_text t.isLegal_chars hnames h.refers b afterReturn

theorem reads_writtenAll (h : Hand) (ts : List Draft) (names : List String) (hnames : names ≠ [])
    (b : Nat) (afterReturn : Bool) :
    ∃ b' afterReturn', Reads (within isThorough names (.text b afterReturn))
      (Draft.writtenAll h ts) (within isThorough names (.text b' afterReturn'))
      (Draft.eventsOfAll ts) := by
  cases ts with
  | nil => exact ⟨b, afterReturn, reads_nil _⟩
  | cons t ts =>
    obtain ⟨b', afterReturn', ht⟩ := reads_written h t names hnames b afterReturn
    obtain ⟨b'', afterReturn'', hts⟩ := reads_writtenAll h ts names hnames b' afterReturn'
    exact ⟨b'', afterReturn'', ht.append hts⟩

end

theorem reads_root (isThorough : Bool) (h : Hand) (n : LocalName) (attributes : Draft.Attributes)
    (content : List Draft) :
    Reads (.prolog (.initial isThorough) .opening .idle)
      ((Draft.element n attributes content).written h) (.epilog .idle)
      (Draft.element n attributes content).events := by
  have hangle : Reads (.prolog (.initial isThorough) .opening .idle) ['<']
      (.prolog (.initial isThorough) .opening .angle) [] := by
    refine reads_char fun r hw hm ↦ ?_
    rw [step, hm]
    exact ⟨_, rfl, hw, rfl, rfl⟩
  have hfirst : Reads (.prolog (.initial isThorough) .opening .angle) [n.first]
      (within isThorough [] (.tag (.name (.first n.first)))) [] := by
    refine reads_char fun r hw hm ↦ ?_
    have hstart : Writing.octets.isNameStart n.first = true := by
      rw [Writing.isNameStart_octets, n.isNameStart_first]
    simp only [step, hm, stepProlog, hw, step_angle_of_isNameStart n.isNameStart_first,
      hstart, Bool.not_true, Bool.false_eq_true, if_false]
    exact ⟨_, rfl, rfl, rfl, rfl⟩
  have helement := reads_element isThorough [] h n attributes content
    (reads_writtenAll h content [n.text] (List.cons_ne_nil _ _) 0 false)
  have hall := hangle.append (hfirst.append helement)
  rw [Draft.written] at hall ⊢
  exact hall

end Reader

/-- **A draft is read without a fault**, whether thoroughly or not, and the events of its tags are
those of the draft. -/
theorem Reader.run_written (h : Hand) (n : LocalName) (attributes : Draft.Attributes)
    (content : List Draft) (isThorough : Bool) :
    ∃ r, (initial .octets isThorough 0).run ((Draft.element n attributes content).written h)
        = (r, none) ∧ r.mode = .epilog .idle ∧
      r.events.reverse.filter Event.isTag = (Draft.element n attributes content).events := by
  obtain ⟨r, hrun, -, hm, hevents⟩ :=
    reads_root isThorough h n attributes content (initial .octets isThorough 0) rfl rfl
  refine ⟨r, hrun, hm, ?_⟩
  rw [List.filter_reverse, hevents, List.reverse_append, List.reverse_reverse]
  rfl

end VectorLint.Markup
