import VectorLint.Markup.Salvage
import VectorLint.Proofs.Markup.Outline

/-!
# The names of elements

The local name of an element is read from its tag, and so consists of characters that may stand in
names. There is one exception: of a namespace whose own name holds a closing brace, what follows the
brace is taken for a part of the local name, and may be anything. The name then holds that brace.

This is an invariant of readers: a name that is being read, in a tag that is not finished, is
written with such characters, and so is the name of each event that there is already.
-/

namespace VectorLint.Markup

/-- Whether characters may stand in names. -/
def Writing.AreNames (w : Writing) (cs : List Char) : Prop :=
  ∀ c ∈ cs, w.isName c = true ∨ w.isNameStart c = true

/-- Whether a local name is written with characters of names, but for what a closing brace ends. -/
def Writing.IsLocal (w : Writing) (name : String) : Prop :=
  w.AreNames name.toList ∨ '\x7d' ∈ name.toList

theorem Writing.slash_notMem {w : Writing} {cs : List Char} (h : w.AreNames cs) : '/' ∉ cs := by
  intro hc
  have hslash := h '/' hc
  cases w <;> simp [isName, isNameStart, Markup.isName, Markup.isNameStart, letterSigns] at hslash

namespace StartTag

/-- Whether the name of a tag that is being read is written with characters of names. -/
def Start.IsNamed (w : Writing) : Start → Prop
  | .name n => w.AreNames n.read
  | .gap t | .key t .. | .equals t _ | .quote t _ | .value t .. | .reference t .. | .closed t
  | .slash t => w.AreNames t.name.base.toList

/-- Whether the name of a tag that is being read, or has been, is written with characters of
names. -/
def IsNamed (w : Writing) : Move Start StartTag → Prop
  | .more s => s.IsNamed w
  | .done t => w.AreNames t.name.base.toList
  | .invalid => True

variable {w : Writing}

theorem areNames_of_push? {n n' : NameStart} (h : w.AreNames n.read) {c : Char}
    (hn : n.push? w c = some n') : w.AreNames n'.read := by
  rw [NameStart.push?] at hn
  split at hn
  · split at hn
    · rename_i hc
      cases hn
      exact List.forall_mem_singleton.mpr (.inr hc)
    · cases hn
  · split at hn
    · rename_i hc
      cases hn
      exact List.forall_mem_cons.mpr ⟨.inl hc, h⟩
    · split at hn
      · cases hn
        exact fun c hc ↦ absurd hc List.not_mem_nil
      · cases hn

theorem areNames_of_finish? {n : NameStart} (h : w.AreNames n.read) {q : QName}
    (hq : n.finish? = some q) : w.AreNames q.base.toList := by
  rw [NameStart.finish?] at hq
  split at hq
  · cases hq
  · cases hq
    intro c hc
    rw [String.toList_ofList, List.mem_reverse] at hc
    exact h c hc

theorem isNamed_between {t : OpenTag} (h : w.AreNames t.name.base.toList) (c : Char) :
    IsNamed w (t.between c) := by
  rw [OpenTag.between]
  split_ifs <;> first | exact h | trivial

theorem Start.IsNamed.step {s : Start} (h : s.IsNamed w) (offset : Nat) (c : Char) :
    StartTag.IsNamed w (s.step w offset c) := by
  cases s with
  | name n =>
    rw [Start.step]
    split
    · rename_i n' hn
      exact areNames_of_push? h ‹_›
    · exact isNamed_between (areNames_of_finish? h ‹_›) c
    · trivial
  | gap t =>
    rw [Start.step]
    split_ifs
    · exact h
    · exact isNamed_between h c
  | closed t => exact isNamed_between h c
  | key t n start =>
    rw [Start.step]
    repeat' split
    all_goals first | exact h | trivial
  | reference t k q pieces start r =>
    rw [Start.step]
    split <;> first | exact h | trivial
  | _ =>
    rw [Start.step]
    split_ifs <;> first | exact h | trivial

end StartTag

namespace Content

variable {w : Writing}

/-- Whether the name of a tag that is being read is written with characters of names. -/
def State.IsNamed (w : Writing) : State → Prop
  | .tag s => s.IsNamed w
  | _ => True

/-- Whether a token, if it is a start tag, has such a name. -/
def Token.IsNamed (w : Writing) : Token → Prop
  | .start t => w.AreNames t.name.base.toList
  | _ => True

theorem isNamed_tag_first {c : Char} (hc : w.isNameStart c = true) :
    (State.tag (.name (.first c))).IsNamed w :=
  List.forall_mem_singleton.mpr (.inr hc)

private theorem isNamed_ofMove {σ α : Type} {offset : Nat} {state : σ → State} {token : α → Token}
    {m : Move σ α} {s' : State} {t : Option Token}
    (hs : Next.ofMove offset state token m = .ok (s', t)) (hstate : ∀ s, (state s).IsNamed w)
    (htoken : ∀ a, (token a).IsNamed w) : s'.IsNamed w ∧ ∀ t' ∈ t, t'.IsNamed w := by
  cases m with
  | more s =>
    cases hs
    exact ⟨hstate s, by simp⟩
  | done a =>
    cases hs
    exact ⟨trivial, by simpa using htoken a⟩
  | invalid => cases hs

theorem State.IsNamed.step {s s' : State} {t : Option Token} (h : s.IsNamed w) {offset : Nat}
    {c : Char} (hs : s.step w offset c = .ok (s', t)) :
    s'.IsNamed w ∧ ∀ t' ∈ t, t'.IsNamed w := by
  cases s with
  | tag s =>
    have hnamed := StartTag.Start.IsNamed.step h offset c
    rw [State.step] at hs
    cases hm : s.step w offset c with
    | invalid => rw [hm] at hs; cases hs
    | more s =>
      rw [hm] at hs hnamed
      cases hs
      exact ⟨hnamed, by simp⟩
    | done tag =>
      rw [hm] at hs hnamed
      cases hs
      refine ⟨trivial, fun t ht ↦ ?_⟩
      rw [← Option.some.inj ht]
      exact hnamed
  | angle =>
    rw [State.step] at hs
    split_ifs at hs with hc <;> cases hs
    · exact ⟨isNamed_tag_first hc, by simp⟩
    all_goals exact ⟨trivial, by simp⟩
  | remark r => exact isNamed_ofMove hs (fun _ ↦ trivial) (fun _ ↦ trivial)
  | endTag t => exact isNamed_ofMove hs (fun _ ↦ trivial) (fun _ ↦ trivial)
  | reference r => exact isNamed_ofMove hs (fun _ ↦ trivial) (fun _ ↦ trivial)
  | _ =>
    simp only [State.step, Content.text, Content.characterData] at hs
    split_ifs at hs <;> cases hs
    all_goals exact ⟨trivial, by simp [Token.IsNamed]⟩

end Content

/-! ## Events -/

/-- Whether the name of an event, if it is the beginning of an element, is a local name. -/
def Event.IsNamed (w : Writing) : Event → Prop
  | .opening name _ _ => w.IsLocal name.name.base
  | _ => True

theorem FullName.isLocal_inside {w : Writing} {n : QName} (h : w.AreNames n.base.toList)
    (uri : String) : w.IsLocal (FullName.inside n uri).name.base := by
  rw [inside]
  split
  · exact .inl h
  · refine .inr ?_
    simp only [String.toList_append, List.mem_append]
    exact .inl (.inr (List.mem_singleton.mpr rfl))

theorem Doctype.exists_name_of_enter {d : Doctype} {scope : Scope} {start : Nat} {tag : StartTag}
    {p : Scope × Event} (h : d.enter scope start tag = .ok p) :
    ∃ name attributes bindings, p.2 = .opening name attributes bindings
      ∧ (name = ⟨tag.name, none⟩ ∨ ∃ uri, name = .inside tag.name uri) := by
  simp only [enter, bind, Except.bind, throw, throwThe, MonadExceptOf.throw] at h
  repeat' split at h
  all_goals cases h
  all_goals refine ⟨_, _, _, rfl, ?_⟩
  all_goals first | exact .inl rfl | exact .inr ⟨_, rfl⟩

theorem Doctype.isNamed_of_enter {w : Writing} {d : Doctype} {scope : Scope} {start : Nat}
    {tag : StartTag} {p : Scope × Event} (htag : w.AreNames tag.name.base.toList)
    (h : d.enter scope start tag = .ok p) : p.2.IsNamed w := by
  obtain ⟨name, attributes, bindings, heq, rfl | ⟨uri, rfl⟩⟩ := exists_name_of_enter h
  · rw [heq]
    exact .inl htag
  · rw [heq]
    exact FullName.isLocal_inside htag uri

/-! ## Readers -/

namespace Reader

/-- Whether the names of a reader's elements are local names, and the one that is being read is
written with characters of names. -/
structure IsNamed (r : Reader) : Prop where
  of_content : ∀ d opened s, r.mode = .content d opened s → s.IsNamed r.writing
  of_event : ∀ e ∈ r.events, e.IsNamed r.writing

variable {r r₁ : Reader} {c : Char}

theorem isNamed_of_accept {d : Doctype} {opened : List OpenElement} {t : Content.Token}
    {w : Writing} (ht : t.IsNamed w) {q : List OpenElement × List Event}
    (h : r.accept d opened t = .ok q) : ∀ e ∈ q.2, e.IsNamed w := by
  cases t with
  | start tag =>
    rw [accept_eq_map] at h
    cases henter : d.enter (scopeInside opened) r.start tag with
    | error f => rw [henter] at h; cases h
    | ok p =>
      rw [henter] at h
      have hp : p.2.IsNamed w := Doctype.isNamed_of_enter ht henter
      rw [← Except.ok.inj h]
      split
      · simpa [Event.IsNamed] using hp
      · simpa using hp
  | close name =>
    cases opened with
    | nil => cases h
    | cons e opened =>
      rw [accept] at h
      split_ifs at h
      cases h
      simp [Event.IsNamed]
  | reference s =>
    cases s
    all_goals
      simp only [accept] at h
      repeat' split at h
      all_goals cases h
      all_goals simp [Event.IsNamed]
  | remark s =>
    cases s <;> cases h <;> simp [Event.IsNamed]
  | text cs =>
    cases h
    simp [Event.IsNamed]

/-- **One more character** keeps the names what they are. -/
theorem IsNamed.step (h : r.IsNamed) (hr : r.step c = .ok r₁) :
    r₁.IsNamed ∧ r₁.writing = r.writing := by
  have hgist := gist_eq_of_step hr
  -- a mode and events that are as they should be are all that a reader needs
  have hnamed {m : Mode} {events : List Event} (hr₁ : (m, r.writing, events) = r₁.gist)
      (hm : ∀ d opened s, m = .content d opened s → s.IsNamed r.writing)
      (he : ∀ e ∈ events, e.IsNamed r.writing) : r₁.IsNamed ∧ r₁.writing = r.writing := by
    have hmode : r₁.mode = m := (congrArg Prod.fst hr₁).symm
    have hwriting : r₁.writing = r.writing := (congrArg (·.2.1) hr₁).symm
    have hevents : r₁.events = events := (congrArg (·.2.2) hr₁).symm
    refine ⟨⟨?_, ?_⟩, hwriting⟩
    · rwa [hmode, hwriting]
    · rwa [hevents, hwriting]
  cases hm : r.mode with
  | prolog d g s =>
    rw [Reader.step, hm, gist_stepProlog] at hgist
    obtain ⟨p, -, hp⟩ := Option.bind_eq_some_iff.mp hgist
    obtain ⟨q, -, hq⟩ := Option.bind_eq_some_iff.mp hp
    obtain ⟨m, hbehind, hr₁⟩ := Option.map_eq_some_iff.mp hq
    refine hnamed hr₁ (fun d' opened s' hm' ↦ ?_) h.of_event
    subst hm'
    rw [behind?.eq_def] at hbehind
    split at hbehind
    · cases hbehind
    · split at hbehind
      · rename_i hfirst
        cases hbehind
        exact Content.isNamed_tag_first (Bool.and_eq_true_iff.mp hfirst).2
      · cases hbehind
  | content d opened s =>
    rw [gist_step_of_content hm] at hgist
    obtain ⟨⟨s₁, t⟩, hs₁, hp⟩ := Option.bind_eq_some_iff.mp hgist
    obtain ⟨hstate, htoken⟩ := (h.of_content d opened s hm).step (eq_ok_of_toOption hs₁)
    cases t with
    | none =>
      refine hnamed (Option.some.inj hp) (fun d' opened' s' hm' ↦ ?_) h.of_event
      cases hm'
      exact hstate
    | some t =>
      obtain ⟨q, hq, hr₁⟩ := Option.map_eq_some_iff.mp hp
      have hevents := isNamed_of_accept (htoken t rfl) (eq_ok_of_toOption hq)
      refine hnamed hr₁ (fun d' opened' s' hm' ↦ ?_) (List.forall_mem_append.mpr
        ⟨hevents, h.of_event⟩)
      rw [behindToken] at hm'
      split at hm' <;> cases hm'
      exact hstate
  | epilog s =>
    rw [gist_step_of_epilog hm] at hgist
    obtain ⟨s', -, hr₁⟩ := Option.map_eq_some_iff.mp hgist
    refine hnamed hr₁ (fun d opened s hm' ↦ ?_) h.of_event
    cases hm'

theorem IsNamed.run (h : r.IsNamed) (cs : List Char) :
    ∀ e ∈ (r.run cs).1.events, e.IsNamed r.writing := by
  induction cs generalizing r with
  | nil => exact h.of_event
  | cons c cs ih =>
    cases hr : r.step c with
    | error f =>
      rw [run_cons_of_error hr]
      exact h.of_event
    | ok r' =>
      obtain ⟨hnamed, hwriting⟩ := h.step hr
      rw [run_cons_of_ok hr, ← hwriting]
      exact ih hnamed

theorem isNamed_initial (w : Writing) (isThorough : Bool) (offset : Nat) :
    (initial w isThorough offset).IsNamed := by
  refine ⟨fun d opened s h ↦ ?_, fun e he ↦ absurd he List.not_mem_nil⟩
  cases h

end Reader

theorem isNamed_of_mem_readPart (cs : List Char) : ∀ e ∈ (readPart cs).1, e.IsNamed .octets := by
  have hbefore : ∃ offset, (Reader.before .octets true cs).1 = .initial .octets true offset := by
    rw [Reader.before.eq_def]
    split
    · exact ⟨1, rfl⟩
    · exact ⟨0, rfl⟩
  obtain ⟨offset, heq⟩ := hbefore
  intro e he
  rw [readPart, List.mem_reverse, heq] at he
  exact (Reader.isNamed_initial .octets true offset).run _ e he

/-- **The elements of a tree have local names**, however its octets are read. -/
theorem Source.isNamed_of_mem_events (source : Source) :
    ∀ e ∈ source.events, e.IsNamed .octets := by
  have hunnamed (bs : List UInt8) : ∀ e ∈ Encoding.salvageUnnamed bs, e.IsNamed .octets := by
    have hall := isNamed_of_mem_readPart (Encoding.replaceFaults (bs.length + 1) bs)
    rw [Encoding.salvageUnnamed]
    split
    · rename_i events offset hread
      rw [hread] at hall
      split
      · exact isNamed_of_mem_readPart _
      · exact hall
    · rename_i events f hread
      rw [hread] at hall
      exact hall
  unfold events
  split
  · exact isNamed_of_mem_readPart _
  · split
    · exact isNamed_of_mem_readPart _
    · exact isNamed_of_mem_readPart _
    · exact hunnamed _
    · split
      · exact isNamed_of_mem_readPart _
      · exact hunnamed _

theorem Event.isLocal_of_mem_outline {w : Writing} {es : List Event} (h : ∀ e ∈ es, e.IsNamed w)
    {depth : Nat} {entry : String × Nat} (hentry : entry ∈ outline depth es) :
    w.IsLocal entry.1 := by
  induction es generalizing depth with
  | nil => cases hentry
  | cons e es ih =>
    rw [List.forall_mem_cons] at h
    rcases List.mem_append.mp hentry with hentry | hentry
    · cases e with
      | opening name attributes bindings =>
        rw [List.mem_singleton.mp hentry]
        exact h.1
      | _ => cases hentry
    · exact ih h.2 hentry

end VectorLint.Markup
