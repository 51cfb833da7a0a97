import VectorLint.Proofs.Document.Checked
import VectorLint.Proofs.Document.Numbering
import VectorLint.Proofs.Document.Paths
import VectorLint.Proofs.Markup.Names
import VectorLint.Proofs.Rule.Subjects
import VectorLint.Proofs.Run.Findings

/-!
# The addresses of elements

The elements of a document are numbered in the order in which they begin, so that what is inside an
element has the numbers right behind it. Their paths are addresses: the path of an element leads to
it and to no other, and so does the location of a finding about it.

Paths are read by their signs, and the names in them are not escaped. A slash can stand in the name
of an element only if a closing brace does, and a brace comes from the name of a namespace that the
check refuses but does not always see: declarations behind a reference to a parameter entity are
skipped by it and count for the tree. Two elements of such a document can have one path.
-/

namespace VectorLint.Document

open Markup (Source Event Tree)

variable {source : Source} {name : Option String} {d : Document} {e x : Element}

/-! ## Numbers and places -/

theorem mem_elements_iff : e ∈ d.elements ↔ d.place.descendants[e.index]? = some e.place := by
  obtain ⟨i, p⟩ := e
  rw [elements, List.mem_map]
  constructor
  · rintro ⟨⟨q, j⟩, hmem, heq⟩
    cases heq
    exact List.mem_zipIdx_iff_getElem?.mp hmem
  · exact fun h ↦ ⟨(p, i), List.mem_zipIdx_iff_getElem?.mpr h, rfl⟩

theorem place_mem_descendants (he : e ∈ d.elements) : e.place ∈ d.place.descendants :=
  List.mem_of_getElem? (mem_elements_iff.mp he)

theorem fits_place (he : e ∈ d.elements) : e.place.Fits := by
  have hd : d.place.Fits := trivial
  exact Place.fits_of_mem_descendants hd (place_mem_descendants he)

theorem exists_mem_elements {p : Place} (hp : p ∈ d.place.descendants) :
    ∃ e ∈ d.elements, e.place = p := by
  obtain ⟨i, hi⟩ := List.mem_iff_getElem?.mp hp
  exact ⟨⟨i, p⟩, mem_elements_iff.mpr hi, rfl⟩

theorem map_place_elements (d : Document) : d.elements.map (·.place) = d.place.descendants := by
  rw [elements, List.map_map]
  exact List.zipIdx_map_fst 0 _

theorem index_eq_of_getElem? {i : Nat} (h : d.elements[i]? = some e) : e.index = i := by
  rw [elements, List.getElem?_map, List.getElem?_zipIdx] at h
  obtain ⟨⟨p, j⟩, hp, rfl⟩ := Option.map_eq_some_iff.mp h
  obtain ⟨q, -, hq⟩ := Option.map_eq_some_iff.mp hp
  cases hq
  exact Nat.zero_add i

theorem eq_of_place_eq (he : e ∈ d.elements) (hx : x ∈ d.elements) (h : e.place = x.place) :
    e = x := by
  have hmap : (d.elements.map (·.place)).Nodup := by
    rw [map_place_elements]
    exact Place.nodup_descendants d.place
  exact List.inj_on_of_nodup_map hmap he hx h

private theorem mem_middle_iff {α : Type} {front middle behind : List α}
    (hn : (front ++ middle ++ behind).Nodup) {i : Nat} {a : α}
    (ha : (front ++ middle ++ behind)[i]? = some a) :
    a ∈ middle ↔ front.length ≤ i ∧ i < front.length + middle.length := by
  constructor
  · intro hmem
    obtain ⟨k, hk⟩ := List.mem_iff_getElem?.mp hmem
    have hlt : k < middle.length := (List.getElem?_eq_some_iff.mp hk).1
    have hplace : (front ++ middle ++ behind)[front.length + k]? = some a := by
      rw [List.append_assoc, List.getElem?_append_right (Nat.le_add_right _ _),
        Nat.add_sub_cancel_left, List.getElem?_append_left hlt, hk]
    have heq : i = front.length + k :=
        (List.getElem?_inj (List.getElem?_eq_some_iff.mp ha).1 hn).mp (ha.trans hplace.symm)
    omega
  · rintro ⟨hle, hlt⟩
    rw [List.append_assoc, List.getElem?_append_right hle,
      List.getElem?_append_left (by omega)] at ha
    exact List.mem_of_getElem? ha

theorem inside_iff_index (he : e ∈ d.elements) (hx : x ∈ d.elements) :
    (x = e ∨ e.place ∈ x.place.ancestors)
      ↔ e.index ≤ x.index ∧ x.index ≤ e.index + e.place.descendants.length := by
  obtain ⟨front, behind, hsplit⟩ :=
    Place.exists_append_of_mem_descendants (place_mem_descendants he)
  have hnodup := Place.nodup_descendants d.place
  have hget := mem_elements_iff.mp he
  have hget' := mem_elements_iff.mp hx
  have hfits := fits_place hx
  rw [hsplit] at hnodup hget hget'
  have hfirst : (front ++ (e.place :: e.place.descendants) ++ behind)[front.length]?
      = some e.place := by simp
  have hindex : e.index = front.length :=
    (List.getElem?_inj (List.getElem?_eq_some_iff.mp hget).1 hnodup).mp (hget.trans hfirst.symm)
  have hmem : x.place ∈ e.place :: e.place.descendants
      ↔ (x = e ∨ e.place ∈ x.place.ancestors) := by
    rw [List.mem_cons]
    refine or_congr ⟨eq_of_place_eq hx he, congrArg _⟩
      ⟨Place.mem_ancestors_of_mem_descendants, Place.mem_descendants_of_mem_ancestors hfits⟩
  rw [← hmem, mem_middle_iff hnodup hget', hindex, List.length_cons]
  omega

/-! ## Parents -/

theorem eq_or_mem_descendants_of_mem_ancestors (he : e ∈ d.elements) {q : Place}
    (hq : q ∈ e.place.ancestors) : q = d.place ∨ q ∈ d.place.descendants := by
  have hmem := place_mem_descendants he
  have htop : q.top = d.place :=
    (Place.top_eq_of_mem_ancestors hq).symm.trans
      (Place.top_eq_of_mem_ancestors (Place.mem_ancestors_of_mem_descendants hmem))
  rcases Place.top_eq_or_mem_ancestors q with h | h
  · exact .inl (h.symm.trans htop)
  · rw [htop] at h
    exact .inr
      (Place.mem_descendants_of_mem_ancestors (Place.fits_of_mem_ancestors (fits_place he) hq) h)

theorem exists_step_of_parent? (hx : x ∈ d.elements) {p : Place}
    (hp : x.place.parent? = some p) :
    ∃ k, p.child? x.name k = some x.place
      ∧ x.path = p.path ++ "/" ++ x.name ++ "[" ++ toString k ++ "]" := by
  have hfits := fits_place hx
  obtain ⟨i, q⟩ := x
  cases q with
  | document nodes => cases hp
  | child q before t cs after =>
    cases hp
    exact ⟨_, Place.child?_of_fits hfits, rfl⟩

theorem eq_or_exists_of_parent? (hx : x ∈ d.elements) {p : Place}
    (hp : x.place.parent? = some p) :
    p = d.place ∨ ∃ e ∈ d.elements, e.place = p ∧ e.index < x.index := by
  have hmem : p ∈ x.place.ancestors := by
    obtain ⟨i, q⟩ := x
    cases q with
    | document nodes => cases hp
    | child q before t cs after =>
      cases hp
      exact List.mem_cons_self
  refine (eq_or_mem_descendants_of_mem_ancestors hx hmem).imp id fun hinside ↦ ?_
  obtain ⟨e, he, rfl⟩ := exists_mem_elements hinside
  have hle := ((inside_iff_index he hx).mp (.inr hmem)).1
  have hne : e.index ≠ x.index := fun h ↦
    Place.notMem_ancestors_self x.place (eq_of_index_eq he hx h ▸ hmem)
  exact ⟨e, he, rfl, Nat.lt_of_le_of_ne hle hne⟩

/-! ## Paths -/

/-- The place that a path leads to. -/
def placeAt? (d : Document) (path : String) : Option Place :=
  (Path.read? path).bind d.place.follow

theorem follow_steps (he : e ∈ d.elements) : d.place.follow e.place.steps = some e.place := by
  have hmem := place_mem_descendants he
  have hsteps := Place.follow_steps (fits_place he)
  rwa [Place.top_eq_of_mem_ancestors (Place.mem_ancestors_of_mem_descendants hmem)] at hsteps

theorem placeAt?_path (hnames : ∀ e ∈ d.elements, '/' ∉ e.name.toList) (he : e ∈ d.elements) :
    d.placeAt? e.path = some e.place := by
  have hall : ∀ q ∈ e.place :: e.place.ancestors, '/' ∉ q.tag.name.toList := by
    refine List.forall_mem_cons.mpr ⟨hnames e he, fun q hq ↦ ?_⟩
    rcases eq_or_mem_descendants_of_mem_ancestors he hq with rfl | hq
    · exact (by decide : '/' ∉ "[document]".toList)
    · obtain ⟨x, hx, rfl⟩ := exists_mem_elements hq
      exact hnames x hx
  have hread : Path.read? e.path = some e.place.steps := Place.read?_path hall
  rw [placeAt?, hread, Option.bind_some, follow_steps he]

theorem slash_notMem_name (hd : ofSource source name = .ok d) (he : e ∈ d.elements)
    (hbrace : '\x7d' ∉ e.name.toList) : '/' ∉ e.name.toList := by
  obtain ⟨text, events, -, -, -, rfl⟩ := exists_of_ofSource hd
  have hentry := List.mem_map_of_mem (f := fun e ↦ (e.name, e.place.ancestors.length)) he
  rw [map_outline_elements] at hentry
  rcases Event.isLocal_of_mem_outline source.isNamed_of_mem_events hentry with h | h
  · exact Markup.Writing.slash_notMem h
  · exact absurd h hbrace

/-! ## Documents -/

theorem isAbout_of_mem_ending {name : String} {failure : Option Failure} {a : Action}
    (h : a ∈ Run.Task.ending name failure) : a.IsAbout d := by
  cases failure with
  | none =>
    rw [List.mem_singleton.mp h]
    trivial
  | some f =>
    simp only [Run.Task.ending, List.mem_cons, List.not_mem_nil, or_false] at h
    rcases h with rfl | rfl
    · trivial
    · exact isSubject_none

theorem mem_elements_of_finding {rules : List (String × Value)} {r : Run}
    (hr : d.lint rules = .ok r) {finding : Diagnostic} (h : finding ∈ r.diagnostics)
    (he : finding.element = some e) : e ∈ d.elements := by
  have hreports (i : Rule.Instance) (a : Action) (ha : a ∈ Run.actionsOf d i) :
      a.Reports fun _ element ↦ d.IsSubject element := by
    have habout : a.IsAbout d := by
      rcases List.mem_append.mp ha with ha | ha
      · exact Rule.isAbout_of_mem_conduct ha
      · exact isAbout_of_mem_ending ha
    cases a <;> exact habout
  exact Document.of_mem_diagnostics_lint (fun _ _ i _ ↦ hreports i) hr h e he

/-- **Paths are addresses.** The elements of a document are numbered in document order, and what is
inside an element has the numbers right behind it; its parent has a smaller one. Its path is that of
its parent with one more step, as one pass with counters finds it, and its steps lead to it from the
document.

The steps can be told from the path, unless a name in the document holds a slash behind a closing
brace. Then different elements have different paths, each leads to its element, and so does the
location of each finding about an element. -/
theorem addresses_of_ofSource (hd : ofSource source name = .ok d) :
    (∀ i (h : i < d.elements.length), d.elements[i].index = i)
      ∧ d.elements.map (·.path) = Numbering.initial.pathsOf (d.elements.map (·.place))
      ∧ (∀ e ∈ d.elements, ∀ x ∈ d.elements, (x = e ∨ e.place ∈ x.place.ancestors)
        ↔ e.index ≤ x.index ∧ x.index ≤ e.index + e.place.descendants.length)
      ∧ (∀ x ∈ d.elements, ∀ p, x.place.parent? = some p →
        (∃ k, p.child? x.name k = some x.place
          ∧ x.path = p.path ++ "/" ++ x.name ++ "[" ++ toString k ++ "]")
        ∧ (p = d.place ∨ ∃ e ∈ d.elements, e.place = p ∧ e.index < x.index))
      ∧ (∀ e ∈ d.elements, d.place.follow e.place.steps = some e.place
        ∧ ∀ x ∈ d.elements, x.place = e.place → x = e)
      ∧ ((∀ e ∈ d.elements, '\x7d' ∈ e.name.toList → '/' ∉ e.name.toList) →
        (∀ e ∈ d.elements, d.placeAt? e.path = some e.place
          ∧ ∀ x ∈ d.elements, x.path = e.path → x = e)
        ∧ ∀ rules r, d.lint rules = .ok r → ∀ finding ∈ r.diagnostics,
          ∀ e, finding.element = some e → e ∈ d.elements
            ∧ ∀ x ∈ d.elements, finding.location = some x.path ↔ x = e) := by
  refine ⟨fun i h ↦ index_eq_of_getElem? (List.getElem?_eq_getElem h), ?_,
    fun e he x hx ↦ inside_iff_index he hx,
    fun x hx p hp ↦ ⟨exists_step_of_parent? hx hp, eq_or_exists_of_parent? hx hp⟩,
    fun e he ↦ ⟨follow_steps he, fun x hx ↦ eq_of_place_eq hx he⟩, fun hnames ↦ ?_⟩
  · rw [map_place_elements, place, Numbering.pathsOf_initial, ← place, ← map_place_elements,
      List.map_map]
    rfl
  · have hslash : ∀ e ∈ d.elements, '/' ∉ e.name.toList := fun e he hslash ↦
      hnames e he (by_contra fun hbrace ↦ slash_notMem_name hd he hbrace hslash) hslash
    have hleads : ∀ e ∈ d.elements, d.placeAt? e.path = some e.place :=
      fun e ↦ placeAt?_path hslash
    have hunique : ∀ e ∈ d.elements, ∀ x ∈ d.elements, x.path = e.path → x = e :=
      fun e he x hx hpath ↦ eq_of_place_eq hx he
        (Option.some.inj ((hleads x hx).symm.trans ((congrArg _ hpath).trans (hleads e he))))
    refine ⟨fun e he ↦ ⟨hleads e he, hunique e he⟩, fun rules r hr finding hfinding e hfe ↦ ?_⟩
    have he := mem_elements_of_finding hr hfinding hfe
    refine ⟨he, fun x hx ↦ ?_⟩
    rw [Diagnostic.location, hfe, Option.map_some, Option.some.injEq]
    exact ⟨fun h ↦ hunique e he x hx h.symm, fun h ↦ h ▸ rfl⟩

/-- Elements of one name at three places, of which two are siblings with others between them, and a
finding about each that has no attribute. -/
theorem addresses_of_ofSource_interleaved :
    let source := "<a><b x=''/><c><b/></c>t<b><b x=''/></b></a>"
    let rules : List (String × Value) := [("attr", .object [("rule::selector", .text "b"),
      ("x", .bool true)])]
    ∃ d r, ofSource (.text source) none = .ok d ∧ d.lint rules = .ok r
      ∧ d.elements.map (fun e ↦ (e.index, e.path)) = [(0, "/a[1]"), (1, "/a[1]/b[1]"),
        (2, "/a[1]/c[1]"), (3, "/a[1]/c[1]/b[1]"), (4, "/a[1]/b[2]"), (5, "/a[1]/b[2]/b[1]")]
      ∧ (∀ e ∈ d.elements, d.placeAt? e.path = some e.place)
      ∧ r.diagnostics.map (·.location) = [some "/a[1]/c[1]/b[1]", some "/a[1]/b[2]"]
      ∧ ∀ finding ∈ r.diagnostics, ∀ e, finding.element = some e →
        ∀ x ∈ d.elements, finding.location = some x.path ↔ x = e := by
  intro source rules
  have hd : (ofSource (.text source) none).toOption.map
      (fun d ↦ (d.elements.map fun e ↦ (e.index, e.path),
        d.elements.all fun e ↦ !e.name.toList.contains '/',
        (d.lint rules).toOption.map fun r ↦ r.diagnostics.map (·.location)))
        = some ([(0, "/a[1]"), (1, "/a[1]/b[1]"), (2, "/a[1]/c[1]"), (3, "/a[1]/c[1]/b[1]"),
            (4, "/a[1]/b[2]"), (5, "/a[1]/b[2]/b[1]")],
          true, some [some "/a[1]/c[1]/b[1]", some "/a[1]/b[2]"]) := by
    decide +kernel
  obtain ⟨d, hd, hall⟩ := Attempt.exists_of_toOption_map_eq_some hd
  simp only [Prod.mk.injEq] at hall
  obtain ⟨hpaths, hnames, hlocations⟩ := hall
  obtain ⟨r, hr, hlocations⟩ := Attempt.exists_of_toOption_map_eq_some hlocations
  have hslash : ∀ e ∈ d.elements, '\x7d' ∈ e.name.toList → '/' ∉ e.name.toList := by
    intro e he _
    simpa using List.all_eq_true.mp hnames e he
  obtain ⟨-, -, -, -, -, hunique⟩ := addresses_of_ofSource hd
  obtain ⟨hleads, hfindings⟩ := hunique hslash
  exact ⟨d, r, hd, hr, hpaths, fun e he ↦ (hleads e he).1, hlocations,
    fun finding hfinding e he ↦ (hfindings rules r hr finding hfinding e he).2⟩

/-- Two elements with one path: the names of the namespaces that the document type adds to the root
and to the first element in it hold closing braces, and that of the root a slash. -/
theorem path_eq_of_declared_namespaces :
    let source := "<!DOCTYPE r [%p;<!ATTLIST r xmlns CDATA \"x\x7du\x7da[1]/u\">"
      ++ "<!ATTLIST a xmlns CDATA \"x\x7du\">]><r><a><c/></a><c/></r>"
    ∃ d e x, ofSource (.text source) none = .ok d ∧ d.elements[2]? = some e
      ∧ d.elements[3]? = some x ∧ e.path = x.path ∧ e ≠ x := by
  intro source
  have hpaths : (ofSource (.text source) none).toOption.bind (fun d ↦ d.elements[2]?.bind fun e ↦
      d.elements[3]?.map fun x ↦ decide (e.path = x.path ∧ e.index ≠ x.index)) = some true := by
    decide +kernel
  obtain ⟨d, hd, hpaths⟩ := Option.bind_eq_some_iff.mp hpaths
  obtain ⟨e, he, hpaths⟩ := Option.bind_eq_some_iff.mp hpaths
  obtain ⟨x, hx, hpaths⟩ := Option.map_eq_some_iff.mp hpaths
  obtain ⟨hpath, hindex⟩ := of_decide_eq_true hpaths
  refine ⟨d, e, x, ?_, he, hx, hpath, fun h ↦ hindex (h ▸ rfl)⟩
  cases hsource : ofSource (.text source) none with
  | error f => rw [hsource] at hd; cases hd
  | ok d' =>
    rw [hsource] at hd
    exact congrArg _ (Option.some.inj hd)

end VectorLint.Document
