import VectorLint.Proofs.CommandLine.Results
import VectorLint.Proofs.Markup.Offsets
import VectorLint.Run.Lint

/-!
# Failures of markup

Markup that has no document fails with an error that names the markup and says what is wrong with
it. There is one exception. If the declaration of octets names a character set that cannot be used,
this is found out while the encoding is looked up, before any markup is read, and it is a failure of
another kind. So two things decide about the kind of a failure: the name in the declaration, as the
check sees it, and what is known about that name. Everything else, also a declared encoding that is
not the one that was seen, is a fault of the markup.
-/

namespace VectorLint

open Markup (Source Fault Encoding Declaration Charset FailsInMarkup)

/-- The names of the encodings that need no character set. -/
def Markup.Encoding.ownNames : List String :=
  ["utf-8", "iso-8859-1", "us-ascii", "utf-16", "utf-16be", "utf-16le"]

/-- Why the character set with a name cannot be used. -/
def Markup.Encoding.unusable? (name : String) : Option Fault :=
  if ownNames.contains (name.map Char.toLower) then none
  else
    match Charset.ofName name with
    | .usable _ => none
    | .foreign => none
    | .wide => some .wideCharset
    | .notTextual => some (.notTextual name)
    | .refusing r => some (.refused name r)
    | .unknown => some (.unknownCharset name)

/-- The name of the encoding in the declaration of octets, as the check sees it. In a text it does
not count. -/
def Markup.Source.declaredName? : Source → Option String
  | .text _ => none
  | .octets bs =>
    ((Declaration.ofText? (Source.octets bs).seen.chars).bind (·.encoding)).map (·.1)

/-- Why the character set that markup asks for cannot be used. -/
def Markup.Source.unusable? (source : Source) : Option Fault :=
  source.declaredName?.bind Encoding.unusable?

/-- Whether a failure is the error of markup under a name. -/
def Failure.IsOfMarkup (name : Option String) (f : Failure) : Prop :=
  f.kind = .document ∧ ∃ front ∈ ["Invalid XML in ", "Unsafe XML in "], ∃ reason,
    f.text = front ++ Document.shownName name ++ ": " ++ reason

/-! ## The declared encoding -/

namespace Markup

theorem Encoding.unusable?_of_own {name : String} (h : name.map Char.toLower ∈ ownNames) :
    unusable? name = none := if_pos (List.contains_iff_mem.mpr h)

/-- **A declared name** is that of a character set that cannot be used, or what is wrong with it is
wrong with the markup. -/
theorem Encoding.declared_or (seen : Encoding) (name : String) (offset : Nat) :
    (unusable? name = none ∧ FailsInMarkup (seen.declared name offset))
      ∨ ∃ f, unusable? name = some f ∧ seen.declared name offset = .error f
        ∧ f.isOfCharset = true := by
  have hown {own : String} (h : name.map Char.toLower = own) (hmem : own ∈ ownNames)
      {x : Except Fault Encoding} (hx : FailsInMarkup x) :
      (unusable? name = none ∧ FailsInMarkup x)
        ∨ ∃ f, unusable? name = some f ∧ x = .error f ∧ f.isOfCharset = true :=
    .inl ⟨unusable?_of_own (h ▸ hmem), hx⟩
  have hwrong : FailsInMarkup (.error (.malformed .wrongEncoding offset) : Except Fault Encoding) :=
    failsInMarkup_malformed _ _
  have hok (e : Encoding) : FailsInMarkup (.ok e) := failsInMarkup_ok e
  unfold declared
  simp only
  split
  · exact hown ‹_› (by decide) (hwrong.ite (hok _))
  · exact hown ‹_› (by decide) (hwrong.ite (hok _))
  · exact hown ‹_› (by decide) (hwrong.ite (hok _))
  · exact hown ‹_› (by decide) ((hok _).ite hwrong)
  · exact hown ‹_› (by decide) ((hok _).ite hwrong)
  · exact hown ‹_› (by decide) ((hok _).ite hwrong)
  · have hother : ownNames.contains (name.map Char.toLower) = false := by
      refine Bool.eq_false_iff.mpr fun h ↦ ?_
      simp only [ownNames, List.contains_iff_mem, List.mem_cons, List.not_mem_nil, or_false] at h
      rcases h with h | h | h | h | h | h <;> contradiction
    rw [unusable?, hother, if_neg Bool.false_ne_true]
    cases Charset.ofName name with
    | usable c => exact .inl ⟨rfl, hok _⟩
    | foreign => exact .inl ⟨rfl, failsInMarkup_malformed _ _⟩
    | _ => exact .inr ⟨_, rfl, rfl, rfl⟩

theorem Source.forCheck_or (source : Source) :
    (source.unusable? = none ∧ FailsInMarkup source.forCheck)
      ∨ ∃ f, source.unusable? = some f ∧ source.forCheck = .error f ∧ f.isOfCharset = true := by
  cases source with
  | text s => exact .inl ⟨rfl, failsInMarkup_ok _⟩
  | octets bs =>
    rw [unusable?, declaredName?, forCheck]
    cases hdeclared : (Declaration.ofText? (Source.octets bs).seen.chars).bind (·.encoding) with
    | none => exact .inl ⟨rfl, failsInMarkup_ok _⟩
    | some named =>
      obtain ⟨name, offset⟩ := named
      rcases (Encoding.ofOctets bs).declared_or name offset with
        ⟨hnone, hfails⟩ | ⟨f, hf, herror, h⟩
      · exact .inl ⟨hnone, hfails.bind fun _ ↦ failsInMarkup_ok _⟩
      · refine .inr ⟨f, hf, ?_, h⟩
        simp only [herror]
        rfl

end Markup

namespace Document

theorem isOfMarkup_failure {e : Error} (h : e.fault.isOfCharset = false) :
    e.failure.IsOfMarkup e.name := by
  obtain ⟨fault, text, name⟩ := e
  cases fault with
  | malformed problem offset => exact ⟨rfl, "Invalid XML in ", by decide, _, rfl⟩
  | unreadEntity entity offset =>
    refine ⟨rfl, "Invalid XML in ", by decide, _, rfl⟩
  | entityDeclared entity systemId publicId =>
    have hmark : ": EntitiesForbidden(name='" = ": " ++ "EntitiesForbidden(name='" := by decide
    refine ⟨rfl, "Unsafe XML in ", by decide, ?_⟩
    simp only [Error.failure, hmark, String.append_assoc]
    exact ⟨_, rfl⟩
  | _ => cases h

theorem kind_failure_ne {e : Error} (h : e.fault.isOfCharset = true) :
    e.failure.kind ≠ .document := by
  obtain ⟨fault, text, name⟩ := e
  cases fault with
  | malformed problem offset => cases h
  | unreadEntity entity offset => cases h
  | entityDeclared entity systemId publicId => cases h
  | refused charset r => cases r <;> (intro h; cases h)
  | _ =>
    intro h
    cases h

theorem ofSource_eq_error_iff {source : Source} {name : Option String} {e : Error} :
    ofSource source name = .error e ↔ check source name = .error e := by
  rw [ofSource]
  cases check source name with
  | error e' => constructor <;> (intro h; cases h; rfl)
  | ok events => constructor <;> (intro h; cases h)

theorem fault_of_check {source : Source} {name : Option String} {e : Error}
    (h : check source name = .error e) : e.name = name
      ∧ (source.unusable? = some e.fault ∧ e.fault.isOfCharset = true
        ∨ source.unusable? = none ∧ e.fault.isOfCharset = false) := by
  rw [check] at h
  rcases source.forCheck_or with ⟨hnone, hfails⟩ | ⟨f, hf, herror, hcharset⟩
  · split at h
    · rename_i fault hfault
      cases h
      exact ⟨rfl, .inr ⟨hnone, hfails fault hfault⟩⟩
    · rename_i text htext
      split at h
      · rename_i fault hfault
        cases h
        exact ⟨rfl, .inr ⟨hnone, text.failsInMarkup_read fault hfault⟩⟩
      · cases h
  · simp only [herror] at h
    cases h
    exact ⟨rfl, .inl ⟨hf, hcharset⟩⟩

/-- **Failures of markup.** Octets whose declaration names a character set that cannot be used have
no document, and they fail with a failure that is not that of a document. In all other cases, and
always if a text is given, markup has a document or fails with the error that names it and says what
is wrong with it. A text is one of characters; halves of UTF-16 pairs alone are none, and a text of
them cannot be told in UTF-8. Whoever lints the markup or a file with it sees the same failure,
whatever the configuration; and the command line has a result for the file exactly if the character
set can be used. -/
theorem failure_of_ofSource (source : Source) (name : Option String) :
    (∀ f, source.unusable? = some f →
        ∃ e, ofSource source name = .error e ∧ e.fault = f ∧ e.failure.kind ≠ .document)
      ∧ (∀ s, source = .text s → source.unusable? = none)
      ∧ ∀ e, ofSource source name = .error e →
        (e.failure.IsOfMarkup name ↔ source.unusable? = none)
          ∧ (∀ config, source.lint config name = (.error e.failure, []))
          ∧ ∀ fs p content, fs.read p = .ok content → source = .octets content →
            name = some p.shown → (∀ config, fs.lint p config = (.error e.failure, []))
              ∧ ∀ rules, CommandLine.lintFile fs rules p = .error e.failure
                ∧ (CommandLine.isResult e.failure = true ↔ source.unusable? = none) := by
  refine ⟨?_, ?_, ?_⟩
  · intro f hf
    rcases source.forCheck_or with ⟨hnone, -⟩ | ⟨f', hf', herror, hcharset⟩
    · rw [hnone] at hf
      cases hf
    · obtain rfl : f' = f := Option.some.inj (hf'.symm.trans hf)
      refine ⟨⟨f', source.seen, name⟩, ?_, rfl, kind_failure_ne hcharset⟩
      rw [ofSource_eq_error_iff, check, herror]
  · rintro s rfl
    rfl
  · intro e he
    have hlint (config : Value) : source.lint config name = (.error e.failure, []) := by
      simp only [Source.lint, he]
    obtain ⟨rfl, hfault⟩ := fault_of_check (ofSource_eq_error_iff.mp he)
    have husable : e.fault.isOfCharset = false ↔ source.unusable? = none := by
      rcases hfault with ⟨hsome, hcharset⟩ | ⟨hnone, hcharset⟩
      · simp [hsome, hcharset]
      · simp [hnone, hcharset]
    refine ⟨⟨fun hmarkup ↦ ?_, fun hnone ↦ isOfMarkup_failure (husable.mpr hnone)⟩, hlint, ?_⟩
    · refine husable.mp (Bool.eq_false_iff.mpr fun hcharset ↦ ?_)
      exact kind_failure_ne hcharset hmarkup.1
    · rintro fs p content hread rfl hname
      rw [hname] at hlint he
      refine ⟨fun config ↦ ?_, fun rules ↦ ⟨?_, ?_⟩⟩
      · simp only [Files.lint, hread, hlint config]
      · simp only [CommandLine.lintFile, hread, bind, Except.bind, he]
        rfl
      · rw [CommandLine.isResult_failure, Bool.not_eq_true', husable]

/-- A file whose declaration names an encoding that reads ASCII alone, and one with an unclosed
element in a character set that can be used. -/
theorem failure_of_ofSource_files :
    let p := FilePath.ofString "a.svg"
    let content := Text.Utf8.encode "<?xml version=\"1.0\" encoding=\"punycode\"?><a/>".toList
    let content' := Text.Utf8.encode "<?xml version=\"1.0\" encoding=\"koi8-r\"?><a>".toList
    let fs : Files := ⟨.directory [("a.svg", .file content)], []⟩
    (∃ e, ofSource (.octets content) (some p.shown) = .error e ∧ e.failure.kind ≠ .document
        ∧ (∀ config, fs.lint p config = (.error e.failure, []))
        ∧ ∀ rules, CommandLine.lintFile fs rules p = .error e.failure
          ∧ CommandLine.isResult e.failure ≠ true)
      ∧ ∃ e, ofSource (.octets content') none = .error e ∧ e.failure.IsOfMarkup none := by
  intro p content content' fs
  have hread : fs.read p = .ok content := Markup.eq_ok_of_toOption (by decide +kernel)
  have hsome : (Source.octets content).unusable? = some (.refused "punycode" .ascii) := by
    decide +kernel
  have hnone : (Source.octets content').unusable? = none := by decide +kernel
  have hfails : (ofSource (.octets content') none).isOk = false := by decide +kernel
  refine ⟨?_, ?_⟩
  · obtain ⟨hunusable, -, herror⟩ := failure_of_ofSource (.octets content) (some p.shown)
    obtain ⟨e, he, -, hkind⟩ := hunusable _ hsome
    obtain ⟨-, -, hfiles⟩ := herror e he
    obtain ⟨hlint, hprogram⟩ := hfiles fs p content hread rfl rfl
    refine ⟨e, he, hkind, hlint, fun rules ↦ ⟨(hprogram rules).1, fun hresult ↦ ?_⟩⟩
    rw [(hprogram rules).2.mp hresult] at hsome
    cases hsome
  · obtain ⟨-, -, herror⟩ := failure_of_ofSource (.octets content') none
    cases he : ofSource (.octets content') none with
    | ok d =>
      rw [he] at hfails
      cases hfails
    | error e => exact ⟨e, rfl, (herror e he).1.mpr hnone⟩

/-- An unknown character set is declared: there is neither a document nor the error of one. -/
theorem failure_of_unknown_charset :
    let source : Source :=
      .octets (Text.Utf8.encode "<?xml version=\"1.0\" encoding=\"foo\"?><a/>".toList)
    ∃ e, ofSource source none = .error e ∧ e.failure = ⟨.lookup, "unknown encoding: foo"⟩
      ∧ e.failure.kind ≠ .document := by
  intro source
  have hcharset : source.forCheck = .error (.unknownCharset "foo") := by
    have hfails : source.forCheck.isOk = false := by decide +kernel
    have hunusable : source.unusable? = some (.unknownCharset "foo") := by decide +kernel
    rcases source.forCheck_or with ⟨hnone, -⟩ | ⟨f, hf, herror, -⟩
    · rw [hnone] at hunusable
      cases hunusable
    · obtain rfl : f = .unknownCharset "foo" := Option.some.inj (hf.symm.trans hunusable)
      exact herror
  refine ⟨⟨.unknownCharset "foo", source.seen, none⟩, ?_, rfl, ?_⟩
  · rw [ofSource_eq_error_iff, check, hcharset]
  · intro h
    cases h

end Document

end VectorLint
