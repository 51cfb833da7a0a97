import VectorLint.Proofs.Document.Entities
import VectorLint.Proofs.Markup.Fallback
import VectorLint.Proofs.Markup.Utf16
import VectorLint.Run.Lint

/-!
# A text and its octets

A text is linted as it is, and a file as its octets. Both are checked from the octets, so they
differ only in where the tree comes from: that of a text is built from its characters, and that of
octets from what the reading for the tree takes them for. If the first line names no encoding, or
one that reads the octets as they were written, this is the same, since markup that has passed the
check is not read in another way. In UTF-16 with a byte order mark a document comes out the same
too, although the check then counts more characters as letters. Two things spoil this: an
instruction in the first line may name an encoding of which the check knows nothing, and a zero
among the first two characters makes the check take the text for UTF-16.
-/

namespace VectorLint

open Markup (Source Encoding Declaration Event PassesSigns readPart unmarked)
open Text (Utf8.encode Utf8.decode)

namespace Markup.Source

variable {s : String}

theorem forCheck_encode
    (h : (Declaration.ofText? (Source.text s).seen.chars).bind (·.encoding) = none) :
    (Source.octets (Utf8.encode s.toList)).forCheck = (Source.text s).forCheck := by
  have hseen : (Source.octets (Utf8.encode s.toList)).seen = (Source.text s).seen := rfl
  simp only [forCheck, hseen, h]

theorem passesSigns {events : List Event} (h : (Source.text s).seen.read = .ok events) :
    PassesSigns s.toList := by
  have hdecode : Utf8.decode (Source.text s).toOctets = (s.toList, none) :=
    Text.Utf8.decode_encode s.toList
  by_cases hzero : 0 ∈ (Source.text s).toOctets.take 2
  · exact Markup.passesSigns_of_zero (Encoding.zero_of_decode hdecode hzero)
  · have hseen := (Source.text s).seen_eq_of_notMem hdecode hzero
    have hpasses := Markup.passesSigns_of_read h (by rw [hseen])
    rwa [hseen] at hpasses

/-- **The tree** of octets is built from the characters of the text if the text passes the check and
the first line names no encoding that reads the octets in another way. -/
theorem events_encode {events : List Event} (h : (Source.text s).seen.read = .ok events)
    (hnamed : ∀ read, Encoding.named? (Utf8.encode s.toList) = some read →
      Encoding.salvageCharset read (Utf8.encode s.toList) = s.toList) :
    (Source.octets (Utf8.encode s.toList)).events = (Source.text s).events := by
  have hdecode := Text.Utf8.decode_encode s.toList
  have hunnamed : Encoding.salvageUnnamed (Utf8.encode s.toList) = (Source.text s).events :=
    Encoding.salvageUnnamed_eq hdecode (passesSigns h)
  generalize Utf8.encode s.toList = bs at hdecode hunnamed hnamed ⊢
  have hlarge {b : UInt8} {rest : List UInt8} (hb : ¬ b < 0xF5) : bs ≠ b :: rest := by
    rintro rfl
    exact hb (Encoding.lt_of_decode hdecode)
  by_cases hmark : ∃ rest, bs = 0xEF :: 0xBB :: 0xBF :: rest
  · obtain ⟨rest, rfl⟩ := hmark
    exact hunnamed
  · rw [not_exists] at hmark
    rw [events_octets (fun _ ↦ hlarge (by decide)) (fun _ ↦ hlarge (by decide)) hmark]
    cases hread : Encoding.named? bs with
    | none => exact hunnamed
    | some read =>
      rw [Option.map_some, Option.getD_some, hnamed read hread]
      rfl

end Markup.Source

namespace Document

variable {s : String}

/-- **UTF-8.** A text and its octets have the same document, or fail alike, under any name. -/
theorem ofSource_encode (name : Option String)
    (hdeclared : (Declaration.ofText? (Source.text s).seen.chars).bind (·.encoding) = none)
    (hnamed : ∀ read, Encoding.named? (Utf8.encode s.toList) = some read →
      Encoding.salvageCharset read (Utf8.encode s.toList) = s.toList) :
    ofSource (.octets (Utf8.encode s.toList)) name = ofSource (.text s) name := by
  have hcheck : check (.octets (Utf8.encode s.toList)) name = check (.text s) name := by
    rw [check, check, Source.forCheck_encode hdeclared]
    rfl
  rw [ofSource, ofSource, hcheck]
  cases hevents : check (.text s) name with
  | error e => rfl
  | ok events =>
    have hok : ofSource (.text s) name = .ok { tree := build (.text s), name } := by
      rw [ofSource, hevents]
      rfl
    obtain ⟨text, events', htext, hread, -⟩ := exists_of_ofSource hok
    obtain rfl : (Source.text s).seen = text := Except.ok.inj htext
    rw [build, build, Source.events_encode hread hnamed]

/-- **UTF-16.** What has a document as a text has it in UTF-16 with a byte order mark. -/
theorem ofSource_utf16 {name : Option String} {d : Document}
    (hdeclared : (Declaration.ofText? (Source.text s).seen.chars).bind (·.encoding) = none)
    (hzero : '\x00' ∉ s.toList.take 2) (h : ofSource (.text s) name = .ok d)
    (isBigEndian : Bool) : ofSource (Source.utf16 isBigEndian s.toList) name = .ok d := by
  have hseen := (Source.text s).seen_eq_of_decode (Text.Utf8.decode_encode s.toList) hzero
  rw [hseen] at hdeclared
  obtain ⟨text, events, htext, hread, -, rfl⟩ := exists_of_ofSource h
  obtain rfl : (Source.text s).seen = text := Except.ok.inj htext
  rw [hseen] at hread
  have hread' : Markup.Decoded.read ⟨⟨0, []⟩, '\ufeff' :: unmarked s.toList, .pairs, .complete⟩
      = .ok events :=
    Markup.Decoded.read_pairs hread rfl rfl rfl rfl
  have hevents : (Source.utf16 isBigEndian s.toList).events = (Source.text s).events := by
    rw [Source.events_utf16]
    exact Markup.events_readPart (Markup.unmarked_unmarked_of_read hread rfl)
  have hcheck : check (Source.utf16 isBigEndian s.toList) name = .ok events := by
    simp only [check, Source.forCheck_utf16 isBigEndian hdeclared, hread']
  rw [ofSource, hcheck, build, hevents]
  rfl

end Document

/-- **A text and its octets are linted alike.** Let no encoding be declared in a text as the check
sees it. Then its octets in UTF-8 are linted as the text is, with any configuration and under any
name, and so is a file that holds them: the run, the failure and what is logged are the same, unless
the first line names an encoding that reads the octets in another way. And if the text has a
document, it has the same one in UTF-16 with a byte order mark, unless a zero among its first two
characters made the check take it for UTF-16 already. -/
theorem Files.lint_eq_of_encode (s : String)
    (hdeclared : (Declaration.ofText? (Source.text s).seen.chars).bind (·.encoding) = none) :
    ((∀ read, Encoding.named? (Utf8.encode s.toList) = some read →
        Encoding.salvageCharset read (Utf8.encode s.toList) = s.toList) →
      (∀ config name, (Source.octets (Utf8.encode s.toList)).lint config name
          = (Source.text s).lint config name)
        ∧ ∀ (fs : Files) p config, fs.read p = .ok (Utf8.encode s.toList) →
          fs.lint p config = (Source.text s).lint config (some p.shown))
      ∧ ('\x00' ∉ s.toList.take 2 → ∀ name d, Document.ofSource (.text s) name = .ok d →
        ∀ isBigEndian, Document.ofSource (Source.utf16 isBigEndian s.toList) name = .ok d) := by
  constructor
  · intro hnamed
    have hlint (config : Value) (name : Option String) :
        (Source.octets (Utf8.encode s.toList)).lint config name
          = (Source.text s).lint config name := by
      rw [Source.lint, Source.lint, Document.ofSource_encode name hdeclared hnamed]
    refine ⟨hlint, ?_⟩
    intro fs p config hread
    rw [Files.lint, hread]
    exact hlint config _
  · intro hzero name d h isBigEndian
    exact Document.ofSource_utf16 hdeclared hzero h isBigEndian

/-- The first line of a file names ASCII, in which it is written, and it is linted as its text is.
Letters beyond ASCII come out of UTF-16 as they went in. -/
theorem Files.lint_eq_of_encode_ascii :
    let s := "<?p encoding=\"ascii\"?><r a=\"x\">y</r>"
    let p := FilePath.ofString "a.svg"
    let fs : Files := ⟨.directory [("a.svg", .file (Utf8.encode s.toList))], []⟩
    let s' := "<r a=\"\u00e9\">\u00aa</r>"
    (∀ config, fs.lint p config = (Source.text s).lint config (some p.shown))
      ∧ ∃ d, Document.ofSource (.text s') none = .ok d ∧ ∀ isBigEndian,
        Document.ofSource (Source.utf16 isBigEndian s'.toList) none = .ok d := by
  intro s p fs s'
  constructor
  · intro config
    have hread : fs.read p = .ok (Utf8.encode s.toList) :=
      Markup.eq_ok_of_toOption (by decide +kernel)
    have hsame : (Encoding.named? (Utf8.encode s.toList)).map
        (Encoding.salvageCharset · (Utf8.encode s.toList)) = some s.toList := by
      decide +kernel
    refine ((lint_eq_of_encode s (by decide +kernel)).1 ?_).2 fs p config hread
    intro read hnamed
    rw [hnamed] at hsame
    exact Option.some.inj hsame
  · have hsome : (Document.ofSource (.text s') none).toOption.isSome := by decide +kernel
    obtain ⟨d, hd⟩ := Option.isSome_iff_exists.mp hsome
    have hparses := Markup.eq_ok_of_toOption hd
    exact ⟨d, hparses,
      (lint_eq_of_encode s' (by decide +kernel)).2 (by decide +kernel) none d hparses⟩

/-- An instruction in the first line names an encoding in which its octets are not written. No
encoding is declared, and the text has the element that is asked for; a file that holds the text is
found to lack it. -/
theorem Files.lint_ne_of_named_encoding :
    let s := "<?p encoding=\"utf-16\"?><r/>"
    let p := FilePath.ofString "a.svg"
    let fs : Files := ⟨.directory [("a.svg", .file (Utf8.encode s.toList))], []⟩
    let config : Value := .object [("rules", .object [("elm", .object [("r", .bool true)])])]
    (Declaration.ofText? (Source.text s).seen.chars).bind (·.encoding) = none
      ∧ fs.read p = .ok (Utf8.encode s.toList)
      ∧ ((Source.text s).lint config (some p.shown)).1.toOption.map (·.diagnostics.length) = some 0
      ∧ (fs.lint p config).1.toOption.map (·.diagnostics.length) = some 1 := by
  intro s p fs config
  exact ⟨by decide +kernel, Markup.eq_ok_of_toOption (by decide +kernel), by decide +kernel,
    by decide +kernel⟩

end VectorLint
