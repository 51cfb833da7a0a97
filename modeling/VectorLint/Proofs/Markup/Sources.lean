import VectorLint.Document.Basic
import VectorLint.Proofs.Markup.Reading
import VectorLint.Proofs.Text.Utf8

/-!
# Drafts as markup

A draft is given as a text or as octets. Either way the check and the reading for the tree first
have to find out which characters they are to read, and both look at the very beginning for it: at a
byte order mark, at a zero among the first two octets, at a declaration. What is written of an
element begins with `<` and the first character of a name, and this is enough to rule all of them
out. So both read the octets as UTF-8, and what they read is what was written.
-/

namespace VectorLint.Markup

open Text (Utf8.encode)

namespace Encoding

variable {c : Char}

theorem exists_encode_eq (hc : isNameStart c = true) (cs : List Char) :
    ∃ b bs, Utf8.encode ('<' :: c :: cs) = 0x3C :: b :: bs ∧ b ≠ 0 ∧ b ≠ 0x3F := by
  have hall : Utf8.encode ('<' :: c :: cs) = 0x3C :: Utf8.encode (c :: cs) := rfl
  cases hrest : Utf8.encode (c :: cs) with
  | nil =>
    have hnil : c :: cs = [] := Text.Utf8.encode_injective hrest
    cases hnil
  | cons b bs =>
    refine ⟨b, bs, hall.trans (congrArg _ hrest), ?_, ?_⟩
    · rintro rfl
      rw [Text.Utf8.eq_ofNat_of_encode_eq_cons hrest (by decide)] at hc
      exact absurd hc (by decide)
    · rintro rfl
      rw [Text.Utf8.eq_ofNat_of_encode_eq_cons hrest (by decide)] at hc
      exact absurd hc (by decide)

theorem ofOctets_eq_utf8 {b : UInt8} {bs : List UInt8} (hb : b ≠ 0) :
    ofOctets (0x3C :: b :: bs) = .utf8 := by
  unfold ofOctets
  split <;> simp_all

theorem isUndecided_eq_false (b : UInt8) (bs : List UInt8) :
    isUndecided (0x3C :: b :: bs) = false := by
  simp [isUndecided]

theorem named?_eq_none {b : UInt8} {bs : List UInt8} (hb : b ≠ 0x3F) :
    named? (0x3C :: b :: bs) = none := by
  have hascii : ∀ n < 128, n ≠ 0x3F → Char.ofNat n ≠ '?' := by decide
  have hsecond : (if b < 128 then Char.ofNat b.toNat else '\ufffd') ≠ '?' := by
    split
    · rename_i hlt
      refine hascii _ (UInt8.lt_iff_toNat_lt.mp hlt) fun h ↦ hb ?_
      rw [← UInt8.toNat_inj, h]
      rfl
    · decide
  rw [named?]
  simp only [List.take_succ_cons, List.map_cons]
  generalize (if b < 128 then Char.ofNat b.toNat else '\ufffd') = second at hsecond ⊢
  rw [List.dropWhile_cons_of_neg (by decide), List.takeWhile_cons_of_pos (by decide),
    List.takeWhile_cons]
  split
  · rename_i line h
    have hline := (List.cons.inj h).2
    split at hline
    · exact absurd (List.cons.inj hline).1 hsecond
    · cases hline
  · rfl

end Encoding

variable {source : Source} {c : Char} {cs : List Char}

theorem Source.seen_eq (hc : isNameStart c = true)
    (h : source.toOctets = Utf8.encode ('<' :: c :: cs)) :
    source.seen = ⟨⟨0, []⟩, '<' :: c :: cs, .octets, .complete⟩ := by
  obtain ⟨b, bs, hoctets, hzero, -⟩ := Encoding.exists_encode_eq hc cs
  have hdecode : Encoding.decodeUtf8 (Utf8.encode ('<' :: c :: cs))
      = ⟨'<' :: c :: cs, .complete⟩ := by
    rw [Encoding.decodeUtf8, Text.Utf8.decode_encode]
  simp only [seen, h]
  rw [hoctets] at hdecode ⊢
  rw [Encoding.ofOctets_eq_utf8 hzero, Encoding.isUndecided_eq_false]
  simp only [Bool.false_eq_true, if_false, Encoding.decode, hdecode, Encoding.writing]

theorem Source.forCheck_eq (hc : isNameStart c = true)
    (h : source.toOctets = Utf8.encode ('<' :: c :: cs)) :
    source.forCheck = .ok ⟨⟨0, []⟩, '<' :: c :: cs, .octets, .complete⟩ := by
  have hseen := source.seen_eq hc h
  have hmark : c ≠ '?' := by
    rintro rfl
    exact absurd hc (by decide)
  cases source with
  | text s => rw [forCheck, hseen]
  | octets bs =>
    have hdeclaration : Declaration.ofText? ('<' :: c :: cs) = none := by
      unfold Declaration.ofText?
      simp [hmark]
    simp only [forCheck, hseen, hdeclaration, Option.bind_none]

theorem Source.events_eq (hc : isNameStart c = true)
    (h : source.toOctets = Utf8.encode ('<' :: c :: cs))
    {events : List Event} (hread : readPart ('<' :: c :: cs) = (events, none)) :
    source.events = events := by
  cases source with
  | text s =>
    have hs : s.toList = '<' :: c :: cs := Text.Utf8.encode_injective h
    rw [Source.events, hs, hread]
  | octets bs =>
    have hbs : bs = Utf8.encode ('<' :: c :: cs) := h
    obtain ⟨b, rest, hoctets, -, hquestion⟩ := Encoding.exists_encode_eq hc cs
    have hreplace : ∀ fuel, Encoding.replaceFaults (fuel + 1) bs = '<' :: c :: cs := by
      intro fuel
      rw [Encoding.replaceFaults, hbs, Text.Utf8.decode_encode]
    have hsalvage : Encoding.salvageUnnamed bs = events := by
      rw [Encoding.salvageUnnamed]
      simp only [hreplace, hread]
    have hnamed : Encoding.named? bs = none := by
      rw [hbs, hoctets, Encoding.named?_eq_none hquestion]
    rw [hbs, hoctets] at hnamed hsalvage ⊢
    rw [Source.events]
    · simp only [hnamed, hsalvage]
    all_goals simp

/-! ## What is read of a draft -/

private theorem before_eq (w : Writing) (isThorough : Bool) (cs : List Char) :
    Reader.before w isThorough ('<' :: cs) = (Reader.initial w isThorough 0, '<' :: cs) := rfl

variable {h : Hand} {n : LocalName} {attributes : Draft.Attributes} {content : List Draft}

private theorem exists_written_eq (h : Hand) (n : LocalName) (attributes : Draft.Attributes)
    (content : List Draft) :
    ∃ cs, (Draft.element n attributes content).written h = '<' :: n.first :: cs := by
  rw [Draft.written, LocalName.chars]
  exact ⟨_, rfl⟩

/-- The check of a draft finds no fault. -/
theorem Draft.check_eq_ok
    (hsource : source.toOctets = Utf8.encode ((element n attributes content).written h))
    (name : Option String) : ∃ events, Document.check source name = .ok events := by
  obtain ⟨r, hrun, hm, -⟩ := Reader.run_written h n attributes content false
  obtain ⟨cs, hwritten⟩ := exists_written_eq h n attributes content
  rw [hwritten] at hsource hrun
  have hcheck := source.forCheck_eq n.isNameStart_first hsource
  have hread : Decoded.read ⟨⟨0, []⟩, '<' :: n.first :: cs, .octets, .complete⟩
      = .ok r.events.reverse := by
    have hclose : r.finish .complete = .ok r.events.reverse := by
      simp only [Reader.finish, Reader.close, hm, if_true, Bool.false_eq_true, if_false]
    simp only [Decoded.read, before_eq, hrun, hclose]
  refine ⟨r.events.reverse, ?_⟩
  simp only [Document.check, hcheck, hread]

/-- The tree of a draft is built from the events of its tags, and from texts. -/
theorem Draft.events_of_source
    (hsource : source.toOctets = Utf8.encode ((element n attributes content).written h)) :
    source.events.filter Event.isTag = (element n attributes content).events := by
  obtain ⟨r, hrun, -, hevents⟩ := Reader.run_written h n attributes content true
  obtain ⟨cs, hwritten⟩ := exists_written_eq h n attributes content
  rw [hwritten] at hsource hrun
  have hread : readPart ('<' :: n.first :: cs) = (r.events.reverse, none) := by
    simp only [readPart, before_eq, hrun]
  rw [source.events_eq n.isNameStart_first hsource hread, hevents]

end VectorLint.Markup
