import VectorLint.Markup.Salvage
import VectorLint.Proofs.Markup.Lockstep
import VectorLint.Proofs.Text.Utf8

/-!
# Markup that is read alike

The check and the reading for the tree find out on their own which characters they are to read. The
check looks at the first two octets, and holds the declaration to what it saw there; the other
reading looks for a byte order mark and for an encoding that is named in the first line. So the two
may read different characters, and what they find then is different. Where they read the same
characters, where these count alike in names and where the prolog is harmless, they find the same.

In UTF-8 the check sees the characters that were written, unless there are zeros among the first
two, which look like UTF-16.
-/

namespace VectorLint.Markup

open Doctype (IsHarmless)
open Text (Utf8.decode Utf8.decodeFrom Utf8.continuationCount Utf8.isSecond Utf8.isTail)

/-! ## The two readings -/

/-- The characters from which the tree of markup is built, if they are read without a fault. -/
def Source.salvaged : Source → List Char
  | .text s => s.toList
  | .octets bs =>
    match bs with
    | 0xFE :: 0xFF :: rest => Encoding.salvageUtf16 true rest
    | 0xFF :: 0xFE :: rest => Encoding.salvageUtf16 false rest
    | 0xEF :: 0xBB :: 0xBF :: _ => Encoding.replaceFaults (bs.length + 1) bs
    | _ =>
      match Encoding.named? bs with
      | some read => Encoding.salvageCharset read bs
      | none => Encoding.replaceFaults (bs.length + 1) bs

section

variable {bs : List UInt8} (hbig : ∀ rest, bs ≠ 0xFE :: 0xFF :: rest)
  (hlittle : ∀ rest, bs ≠ 0xFF :: 0xFE :: rest) (hmark : ∀ rest, bs ≠ 0xEF :: 0xBB :: 0xBF :: rest)

include hbig hlittle hmark

theorem Source.salvaged_octets : (Source.octets bs).salvaged
    = ((Encoding.named? bs).map fun read ↦ Encoding.salvageCharset read bs).getD
      (Encoding.replaceFaults (bs.length + 1) bs) := by
  unfold salvaged
  simp only
  cases Encoding.named? bs <;> rfl

theorem Source.events_octets : (Source.octets bs).events
    = ((Encoding.named? bs).map fun read ↦ (readPart (Encoding.salvageCharset read bs)).1).getD
      (Encoding.salvageUnnamed bs) := by
  unfold Source.events
  simp only
  cases Encoding.named? bs <;> rfl

end

theorem Source.events_of_readPart {source : Source} {events : List Event}
    (h : readPart source.salvaged = (events, none)) : source.events = events := by
  have hunnamed {bs : List UInt8}
      (h : readPart (Encoding.replaceFaults (bs.length + 1) bs) = (events, none)) :
      Encoding.salvageUnnamed bs = events := by
    simp only [Encoding.salvageUnnamed, h]
  cases source with
  | text s => exact congrArg Prod.fst h
  | octets bs =>
    by_cases hbig : ∃ rest, bs = 0xFE :: 0xFF :: rest
    · obtain ⟨rest, rfl⟩ := hbig
      exact congrArg Prod.fst h
    by_cases hlittle : ∃ rest, bs = 0xFF :: 0xFE :: rest
    · obtain ⟨rest, rfl⟩ := hlittle
      exact congrArg Prod.fst h
    by_cases hmark : ∃ rest, bs = 0xEF :: 0xBB :: 0xBF :: rest
    · obtain ⟨rest, rfl⟩ := hmark
      exact hunnamed h
    rw [not_exists] at hbig hlittle hmark
    rw [salvaged_octets hbig hlittle hmark] at h
    rw [events_octets hbig hlittle hmark]
    cases hnamed : Encoding.named? bs with
    | some read =>
      rw [hnamed] at h
      exact congrArg Prod.fst h
    | none =>
      rw [hnamed] at h
      exact hunnamed h

/-- Whether the check, which reads `text`, and the reading for the tree read markup alike. -/
structure Source.IsReadAlike (source : Source) (text : Decoded) : Prop where
  chars : unmarked source.salvaged = unmarked text.chars
  letterSigns : text.writing.hasLetterSigns = true → ∀ c ∈ Writing.letterSigns, c ∉ text.chars
  isHarmless : IsHarmless text.prolog

instance (source : Source) (text : Decoded) : Decidable (source.IsReadAlike text) :=
  decidable_of_iff (unmarked source.salvaged = unmarked text.chars
    ∧ (text.writing.hasLetterSigns = true →
      (Writing.letterSigns.all fun c ↦ !text.chars.contains c) = true)
    ∧ IsHarmless text.prolog)
    ⟨fun ⟨h, h', h''⟩ ↦ ⟨h, fun hw c hc ↦ by simpa using List.all_eq_true.mp (h' hw) c hc, h''⟩,
      fun ⟨h, h', h''⟩ ↦ ⟨h, fun hw ↦ List.all_eq_true.mpr fun c hc ↦ by simpa using h' hw c hc,
        h''⟩⟩

/-- **The tree is built from what the check has read**, where both read alike. -/
theorem Source.events_of_read {source : Source} {text : Decoded} {events : List Event}
    (halike : source.IsReadAlike text) (h : text.read = .ok events) : source.events = events := by
  refine source.events_of_readPart (readPart_of_read h (fun c hc ↦ ?_) halike.isHarmless
    halike.chars)
  exact Writing.isUsual_of_notMem fun hw hsign ↦ halike.letterSigns hw c hsign hc

/-! ## UTF-8 -/

namespace Encoding

variable {b : UInt8} {bs : List UInt8} {cs : List Char}

theorem zero_of_decode (h : Utf8.decode bs = (cs, none)) (hzero : 0 ∈ bs.take 2) :
    (∃ rest, cs = '\x00' :: rest)
      ∨ ∃ n < 128, ∃ rest, cs = Char.ofNat n :: '\x00' :: rest := by
  rcases bs with _ | ⟨b, bs⟩
  · cases hzero
  rw [Utf8.decode] at h
  unfold Utf8.decodeFrom at h
  by_cases hb : b = 0
  · rw [hb] at h
    simp at h
    exact .inl ⟨_, h.1.symm⟩
  · obtain ⟨bs, rfl⟩ : ∃ bs', bs = 0 :: bs' := by
      rcases List.mem_cons.mp hzero with h | h
      · exact absurd h.symm hb
      · cases bs with
        | nil => cases h
        | cons b' bs => exact ⟨bs, by rw [List.mem_singleton.mp h]⟩
    -- no character goes on with a zero, so the first octet is a character alone
    have hsecond : Utf8.isSecond b 0 = false := by
      simp [Utf8.isSecond, Utf8.isTail]
    simp only at h
    split at h
    · rename_i hsmall
      unfold Utf8.decodeFrom at h
      simp at h
      exact .inr ⟨b.toNat, UInt8.lt_iff_toNat_lt.mp hsmall, _, h.1.symm⟩
    · split at h <;> simp_all

theorem lt_of_decode (h : Utf8.decode (b :: bs) = (cs, none)) : b < 0xF5 := by
  rw [Utf8.decode] at h
  unfold Utf8.decodeFrom at h
  by_contra hb
  simp only [UInt8.lt_iff_toNat_lt, UInt8.reduceToNat] at hb
  have hcount : Utf8.continuationCount b = none := by
    rw [Text.Utf8.continuationCount_eq]
    repeat rw [if_neg (by omega)]
  have hlarge : ¬ b < 0x80 := by
    simp only [UInt8.lt_iff_toNat_lt, UInt8.reduceToNat]
    omega
  simp [if_neg hlarge, hcount] at h

theorem ofOctets_eq_of_decode (h : Utf8.decode bs = (cs, none)) (hzero : 0 ∉ bs.take 2) :
    ofOctets bs = .utf8 ∧ isUndecided bs = false := by
  rcases bs with _ | ⟨b, bs⟩
  · exact ⟨rfl, rfl⟩
  have hb : b ≠ 0 := by
    rintro rfl
    exact hzero List.mem_cons_self
  have hhead : bs.head? ≠ some 0 := by
    intro hhead
    cases bs <;> simp_all
  have hlt := lt_of_decode h
  constructor
  · unfold ofOctets
    split <;> simp_all
  · refine Bool.eq_false_iff.mpr fun hundecided ↦ ?_
    have hcut : Utf8.decode [0xEF] ≠ (cs, none) ∧ Utf8.decode [0xEF, 0xBB] ≠ (cs, none) :=
      ⟨fun h ↦ (by decide : (Utf8.decode [0xEF]).2 ≠ none) (congrArg Prod.snd h),
        fun h ↦ (by decide : (Utf8.decode [0xEF, 0xBB]).2 ≠ none) (congrArg Prod.snd h)⟩
    simp only [isUndecided, List.contains_iff_mem, List.mem_cons, List.not_mem_nil, or_false,
      List.cons.injEq] at hundecided
    -- what may still become a mark or a wide character is no UTF-8, or has a zero
    rcases hundecided with ⟨rfl, -⟩ | ⟨rfl, -⟩ | ⟨rfl, -⟩ | ⟨rfl, rfl⟩ | ⟨rfl, rfl⟩
    · exact hb rfl
    · exact absurd hlt (by decide)
    · exact absurd hlt (by decide)
    · exact hcut.1 h
    · exact hcut.2 h

theorem replaceFaults_of_decode (h : Utf8.decode bs = (cs, none)) (fuel : Nat) :
    replaceFaults (fuel + 1) bs = cs := by
  rw [replaceFaults, h]

end Encoding

variable {source : Source} {text : Decoded} {cs : List Char}

theorem Source.seen_eq_of_notMem (h : Utf8.decode source.toOctets = (cs, none))
    (hzero : 0 ∉ source.toOctets.take 2) : source.seen = ⟨⟨0, []⟩, cs, .octets, .complete⟩ := by
  obtain ⟨hencoding, hundecided⟩ := Encoding.ofOctets_eq_of_decode h hzero
  have hdecode : Encoding.decodeUtf8 source.toOctets = ⟨cs, .complete⟩ := by
    rw [Encoding.decodeUtf8, h]
  simp only [seen, hencoding, hundecided, Bool.false_eq_true, if_false, Encoding.decode, hdecode,
    Encoding.writing]

/-- Markup in UTF-8 is seen as it was written. -/
theorem Source.seen_eq_of_decode (h : Utf8.decode source.toOctets = (cs, none))
    (hzero : '\x00' ∉ cs.take 2) : source.seen = ⟨⟨0, []⟩, cs, .octets, .complete⟩ := by
  refine source.seen_eq_of_notMem h fun hmem ↦ hzero ?_
  rcases Encoding.zero_of_decode h hmem with ⟨rest, rfl⟩ | ⟨n, -, rest, rfl⟩
  · exact List.mem_cons_self
  · exact List.mem_cons_of_mem _ List.mem_cons_self

end VectorLint.Markup
