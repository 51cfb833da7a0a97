import VectorLint.CommandLine.Results
import VectorLint.Proofs.Terminal.Escape

/-!
# Text in a color

The program marks text with a few colors only, and each of them is a style in its canonical form. So
whatever escaped text stands between a tag of such a color and the one that closes it, the marked
text can be read, and the styles that it asks for are there.
-/

namespace VectorLint

/-! ## Names of colors -/

theorem Text.pieces_append (separator : Char) (cs ds : List Char) :
    pieces separator (cs ++ separator :: ds) = pieces separator cs ++ pieces separator ds := by
  induction cs with
  | nil =>
    cases h : pieces separator ds with
    | nil => exact absurd h (pieces_ne_nil separator ds)
    | cons piece rest => simp [pieces, h]
  | cons c cs ih =>
    cases h : pieces separator cs with
    | nil => exact absurd h (pieces_ne_nil separator cs)
    | cons piece rest =>
      rw [List.cons_append, pieces, pieces, ih, h]
      simp only [List.cons_append]
      split <;> rfl

namespace Terminal

theorem wordsOf_append {a : String} {cs : List Char} (ha : a.toList = cs ++ [' ']) (b : String) :
    wordsOf (a ++ b) = wordsOf (String.ofList cs) ++ wordsOf b := by
  rw [wordsOf, String.toList_append, ha, List.append_assoc, List.singleton_append, List.map_append,
    List.map_cons, ite_self, Text.pieces_append, List.filter_append, List.map_append,
    wordsOf, String.toList_ofList, wordsOf]

/-- The colors that the program marks text with. -/
def usedColors : List String := ["red", "green", "yellow", "white"]

variable {color : String}

theorem isColor_of_mem (h : color ∈ usedColors) : isColor color = .ok true := by
  -- the evaluation of the whole list of names would be too much, so it is parted at the first break
  let first := "black red green yellow blue magenta cyan white bright_black bright_red bright_green"
  have hbreak :
      "black red green yellow blue magenta cyan white bright_black bright_red bright_green ".toList
        = first.toList ++ [' '] := by
    decide +kernel
  have hfirst : ∀ color ∈ usedColors, color ∈ wordsOf (String.ofList first.toList) := by
    decide +kernel
  have hnamed : colorNames.contains color = true := by
    rw [colorNames]
    simp only [String.append_assoc]
    rw [wordsOf_append hbreak, List.contains_eq_mem, decide_eq_true_eq]
    exact List.mem_append_left _ (hfirst color h)
  simp only [isColor, hnamed, Bool.or_true, Bool.true_or, if_true]

theorem canonicalText_of_mem (h : color ∈ usedColors) :
    Style.canonicalText color = .ok color := by
  have hwords : ∀ color ∈ usedColors, wordsOf color = [color] ∧ Text.lowercase color = color ∧
      attribute? color = none ∧ color ≠ "on" ∧ color ≠ "not" ∧ color ≠ "link" ∧
      String.ofList ((color.toList.dropWhile Text.isBlank).reverse.dropWhile
        Text.isBlank).reverse ≠ "none" := by
    decide +kernel
  obtain ⟨hword, hsmall, hattribute, hon, hnot, hlink, hnone⟩ := hwords color h
  have hstyle : Style.ofWords? {} [color] = .ok (some { color := some color }) := by
    rw [Style.ofWords?.eq_def]
    simp only [hsmall]
    split
    · exact absurd ‹_› hon
    · rename_i heq
      cases heq
    · exact absurd ‹_› hnot
    · rename_i heq
      cases heq
    · exact absurd ‹_› hlink
    · rename_i heq
      cases heq
    · simp only [hattribute, isColor_of_mem h]
      rfl
  have hcanonical : Style.canonical { color := some color } = color := rfl
  simp only [Style.canonicalText, hword, hstyle, if_neg hnone, bind, Except.bind, hcanonical]
  rfl

/-! ## Marked text in a color -/

namespace Markup

theorem readParts_tag {body : List Char} (h : body.head? ≠ some '/') (length : Nat)
    (opened : List OpenTag) (parts : List Part) :
    readParts length opened (.tag body :: parts)
      = (OpenTag.ofBody length body).bind fun t ↦ readParts length (t :: opened) parts := by
  rw [readParts]
  · rfl
  · rintro body' rfl
    exact h rfl

theorem readParts_open (h : color ∈ usedColors) (length : Nat) (opened : List OpenTag)
    (parts : List Part) :
    readParts length opened (.tag color.toList :: parts)
      = readParts length (⟨color, none, length⟩ :: opened) parts := by
  have hbody : ∀ color ∈ usedColors, color.toList.head? ≠ some '/' ∧
      tagName color.toList = color ∧ color.toList.dropWhile (· ≠ '=') = [] := by decide +kernel
  obtain ⟨hhead, hname, hvalue⟩ := hbody color h
  have hopen : OpenTag.ofBody length color.toList = .ok ⟨color, none, length⟩ := by
    simp only [OpenTag.ofBody, hname, hvalue, canonicalText_of_mem h]
    rfl
  rw [readParts_tag hhead, hopen]
  rfl

theorem readParts_close (h : color ∈ usedColors) (length start : Nat) (opened : List OpenTag)
    (parts : List Part) :
    readParts length (⟨color, none, start⟩ :: opened) (.tag ('/' :: color.toList) :: parts)
      = (readParts length opened parts).map fun (text, stretches) ↦
        (text, ⟨start, length, color⟩ :: stretches) := by
  have hbody : ∀ color ∈ usedColors, color.toList.head? ≠ some '@' ∧
      tagName color.toList = color ∧ Text.isBlankText color = false := by decide +kernel
  obtain ⟨hhead, hname, hblank⟩ := hbody color h
  have hclose : OpenTag.close ⟨color, none, start⟩ length = .ok [⟨start, length, color⟩] := by
    simp [OpenTag.close, OpenTag.isAction, hhead, OpenTag.stretch]
  rw [readParts]
  simp only [hname, hblank, canonicalText_of_mem h, bind, Except.bind, List.find?_cons_of_pos,
    hclose, decide_true, List.eraseP_cons_of_pos, Bool.false_eq_true, if_false]
  cases readParts length opened parts <;> rfl

/-- Text between a tag of a color and the one that closes it, and text behind. -/
theorem read_of_tokens (h : color ∈ usedColors) {s : String} {ts us : List Token}
    (hts : ∀ t ∈ ts, t.isPlain = true) (hus : ∀ t ∈ us, t.isPlain = true)
    (hs : tokens s.toList = .tag 0 color.toList :: (ts ++ .tag 0 ('/' :: color.toList) :: us)) :
    read s = .ok (shownTokens ts ++ shownTokens us, [⟨0, (shownTokens ts).length, color⟩]) := by
  have hparts : partsBehind [] (tokens s.toList) = .tag color.toList ::
      (partsBehind [] ts ++ .tag ('/' :: color.toList) :: (partsBehind [] us ++ [])) := by
    simp [hs, partsBehind, partsBehind_append_tag, tagParts]
  rw [read, hparts, readParts_open h, readParts_partsBehind hts, readParts_close h,
    readParts_partsBehind hus, readParts]
  simp [Except.map]

end Markup

end Terminal

namespace CommandLine

open Terminal (usedColors Markup.tokens Markup.Token)

/-- Marked text with one stretch in a color is printed without its marks. -/
theorem printMarked_of_read {color s : String} (h : color ∈ usedColors) {cs : List Char}
    {stop : Nat} (hread : Terminal.Markup.read s = .ok (cs, [⟨0, stop, color⟩])) :
    printMarked s = .lines (Terminal.setText terminalWidth .folded cs) := by
  have hstyles : ∀ isWhole, Terminal.Markup.stylesHold cs isWhole [⟨0, stop, color⟩] = .ok () := by
    intro isWhole
    simp only [Terminal.Markup.stylesHold, List.forM_eq_forM, List.forM_cons, List.forM_nil,
      Terminal.canonicalText_of_mem h]
    split <;> rfl
  simp only [printMarked, hread, bind, Except.bind, hstyles]
  rfl

theorem printMarked_of_tokens {color s : String} (h : color ∈ usedColors)
    (ts us : List Markup.Token) (hts : ∀ t ∈ ts, t.isPlain = true)
    (hus : ∀ t ∈ us, t.isPlain = true)
    (hs : Markup.tokens s.toList
      = .tag 0 color.toList :: (ts ++ .tag 0 ('/' :: color.toList) :: us)) :
    (printMarked s).failure = none := by
  rw [printMarked_of_read h (Terminal.Markup.read_of_tokens h hts hus hs)]
  rfl

end CommandLine

end VectorLint
