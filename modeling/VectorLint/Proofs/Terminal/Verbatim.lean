import Mathlib.Data.List.Infix
import VectorLint.Proofs.Terminal.Colored

/-!
# Escaped text that shows as it is

An escaped text is read in segments: its tags, the backslashes before them, and the text in between.
Each segment shows text of its own, and what is shown is these texts one behind the other. Escaping
keeps the segments, so the question is what becomes of a segment. Three things can: a backslash is
dropped before a bracket that begins no tag; a name of an emoji between colons is replaced; and
characters that control the cursor are left out. Besides, a backslash that ends the
text alone is doubled, and nothing takes that back unless a tag follows.

If no emoji are named, then these are the only texts that do not show as they are. The first
backslash that is dropped leaves a bracket where the text has the backslash, so what comes behind
cannot make up for it.
-/

namespace VectorLint.Terminal

namespace Markup

/-! ## Segments -/

/-- The segments of tokens behind some characters, the last of them first. -/
def segmentsBehind (behind : List Char) : List Token → List (List Char)
  | [] => [behind.reverse]
  | .char c :: ts => segmentsBehind (c :: behind) ts
  | .tag backslashes body :: ts =>
    behind.reverse :: List.replicate backslashes '\\' :: bracketed body :: segmentsBehind [] ts

theorem flatten_segmentsBehind (behind : List Char) (ts : List Token) :
    (segmentsBehind behind ts).flatten = behind.reverse ++ ts.flatMap Token.written := by
  induction ts generalizing behind with
  | nil => simp [segmentsBehind]
  | cons t ts ih =>
    cases t with
    | char c => simp [segmentsBehind, ih, Token.written]
    | tag backslashes body => simp [segmentsBehind, ih, Token.written]

/-- **Escaping keeps the segments.** -/
theorem flatMap_shown_partsBehind (behind : List Char) (ts : List Token) :
    (partsBehind behind (ts.map Token.shielded)).flatMap Part.shown
      = (segmentsBehind behind ts).flatMap shownText := by
  have hlead (behind : List Char) : (if behind.isEmpty then [] else
      [Part.text behind.reverse]).flatMap Part.shown = shownText behind.reverse := by
    cases behind with
    | nil => rfl
    | cons c behind => simp [Part.shown]
  induction ts generalizing behind with
  | nil => rw [List.map_nil, partsBehind, hlead, segmentsBehind, List.flatMap_singleton]
  | cons t ts ih =>
    cases t with
    | char c => exact ih (c :: behind)
    | tag backslashes body =>
      -- half of the backslashes are left, and the last one makes the tag plain
      have hhalf : (2 * backslashes + 1) / 2 = backslashes := by omega
      have hodd : (2 * backslashes + 1) % 2 = 1 := by omega
      have htag : (tagParts (2 * backslashes + 1) body).flatMap Part.shown
          = shownText (List.replicate backslashes '\\') ++ shownText (bracketed body) := by
        rw [tagParts, if_pos hodd, hhalf, List.flatMap_append, List.flatMap_singleton]
        cases backslashes with
        | zero => rfl
        | succ n =>
          rw [if_pos (by omega), List.flatMap_singleton]
          rfl
      rw [List.map_cons, Token.shielded, partsBehind, List.flatMap_append, List.flatMap_append,
        hlead, htag, ih, segmentsBehind]
      simp only [List.flatMap_cons, List.append_assoc]

/-! ## What becomes of a segment -/

/-- Whether a text differs from another at first by having a bracket in place of a backslash. -/
def Departs (shown cs : List Char) : Prop :=
  ∃ before rest rest', shown = before ++ '[' :: rest ∧ cs = before ++ '\\' :: rest'

theorem Departs.append {shown cs : List Char} (h : Departs shown cs) (u v : List Char) :
    Departs (shown ++ u) (cs ++ v) := by
  obtain ⟨before, rest, rest', rfl, rfl⟩ := h
  exact ⟨before, rest ++ u, rest' ++ v, by simp, by simp⟩

theorem Departs.prepend {shown cs : List Char} (h : Departs shown cs) (u : List Char) :
    Departs (u ++ shown) (u ++ cs) := by
  obtain ⟨before, rest, rest', rfl, rfl⟩ := h
  exact ⟨u ++ before, rest, rest', by simp, by simp⟩

theorem not_departs_append {cs ending behind : List Char} (hbehind : '[' ∉ behind) :
    ¬Departs (cs ++ behind) (cs ++ (ending ++ behind)) := by
  rintro ⟨before, rest, rest', hshown, hwritten⟩
  rcases List.append_eq_append_iff.mp hshown with ⟨t, rfl, ht⟩ | ⟨t, rfl, ht⟩
  · exact hbehind (ht ▸ List.mem_append_right _ List.mem_cons_self)
  · cases t with
    | nil =>
      rw [List.nil_append] at ht
      exact hbehind (ht ▸ List.mem_cons_self)
    | cons c t =>
      rw [List.append_assoc, List.append_cancel_left_eq, List.cons_append] at hwritten
      rw [List.cons_append] at ht
      cases (List.cons.inj ht).1
      cases (List.cons.inj hwritten).1

theorem plainBrackets_cases (cs : List Char) :
    (¬['\\', '['] <:+: cs ∧ plainBrackets cs = cs)
      ∨ ['\\', '['] <:+: cs ∧ Departs (plainBrackets cs) cs := by
  induction cs using plainBrackets.induct with
  | case1 cs _ =>
    exact .inr ⟨⟨[], cs, rfl⟩, [], plainBrackets cs, '[' :: cs, rfl, rfl⟩
  | case2 c cs hne ih =>
    have hcons : plainBrackets (c :: cs) = c :: plainBrackets cs := by
      rw [plainBrackets]
      exact hne
    rw [hcons]
    rcases ih with ⟨hdropped, heq⟩ | ⟨hdropped, hdeparts⟩
    · refine .inl ⟨fun h ↦ ?_, by rw [heq]⟩
      rcases List.infix_cons_iff.mp h with ⟨rest, hrest⟩ | h
      · obtain ⟨rfl, hcs⟩ := List.cons.inj hrest
        exact hne rest rfl hcs.symm
      · exact hdropped h
    · exact .inr ⟨List.infix_cons hdropped, hdeparts.prepend [c]⟩
  | case3 => exact .inl ⟨by simp, rfl⟩

theorem mem_of_mem_plainBrackets {cs : List Char} {c : Char} (h : c ∈ plainBrackets cs) :
    c ∈ cs := by
  induction cs using plainBrackets.induct with
  | case1 cs ih =>
    rw [plainBrackets] at h
    rcases List.mem_cons.mp h with rfl | h
    · simp
    · simp [ih h]
  | case2 d cs hne ih =>
    rw [plainBrackets] at h
    · rcases List.mem_cons.mp h with rfl | h
      · exact List.mem_cons_self
      · exact List.mem_cons_of_mem _ (ih h)
    · exact hne
  | case3 => exact h

/-- Whether no name in a segment is taken for that of an emoji. -/
def NamesNoEmoji (segment : List Char) : Prop :=
  Emoji.replaced (plainBrackets segment) = plainBrackets segment

instance : DecidablePred NamesNoEmoji := fun _ ↦ inferInstanceAs (Decidable (_ = _))

theorem shownText_eq {segment : List Char} (hemoji : NamesNoEmoji segment)
    (hcontrol : ∀ c ∈ segment, isCursorControl c = false) :
    shownText segment = plainBrackets segment := by
  rw [shownText, hemoji, List.filter_eq_self]
  intro c hc
  rw [hcontrol c (mem_of_mem_plainBrackets hc)]
  rfl

theorem flatMap_plainBrackets_cases (segments : List (List Char)) :
    ((∀ p ∈ segments, ¬['\\', '['] <:+: p)
        ∧ segments.flatMap plainBrackets = segments.flatten)
      ∨ Departs (segments.flatMap plainBrackets) segments.flatten := by
  induction segments with
  | nil => exact .inl ⟨by simp, rfl⟩
  | cons p segments ih =>
    rw [List.flatMap_cons, List.flatten_cons]
    rcases plainBrackets_cases p with ⟨hp, heq⟩ | ⟨-, hdeparts⟩
    · rw [heq]
      rcases ih with ⟨hsegments, heq⟩ | hdeparts
      · exact .inl ⟨List.forall_mem_cons.mpr ⟨hp, hsegments⟩, by rw [heq]⟩
      · exact .inr (hdeparts.prepend p)
    · exact .inr (hdeparts.append _ _)

/-! ## Escaped text before other text -/

variable (s behind : String)

/-- The tokens of a text that is escaped and has other text behind it. -/
def tokensBefore : List Token :=
  tokens s.toList ++ (ending s.toList ++ behind.toList).map .char

/-- The segments of a text that is escaped and has other text behind it, which belongs to the last
one. -/
def segmentsBefore : List (List Char) := segmentsBehind [] (tokensBefore s behind)

/-- What is read of a text that is escaped and has other text behind it, and of that. -/
def shownBefore : List Char := (segmentsBefore s behind).flatMap shownText

/-- Whether a text shows as it is when it is escaped, apart from names of emoji: it holds no
characters that control the cursor, it does not end with a single backslash, and in no segment of it
a backslash stands before a bracket. -/
structure IsVerbatim : Prop where
  controls : ∀ c ∈ s.toList, isCursorControl c = false
  ending : ¬EndsAlone s.toList
  brackets : ∀ p ∈ segmentsBefore s behind, ¬['\\', '['] <:+: p

instance : Decidable (IsVerbatim s behind) :=
  decidable_of_iff (s.toList.all (fun c ↦ !isCursorControl c) = true ∧ ¬EndsAlone s.toList
      ∧ ∀ p ∈ segmentsBefore s behind, ¬['\\', '['] <:+: p)
    ⟨fun ⟨h, h', h''⟩ ↦ ⟨by simpa using h, h', h''⟩,
      fun ⟨h, h', h''⟩ ↦ ⟨by simpa using h, h', h''⟩⟩

variable {s behind}

theorem flatten_segmentsBefore : (segmentsBefore s behind).flatten
    = s.toList ++ (ending s.toList ++ behind.toList) := by
  have hchars (cs : List Char) : (cs.map Token.char).flatMap Token.written = cs := by
    rw [List.flatMap_map]
    exact List.flatMap_singleton' cs
  rw [segmentsBefore, flatten_segmentsBehind, tokensBefore, List.flatMap_append,
    flatMap_written_tokens, hchars, List.reverse_nil, List.nil_append]

theorem isCursorControl_of_mem_shown {segments : List (List Char)} {c : Char}
    (h : c ∈ segments.flatMap shownText) : isCursorControl c = false := by
  obtain ⟨p, -, hc⟩ := List.mem_flatMap.mp h
  rw [shownText, List.mem_filter] at hc
  simpa using hc.2

theorem flatMap_shownText_segmentsBefore (hbehind : ∀ c ∈ behind.toList, isCursorControl c = false)
    (hemoji : ∀ p ∈ segmentsBefore s behind, NamesNoEmoji p)
    (hcontrols : ∀ c ∈ s.toList, isCursorControl c = false) :
    (segmentsBefore s behind).flatMap shownText
      = (segmentsBefore s behind).flatMap plainBrackets := by
  refine List.flatMap_congr fun p hp ↦ shownText_eq (hemoji p hp) fun c hc ↦ ?_
  have hmem : c ∈ (segmentsBefore s behind).flatten := List.mem_flatten.mpr ⟨p, hp, hc⟩
  rw [flatten_segmentsBefore, List.mem_append, List.mem_append] at hmem
  rcases hmem with hmem | hmem | hmem
  · exact hcontrols c hmem
  · rw [eq_backslash_of_mem_ending hmem]
    rfl
  · exact hbehind c hmem

/-- **Verbatim.** If no emoji are named in it, an escaped text and what is behind it show as they
are exactly if the text is verbatim. -/
theorem shown_eq_iff_isVerbatim (hbracket : '[' ∉ behind.toList)
    (hbehind : ∀ c ∈ behind.toList, isCursorControl c = false)
    (hemoji : ∀ p ∈ segmentsBefore s behind, NamesNoEmoji p) :
    shownBefore s behind = s.toList ++ behind.toList ↔ IsVerbatim s behind := by
  rw [shownBefore]
  constructor
  · intro h
    have hcontrols : ∀ c ∈ s.toList, isCursorControl c = false := fun c hc ↦
      isCursorControl_of_mem_shown (h ▸ List.mem_append_left _ hc)
    rw [flatMap_shownText_segmentsBefore hbehind hemoji hcontrols] at h
    rcases flatMap_plainBrackets_cases (segmentsBefore s behind) with ⟨hbrackets, heq⟩ | hdeparts
    · refine ⟨hcontrols, fun halone ↦ ?_, hbrackets⟩
      rw [h, flatten_segmentsBefore, Markup.ending, if_pos halone] at heq
      have hlength := congrArg List.length heq
      simp at hlength
    · rw [h, flatten_segmentsBefore] at hdeparts
      exact absurd hdeparts (not_departs_append hbracket)
  · intro h
    rw [flatMap_shownText_segmentsBefore hbehind hemoji h.controls]
    have hsame : ∀ p ∈ segmentsBefore s behind, plainBrackets p = id p := by
      intro p hp
      rcases plainBrackets_cases p with ⟨-, heq⟩ | ⟨hdropped, -⟩
      · exact heq
      · exact absurd hdropped (h.brackets p hp)
    rw [List.flatMap_congr hsame, List.flatMap_id, flatten_segmentsBefore, Markup.ending,
      if_neg h.ending, List.nil_append]

theorem map_shielded_tokensBefore (s behind : String) :
    (tokensBefore s behind).map Token.shielded
      = escapedTokens s ++ behind.toList.map Token.char := by
  have hchars (cs : List Char) : (cs.map Token.char).map Token.shielded = cs.map Token.char := by
    rw [List.map_map]
    rfl
  rw [tokensBefore, escapedTokens, List.map_append, List.map_append, List.map_append,
    List.map_append, hchars, hchars, List.append_assoc]

theorem shownTokens_escapedTokens (s behind : String) :
    shownTokens (escapedTokens s ++ behind.toList.map Token.char) = shownBefore s behind := by
  rw [← map_shielded_tokensBefore]
  exact flatMap_shown_partsBehind [] _

/-- **An escaped text by itself.** -/
theorem plain_escape (s : String) : plain (escape s) = .ok (shownBefore s "") := by
  have htokens : tokens (escape s).toList = escapedTokens s ++ "".toList.map Token.char := by
    have hnil := tokens_escape s separates_nil
    rwa [List.append_nil] at hnil
  rw [plain_of_tokens fun t ht ↦ ?_, htokens, shownTokens_escapedTokens]
  rw [htokens] at ht
  exact isPlain_of_mem_escapedTokens (List.append_nil (escapedTokens s) ▸ ht)

end Markup

end VectorLint.Terminal
