import Mathlib.Data.List.TakeWhile
import VectorLint.Terminal.Markup

/-!
# Escaped text among marked text

Escaped text has no live tags: each tag in it stands behind an odd number of backslashes. What makes
this true is that escaping moves no tag. A tag stays where it is, with more backslashes before it,
and nothing that was no tag becomes one, because what ends the search for a closing bracket is still
there. The text behind may not close a bracket that the escaped text leaves open, nor begin with a
tag that its backslashes would belong to.
-/

namespace VectorLint.Terminal.Markup

/-! ## Tags at the head of a text -/

/-- Whether a text holds a tag between its brackets. -/
def IsBody (body : List Char) : Prop := ∀ rest, tag? (bracketed body ++ rest) = some body

theorem eq_of_tagRest?_eq_some {cs body : List Char} (h : tagRest? cs = some body) :
    (∃ rest, cs = body ++ ']' :: rest) ∧ ∀ rest, tagRest? (body ++ ']' :: rest) = some body := by
  induction cs generalizing body with
  | nil => cases h
  | cons c cs ih =>
    rw [tagRest?] at h
    split at h
    · rename_i hc
      cases h
      exact ⟨⟨cs, by rw [hc, List.nil_append]⟩, fun _ ↦ rfl⟩
    · rename_i hclose
      split at h
      · cases h
      · rename_i hopen
        obtain ⟨body, hrest, rfl⟩ := Option.map_eq_some_iff.mp h
        obtain ⟨⟨rest, rfl⟩, hall⟩ := ih hrest
        refine ⟨⟨rest, rfl⟩, fun rest ↦ ?_⟩
        rw [List.cons_append, tagRest?, if_neg hclose, if_neg hopen, hall, Option.map_some]

theorem eq_of_tag?_eq_some {cs body : List Char} (h : tag? cs = some body) :
    IsBody body ∧ ∃ rest, cs = bracketed body ++ rest := by
  rw [tag?.eq_def] at h
  split at h
  · rename_i c cs
    split at h
    · rename_i hc
      obtain ⟨body, hrest, rfl⟩ := Option.map_eq_some_iff.mp h
      obtain ⟨⟨rest, rfl⟩, hall⟩ := eq_of_tagRest?_eq_some hrest
      refine ⟨fun rest ↦ ?_, rest, ?_⟩
      · have hbracketed : bracketed (c :: body) ++ rest = '[' :: c :: (body ++ ']' :: rest) := by
          simp [bracketed]
        rw [hbracketed, tag?, if_pos hc, hall, Option.map_some]
      · simp [bracketed]
    · cases h
  · cases h

/-! ## Tokens one by one -/

/-- A text without the backslashes at its head. -/
def afterBackslashes (cs : List Char) : List Char := cs.dropWhile (· = '\\')

theorem drop_length_takeWhile {α : Type} (p : α → Bool) (l : List α) :
    l.drop (l.takeWhile p).length = l.dropWhile p := by
  conv => enter [1, 2]; rw [← List.takeWhile_append_dropWhile (p := p) (l := l)]
  rw [List.drop_left]

theorem tokensFrom_eq_drop (skip : Nat) (cs : List Char) :
    tokensFrom skip cs = tokens (cs.drop skip) := by
  induction cs generalizing skip with
  | nil => rw [List.drop_nil]; cases skip <;> rfl
  | cons c cs ih =>
    cases skip with
    | zero => rfl
    | succ skip => rw [tokensFrom, ih, List.drop_succ_cons]

theorem tokens_cons_of_tag?_eq_none {c : Char} {cs : List Char}
    (h : tag? (afterBackslashes (c :: cs)) = none) : tokens (c :: cs) = .char c :: tokens cs := by
  rw [tokens, tokensFrom, drop_length_takeWhile, ← afterBackslashes, h]
  rfl

theorem tokens_tag {body : List Char} (h : IsBody body) (backslashes : Nat) (rest : List Char) :
    tokens (List.replicate backslashes '\\' ++ bracketed body ++ rest)
      = .tag backslashes body :: tokens rest := by
  have hrun : (List.replicate backslashes '\\' ++ bracketed body ++ rest).takeWhile (· = '\\')
      = List.replicate backslashes '\\' := by
    rw [List.append_assoc, List.takeWhile_append_of_pos fun c hc ↦ by
      simpa using List.eq_of_mem_replicate hc]
    have hhead : (bracketed body ++ rest).takeWhile (· = '\\') = [] :=
      List.takeWhile_cons_of_neg (by decide)
    rw [hhead, List.append_nil]
  have hlength : (List.replicate backslashes '\\' ++ bracketed body).length
      = backslashes + body.length + 1 + 1 := by
    simp [bracketed, Nat.add_assoc]
  cases hall : List.replicate backslashes '\\' ++ bracketed body ++ rest with
  | nil => cases backslashes <;> cases hall
  | cons c cs =>
    have htail : cs.drop (backslashes + body.length + 1) = rest := by
      have hdrop := congrArg (List.drop (backslashes + body.length + 1 + 1)) hall
      rw [List.drop_left' hlength, List.drop_succ_cons] at hdrop
      exact hdrop.symm
    have htag : tag? ((c :: cs).drop backslashes) = some body := by
      rw [← hall, List.append_assoc, List.drop_left' List.length_replicate, h]
    rw [hall] at hrun
    rw [tokens, tokensFrom, hrun]
    simp only [List.length_replicate, htag, tokensFrom_eq_drop, htail]

theorem token_induction {motive : List Char → Prop} (nil : motive [])
    (char : ∀ c cs, tag? (afterBackslashes (c :: cs)) = none → motive cs → motive (c :: cs))
    (tag : ∀ backslashes body rest, IsBody body → motive rest →
      motive (List.replicate backslashes '\\' ++ bracketed body ++ rest)) (cs : List Char) :
    motive cs := by
  induction hn : cs.length using Nat.strongRecOn generalizing cs with
  | ind n ih =>
    subst hn
    cases cs with
    | nil => exact nil
    | cons c cs =>
      cases h : tag? (afterBackslashes (c :: cs)) with
      | none => exact char c cs h (ih _ (Nat.lt_succ_self _) cs rfl)
      | some body =>
        obtain ⟨hbody, rest, hrest⟩ := eq_of_tag?_eq_some h
        have hrun : (c :: cs).takeWhile (· = '\\')
            = List.replicate ((c :: cs).takeWhile (· = '\\')).length '\\' :=
          List.eq_replicate_of_mem fun d hd ↦ by simpa using List.mem_takeWhile_imp hd
        have hall : c :: cs = List.replicate ((c :: cs).takeWhile (· = '\\')).length '\\'
            ++ bracketed body ++ rest := by
          rw [← hrun, List.append_assoc, ← hrest]
          exact List.takeWhile_append_dropWhile.symm
        have hlt : rest.length < (c :: cs).length := by
          rw [hall]
          simp [bracketed]
          omega
        rw [hall]
        exact tag _ body rest hbody (ih _ hlt rest rfl)

/-! ## Escaping -/

/-- A text with its tags escaped. -/
def escapedChars (cs : List Char) : List Char := (tokens cs).flatMap Token.escaped

/-- A token as it comes out of an escaped text. -/
def Token.shielded : Token → Token
  | char c => char c
  | tag backslashes body => tag (2 * backslashes + 1) body

/-- Whether a text neither closes a bracket nor begins with a tag. -/
def Separates (cs : List Char) : Prop :=
  tagRest? cs = none ∧ tag? (afterBackslashes cs) = none

theorem separates_nil : Separates [] := ⟨rfl, rfl⟩

variable {c : Char} {cs tail body : List Char}

theorem escapedChars_cons (h : tag? (afterBackslashes (c :: cs)) = none) :
    escapedChars (c :: cs) = c :: escapedChars cs := by
  rw [escapedChars, tokens_cons_of_tag?_eq_none h]
  rfl

theorem escapedChars_tag (h : IsBody body) (backslashes : Nat) (rest : List Char) :
    escapedChars (List.replicate backslashes '\\' ++ bracketed body ++ rest)
      = List.replicate (2 * backslashes + 1) '\\' ++ bracketed body ++ escapedChars rest := by
  rw [escapedChars, tokens_tag h]
  rfl

theorem tagRest?_replicate_append (n : Nat) (body rest : List Char) :
    tagRest? (List.replicate n '\\' ++ bracketed body ++ rest) = none := by
  induction n with
  | zero => rfl
  | succ n ih =>
    rw [List.replicate_succ, List.cons_append, List.cons_append, tagRest?, if_neg (by decide),
      if_neg (by decide), ih, Option.map_none]

theorem tagRest?_escapedChars (h : tagRest? cs = none) (htail : tagRest? tail = none) :
    tagRest? (escapedChars cs ++ tail) = none := by
  induction cs using token_induction with
  | nil => exact htail
  | char c cs hnone ih =>
    rw [escapedChars_cons hnone, List.cons_append]
    rw [tagRest?] at h ⊢
    split at h
    · cases h
    · rw [if_neg ‹_›]
      split at h
      · rw [if_pos ‹_›]
      · rw [if_neg ‹_›, ih (Option.map_eq_none_iff.mp h), Option.map_none]
  | tag backslashes body rest hbody ih =>
    rw [escapedChars_tag hbody, List.append_assoc]
    exact tagRest?_replicate_append _ body _

theorem tag?_bracket_eq_none (h : tagRest? cs = none) : tag? ('[' :: cs) = none := by
  cases cs with
  | nil => rfl
  | cons c cs =>
    rw [tagRest?] at h
    rw [tag?]
    split at h
    · cases h
    · split at h
      · rw [if_neg (by simp [*, isTagStart])]
      · rw [Option.map_eq_none_iff.mp h, Option.map_none, ite_self]

theorem tag?_bracket_escapedChars (h : tag? ('[' :: cs) = none) (htail : tagRest? tail = none) :
    tag? ('[' :: (escapedChars cs ++ tail)) = none := by
  induction cs using token_induction with
  | nil => exact tag?_bracket_eq_none htail
  | char c cs hnone _ =>
    rw [escapedChars_cons hnone, List.cons_append]
    rw [tag?] at h ⊢
    split at h
    · rw [if_pos ‹_›, tagRest?_escapedChars (Option.map_eq_none_iff.mp h) htail, Option.map_none]
    · rw [if_neg ‹_›]
  | tag backslashes body rest hbody _ =>
    rw [escapedChars_tag hbody, List.replicate_succ]
    rfl

theorem tag?_escapedChars (h : tag? (afterBackslashes cs) = none) (htail : Separates tail) :
    tag? (afterBackslashes (escapedChars cs ++ tail)) = none := by
  induction cs using token_induction with
  | nil => exact htail.2
  | char c cs hnone ih =>
    rw [escapedChars_cons hnone, List.cons_append]
    -- a backslash belongs to the tag behind it, if there is one; anything else begins none with it
    by_cases hc : c = '\\'
    · have hskip : ∀ ds, afterBackslashes (c :: ds) = afterBackslashes ds := fun ds ↦
        List.dropWhile_cons_of_pos (by simp [hc])
      rw [hskip] at h ⊢
      exact ih h
    · have hkeep : ∀ ds, afterBackslashes (c :: ds) = c :: ds := fun ds ↦
        List.dropWhile_cons_of_neg (by simp [hc])
      rw [hkeep] at h ⊢
      by_cases hbracket : c = '['
      · rw [hbracket] at h ⊢
        exact tag?_bracket_escapedChars h htail.1
      · rw [tag?.eq_def]
        split
        · rename_i heq
          exact absurd (List.cons.inj heq).1 hbracket
        · rfl
  | tag backslashes body rest hbody _ =>
    have hhead : afterBackslashes (List.replicate backslashes '\\' ++ bracketed body ++ rest)
        = bracketed body ++ rest := by
      rw [afterBackslashes, List.append_assoc, List.dropWhile_append_of_pos fun c hc ↦ by
        simpa using List.eq_of_mem_replicate hc]
      rfl
    rw [hhead, hbody] at h
    cases h

/-- **Escaping moves no tag**: the tokens of an escaped text are those of the text, with an odd
number of backslashes before each tag. -/
theorem tokens_escapedChars_append (cs : List Char) (htail : Separates tail) :
    tokens (escapedChars cs ++ tail) = (tokens cs).map Token.shielded ++ tokens tail := by
  induction cs using token_induction with
  | nil => rfl
  | char c cs hnone ih =>
    have hescaped := tag?_escapedChars hnone htail
    rw [escapedChars_cons hnone, List.cons_append] at hescaped ⊢
    rw [tokens_cons_of_tag?_eq_none hescaped, ih, tokens_cons_of_tag?_eq_none hnone]
    rfl
  | tag backslashes body rest hbody ih =>
    rw [escapedChars_tag hbody, List.append_assoc, tokens_tag hbody, ih, tokens_tag hbody]
    rfl

/-- Whether a token stands for text. -/
def Token.isPlain : Token → Bool
  | char _ => true
  | tag backslashes _ => backslashes % 2 = 1

theorem Token.isPlain_shielded (t : Token) : t.shielded.isPlain = true := by
  cases t with
  | char c => rfl
  | tag backslashes body =>
    rw [shielded, isPlain, decide_eq_true_eq]
    omega

/-- A token as it is written. -/
def Token.written : Token → List Char
  | char c => [c]
  | tag backslashes body => List.replicate backslashes '\\' ++ bracketed body

theorem flatMap_written_tokens (cs : List Char) : (tokens cs).flatMap Token.written = cs := by
  induction cs using token_induction with
  | nil => rfl
  | char c cs hnone ih =>
    rw [tokens_cons_of_tag?_eq_none hnone, List.flatMap_cons, ih]
    rfl
  | tag backslashes body rest hbody ih =>
    rw [tokens_tag hbody, List.flatMap_cons, ih]
    rfl

/-! ## The end of a text -/

/-- Whether a text ends with a backslash behind another character, or is one. -/
def EndsAlone (cs : List Char) : Prop :=
  cs.getLast? = some '\\' ∧ cs.dropLast.getLast? ≠ some '\\'

instance (cs : List Char) : Decidable (EndsAlone cs) := inferInstanceAs (Decidable (_ ∧ _))

/-- What escaping adds to the end of a text. -/
def ending (cs : List Char) : List Char := if EndsAlone cs then ['\\'] else []

theorem getLast?_append_bracketed (cs body : List Char) :
    (cs ++ bracketed body).getLast? = some ']' := by
  rw [bracketed, ← List.append_assoc, List.getLast?_concat]

theorem getLast?_flatMap_escaped (ts : List Token) :
    (ts.flatMap Token.escaped).getLast? = (ts.flatMap Token.written).getLast? := by
  rcases List.eq_nil_or_concat ts with rfl | ⟨ts, t, rfl⟩
  · rfl
  · cases t with
    | char c => simp [Token.escaped, Token.written]
    | tag backslashes body =>
      simp only [List.concat_eq_append, List.flatMap_append, List.flatMap_singleton, Token.escaped,
        Token.written, ← List.append_assoc, getLast?_append_bracketed]

theorem endsAlone_flatMap_escaped (ts : List Token) :
    EndsAlone (ts.flatMap Token.escaped) ↔ EndsAlone (ts.flatMap Token.written) := by
  rcases List.eq_nil_or_concat ts with rfl | ⟨ts, t, rfl⟩
  · exact Iff.rfl
  · cases t with
    | char c =>
      simp [EndsAlone, Token.escaped, Token.written, getLast?_flatMap_escaped]
    | tag backslashes body =>
      have hnot (cs : List Char) : ¬EndsAlone (cs ++ bracketed body) := by
        rintro ⟨hlast, -⟩
        rw [getLast?_append_bracketed] at hlast
        cases hlast
      simp only [List.concat_eq_append, List.flatMap_append, List.flatMap_singleton, Token.escaped,
        Token.written, ← List.append_assoc, hnot]

theorem toList_escape (s : String) :
    (escape s).toList = escapedChars s.toList ++ ending s.toList := by
  have hends : EndsAlone (escapedChars s.toList) ↔ EndsAlone s.toList := by
    rw [escapedChars, endsAlone_flatMap_escaped, flatMap_written_tokens]
  rw [escape, String.toList_ofList, ← escapedChars, ending, ← if_congr hends rfl rfl]
  by_cases h : EndsAlone (escapedChars s.toList)
  · rw [if_pos h, if_pos (by simpa [EndsAlone] using h)]
  · rw [if_neg h, if_neg (by simpa [EndsAlone] using h), List.append_nil]

theorem eq_backslash_of_mem_ending {cs : List Char} {c : Char} (h : c ∈ ending cs) : c = '\\' := by
  rw [ending] at h
  split at h
  · exact List.mem_singleton.mp h
  · cases h

/-! ## Escaped text before other text -/

/-- The tokens of an escaped text. -/
def escapedTokens (s : String) : List Token :=
  (tokens s.toList ++ (ending s.toList).map Token.char).map Token.shielded

theorem isPlain_of_mem_escapedTokens {s : String} {t : Token} (h : t ∈ escapedTokens s) :
    t.isPlain = true := by
  obtain ⟨t, -, rfl⟩ := List.mem_map.mp h
  exact t.isPlain_shielded

theorem Separates.backslash (h : Separates tail) : Separates ('\\' :: tail) := by
  refine ⟨?_, h.2⟩
  rw [tagRest?, if_neg (by decide), if_neg (by decide), h.1, Option.map_none]

/-- **An escaped text before separate text** has tokens of its own. -/
theorem tokens_escape (s : String) (htail : Separates tail) :
    tokens ((escape s).toList ++ tail) = escapedTokens s ++ tokens tail := by
  rw [toList_escape, ending, escapedTokens, ending]
  split
  · rw [List.append_assoc, List.singleton_append, tokens_escapedChars_append _ htail.backslash,
      tokens_cons_of_tag?_eq_none htail.backslash.2, List.map_append, List.append_assoc]
    rfl
  · rw [List.append_nil, tokens_escapedChars_append _ htail, List.map_nil, List.append_nil]

/-- An escaped text stands for text, whatever separate text is behind it. -/
theorem tokens_escape_append (s : String) (htail : Separates tail) :
    ∃ ts : List Token, (∀ t ∈ ts, t.isPlain = true) ∧
      tokens ((escape s).toList ++ tail) = ts ++ tokens tail :=
  ⟨escapedTokens s, fun _ ↦ isPlain_of_mem_escapedTokens, tokens_escape s htail⟩

/-! ## Reading -/

/-- Whether a part is text. -/
def Part.isText : Part → Bool
  | text _ => true
  | tag _ => false

theorem Part.isText_of_mem_tagParts {backslashes : Nat} (h : backslashes % 2 = 1) {p : Part}
    (hp : p ∈ tagParts backslashes body) : p.isText = true := by
  rw [tagParts, if_pos h, List.mem_append, List.mem_singleton] at hp
  rcases hp with hp | rfl
  · split at hp
    · rw [List.mem_singleton] at hp
      rw [hp]
      rfl
    · cases hp
  · rfl

/-- The text that a part shows. -/
def Part.shown : Part → List Char
  | text cs => shownText cs
  | tag _ => []

/-- The text that tokens show, if they stand for text. -/
def shownTokens (ts : List Token) : List Char := (partsBehind [] ts).flatMap Part.shown

theorem readParts_of_isText {parts : List Part} (h : ∀ p ∈ parts, p.isText = true) (length : Nat)
    (opened : List OpenTag) (rest : List Part) :
    readParts length opened (parts ++ rest)
      = (readParts (length + (parts.flatMap Part.shown).length) opened rest).map
          fun (text, stretches) ↦ (parts.flatMap Part.shown ++ text, stretches) := by
  induction parts generalizing length with
  | nil =>
    simp only [List.nil_append, List.flatMap_nil, List.length_nil, Nat.add_zero]
    cases readParts length opened rest <;> rfl
  | cons p parts ih =>
    cases p with
    | text cs =>
      have hrest := ih (fun p hp ↦ h p (List.mem_cons_of_mem _ hp)) (length + (shownText cs).length)
      rw [List.cons_append, readParts, hrest, List.flatMap_cons, Part.shown, List.length_append,
        Nat.add_assoc]
      cases readParts (length + ((shownText cs).length + (parts.flatMap Part.shown).length)) opened
        rest with
      | error f => rfl
      | ok read => simp [Except.map, bind, Except.bind, pure, Except.pure]
    | tag body => cases h _ List.mem_cons_self

theorem partsBehind_append_tag (ts us : List Token) (backslashes : Nat) (body behind : List Char) :
    partsBehind behind (ts ++ .tag backslashes body :: us)
      = partsBehind behind ts ++ tagParts backslashes body ++ partsBehind [] us := by
  induction ts generalizing behind with
  | nil => rfl
  | cons t ts ih =>
    cases t with
    | char c => exact ih (c :: behind)
    | tag backslashes' body' => simp only [List.cons_append, partsBehind, ih, List.append_assoc]

theorem isText_of_mem_partsBehind {ts : List Token} (hts : ∀ t ∈ ts, t.isPlain = true)
    {behind : List Char} {p : Part} (hp : p ∈ partsBehind behind ts) : p.isText = true := by
  induction ts generalizing behind with
  | nil =>
    rw [partsBehind] at hp
    split at hp
    · cases hp
    · rw [List.mem_singleton.mp hp]
      rfl
  | cons t ts ih =>
    rw [List.forall_mem_cons] at hts
    cases t with
    | char c => exact ih hts.2 hp
    | tag backslashes body =>
      rw [partsBehind, List.mem_append, List.mem_append] at hp
      rcases hp with (hp | hp) | hp
      · split at hp
        · cases hp
        · rw [List.mem_singleton.mp hp]
          rfl
      · exact Part.isText_of_mem_tagParts (of_decide_eq_true hts.1) hp
      · exact ih hts.2 hp

theorem readParts_partsBehind {ts : List Token} (hts : ∀ t ∈ ts, t.isPlain = true) (length : Nat)
    (opened : List OpenTag) (rest : List Part) :
    readParts length opened (partsBehind [] ts ++ rest)
      = (readParts (length + (shownTokens ts).length) opened rest).map
          fun (text, stretches) ↦ (shownTokens ts ++ text, stretches) :=
  readParts_of_isText (fun _ hp ↦ isText_of_mem_partsBehind hts hp) length opened rest

theorem plain_of_tokens {s : String} (h : ∀ t ∈ tokens s.toList, t.isPlain = true) :
    plain s = .ok (shownTokens (tokens s.toList)) := by
  have hread := readParts_partsBehind h 0 [] []
  rw [List.append_nil] at hread
  rw [plain, read, hread, readParts]
  simp [Except.map]

/-- An escaped text can be read. -/
theorem exists_plain_escape (s : String) : ∃ cs, plain (escape s) = .ok cs := by
  have htokens := tokens_escape s separates_nil
  have hnil : tokens [] = [] := rfl
  rw [List.append_nil, hnil, List.append_nil] at htokens
  exact ⟨_, plain_of_tokens fun t ht ↦ isPlain_of_mem_escapedTokens (htokens ▸ ht)⟩

end VectorLint.Terminal.Markup
