import VectorLint.Proofs.Number.Written
import VectorLint.Proofs.Value.Strings

/-!
# Values are read as they are written

A value that JSON has is read from its indented text as the same value: with the same kinds of
numbers, the same characters in every text, and the same fields in the same order. The values that
JSON has are built from what it writes in one way only, and their brackets nest no deeper than the
reader goes.
-/

namespace VectorLint

open Json

/-- Whether a value is one that JSON has: its whole numbers are not too long, its fractions are as
rounding makes them, the names in an object differ, and at most `depth` brackets nest. -/
inductive Value.IsJson : ℕ → Value → Prop
  | null {depth} : IsJson depth .null
  | bool {depth} (b : Bool) : IsJson depth (.bool b)
  | int {depth} {i : ℤ} (h : (Nat.toDigits 10 i.natAbs).length ≤ maxDigits) : IsJson depth (.int i)
  | float {depth} {x : Binary64} (h : x.IsRounded) : IsJson depth (.float x)
  | text {depth} (s : String) : IsJson depth (.text s)
  | list {depth} {items : List Value} (h : ∀ v ∈ items, IsJson depth v) :
    IsJson (depth + 1) (.list items)
  | object {depth} {fields : List (String × Value)} (hnames : (fields.map (·.1)).Nodup)
    (h : ∀ f ∈ fields, IsJson depth f.2) : IsJson (depth + 1) (.object fields)

/-- With more room a value is one that JSON has all the more. -/
theorem Value.IsJson.mono {depth depth' : ℕ} {v : Value} (h : v.IsJson depth)
    (hle : depth ≤ depth') : v.IsJson depth' := by
  induction h generalizing depth' with
  | null => exact .null
  | bool b => exact .bool b
  | int h => exact .int h
  | float h => exact .float h
  | text s => exact .text s
  | list _ ih =>
    obtain ⟨d, rfl⟩ : ∃ d, depth' = d + 1 := ⟨depth' - 1, by omega⟩
    exact .list fun v hv ↦ ih v hv (by omega)
  | object hnames _ ih =>
    obtain ⟨d, rfl⟩ : ∃ d, depth' = d + 1 := ⟨depth' - 1, by omega⟩
    exact .object hnames fun f hf ↦ ih f hf (by omega)

namespace Json

variable {fuel depth : ℕ} {cs more rest : List Char}

/-! ## The reader step by step -/

theorem value_list_nil : value (fuel + 1) (depth + 1) ('[' :: ']' :: rest) = .ok (.list [], rest) :=
  rfl

theorem value_object_nil :
    value (fuel + 1) (depth + 1) ('\x7b' :: '\x7d' :: rest) = .ok (.object [], rest) := rfl

theorem value_list {vs : List Value} (hitems : items fuel depth (skipSpace cs) = .ok (vs, rest))
    (hne : ∀ more, skipSpace cs ≠ ']' :: more) :
    value (fuel + 1) (depth + 1) ('[' :: cs) = .ok (.list vs, rest) := by
  rw [value.eq_def]
  simp only
  rw [hitems]
  rfl

theorem value_object {fs : List (String × Value)}
    (hfields : fields fuel depth [] (skipSpace cs) = .ok (fs, rest))
    (hne : ∀ more, skipSpace cs ≠ '\x7d' :: more) :
    value (fuel + 1) (depth + 1) ('\x7b' :: cs) = .ok (.object fs, rest) := by
  rw [value.eq_def]
  simp only
  rw [hfields]
  rfl

theorem items_last {v : Value} (hvalue : value fuel depth cs = .ok (v, more))
    (hmore : skipSpace more = ']' :: rest) : items (fuel + 1) depth cs = .ok ([v], rest) := by
  simp only [items, hvalue, hmore, bind, Except.bind]

theorem items_cons {v : Value} {vs : List Value} {next : List Char}
    (hvalue : value fuel depth cs = .ok (v, more)) (hmore : skipSpace more = ',' :: next)
    (hnext : items fuel depth (skipSpace next) = .ok (vs, rest)) :
    items (fuel + 1) depth cs = .ok (v :: vs, rest) := by
  simp only [items, hvalue, hmore, hnext, bind, Except.bind, Except.map]

theorem exists_jsonString (name : String) (rest : List Char) :
    ∃ text, (Value.jsonString name).toList ++ rest = '"' :: text
      ∧ ∀ unread, stringRest unread 0 text = .ok (name.toList, rest) := by
  refine ⟨name.toList.flatMap Value.jsonChar ++ '"' :: rest, ?_,
    fun unread ↦ stringRest_flatMap_jsonChar unread _ _⟩
  simp [Value.jsonString]

section

variable {name : String} {v : Value} {read : List (String × Value)}

theorem fields_last (hvalue : value fuel depth (skipSpace cs) = .ok (v, more))
    (hmore : skipSpace more = '\x7d' :: rest) :
    fields (fuel + 1) depth read ((Value.jsonString name).toList ++ ':' :: cs)
      = .ok (Fields.put name v read, rest) := by
  obtain ⟨text, htext, hread⟩ := exists_jsonString name (':' :: cs)
  have hcolon : skipSpace (':' :: cs) = ':' :: cs := rfl
  rw [htext]
  simp only [fields, hread, hcolon, hvalue, hmore, bind, Except.bind, String.ofList_toList]

theorem fields_cons {fs : List (String × Value)} {next : List Char}
    (hvalue : value fuel depth (skipSpace cs) = .ok (v, more))
    (hmore : skipSpace more = ',' :: next)
    (hnext : fields fuel depth (Fields.put name v read) (skipSpace next) = .ok (fs, rest)) :
    fields (fuel + 1) depth read ((Value.jsonString name).toList ++ ':' :: cs)
      = .ok (fs, rest) := by
  obtain ⟨text, htext, hread⟩ := exists_jsonString name (':' :: cs)
  have hcolon : skipSpace (':' :: cs) = ':' :: cs := rfl
  rw [htext]
  simp only [fields, hread, hcolon, hvalue, hmore, hnext, bind, Except.bind, String.ofList_toList]

theorem put_eq_append (h : name ∉ read.map (·.1)) :
    Fields.put name v read = read ++ [(name, v)] := by
  induction read with
  | nil => rfl
  | cons f read ih =>
    rw [List.map_cons, List.mem_cons, not_or] at h
    rw [Fields.put, if_neg (Ne.symm h.1), ih h.2, List.cons_append]

end

/-! ## The layout -/

/-- A line break with blanks, in characters. -/
def lineStart (level : ℕ) : List Char := (Value.Layout.indented.newLine level).toList

theorem lineStart_eq (level : ℕ) : lineStart level = '\n' :: List.replicate (2 * level) ' ' := by
  simp [lineStart, Value.Layout.newLine]

theorem skipSpace_lineStart (level : ℕ) (cs : List Char) :
    skipSpace (lineStart level ++ cs) = skipSpace cs := by
  rw [skipSpace, skipSpace, List.dropWhile_append_of_pos]
  intro c hc
  rw [lineStart_eq, List.mem_cons] at hc
  rcases hc with rfl | hc
  · rfl
  · rw [List.eq_of_mem_replicate hc]
    rfl

theorem ends_lineStart (level : ℕ) (cs : List Char) : Ends (lineStart level ++ cs) := by
  intro c hc
  rw [lineStart_eq] at hc
  exact .inr (Option.some.inj hc).symm

theorem ends_comma (cs : List Char) : Ends (',' :: cs) := fun _ hc ↦ .inl (Option.some.inj hc).symm

theorem skipSpace_comma (cs : List Char) : skipSpace (',' :: cs) = ',' :: cs := rfl

/-- Items in their lines. -/
def joined (level : ℕ) (texts : List String) : List Char :=
  (',' :: lineStart level).intercalate (texts.map String.toList)

theorem joined_singleton (level : ℕ) (text : String) : joined level [text] = text.toList :=
  List.intercalate_singleton

theorem joined_cons_cons (level : ℕ) (text text' : String) (texts : List String) :
    joined level (text :: text' :: texts)
      = text.toList ++ ',' :: (lineStart level ++ joined level (text' :: texts)) := by
  simp [joined, List.intercalate_cons_cons]

theorem toList_bracketed_nil (level : ℕ) (left right : String) :
    (Value.Layout.indented.bracketed level left right []).toList = left.toList ++ right.toList :=
  String.toList_append

theorem toList_bracketed_cons (level : ℕ) (left right text : String) (texts : List String) :
    (Value.Layout.indented.bracketed level left right (text :: texts)).toList
      = left.toList ++ (lineStart (level + 1) ++ (joined (level + 1) (text :: texts)
        ++ (lineStart level ++ right.toList))) := by
  simp [Value.Layout.bracketed, Value.Layout.separator, joined, lineStart,
    String.toList_intercalate]

/-! ## Reading what is written -/

/-- Whether a value is read from what is written for it, at every level of indentation and with as
much fuel as there are characters. -/
def ReadsAs (depth : ℕ) (v : Value) : Prop :=
  ∀ level fuel rest, Ends rest → (v.jsonAt .indented level).toList.length ≤ fuel →
    value fuel depth ((v.jsonAt .indented level).toList ++ rest) = .ok (v, rest)

theorem value_eq_broken {c : Char} (h : isSpace c = true ∨ c = ']' ∨ c = '\ufeff') :
    value fuel depth (c :: cs) = broken .value (c :: cs) := by
  cases fuel with
  | zero => rfl
  | succ fuel =>
    simp only [isSpace, Bool.or_eq_true, beq_iff_eq] at h
    rcases h with (((rfl | rfl) | rfl) | rfl) | rfl | rfl <;> rfl

theorem skipSpace_of_value {p : Value × List Char} (h : value fuel depth cs = .ok p) :
    skipSpace cs = cs ∧ ∀ more, cs ≠ ']' :: more := by
  constructor
  · cases cs with
    | nil => rfl
    | cons c cs =>
      rw [skipSpace, List.dropWhile_cons_of_neg]
      intro hspace
      rw [value_eq_broken (.inl hspace)] at h
      cases h
  · rintro more rfl
    rw [value_eq_broken (.inr (.inl rfl))] at h
    cases h

theorem value_skipSpace {p : Value × List Char} (h : value fuel depth cs = .ok p) :
    value fuel depth (skipSpace (' ' :: cs)) = .ok p := by
  have hspace : skipSpace (' ' :: cs) = skipSpace cs := rfl
  rwa [hspace, (skipSpace_of_value h).1]

theorem skipSpace_of_items {p : List Value × List Char} (h : items fuel depth cs = .ok p) :
    skipSpace cs = cs ∧ ∀ more, cs ≠ ']' :: more := by
  cases fuel with
  | zero => cases h
  | succ fuel =>
    cases hvalue : value fuel depth cs with
    | error fault =>
      simp only [items, hvalue, bind, Except.bind, reduceCtorEq] at h
    | ok p => exact skipSpace_of_value hvalue

variable {level : ℕ}

theorem items_joined {v : Value} {vs : List Value} (h : ∀ w ∈ v :: vs, ReadsAs depth w)
    (hfuel : (joined (level + 1) (Value.jsonItems .indented (level + 1) (v :: vs))).length < fuel)
    (rest : List Char) :
    items fuel depth (joined (level + 1) (Value.jsonItems .indented (level + 1) (v :: vs))
      ++ (lineStart level ++ ']' :: rest)) = .ok (v :: vs, rest) := by
  induction vs generalizing v fuel with
  | nil =>
    rw [Value.jsonItems, Value.jsonItems, joined_singleton] at hfuel ⊢
    obtain ⟨fuel, rfl⟩ : ∃ k, fuel = k + 1 := ⟨fuel - 1, by omega⟩
    refine items_last (h v List.mem_cons_self _ _ _ (ends_lineStart _ _) (by omega)) ?_
    rw [skipSpace_lineStart]
    rfl
  | cons w vs ih =>
    rw [Value.jsonItems, Value.jsonItems, joined_cons_cons] at hfuel ⊢
    rw [← Value.jsonItems] at hfuel ⊢
    rw [List.length_append, List.length_cons, List.length_append] at hfuel
    obtain ⟨fuel, rfl⟩ : ∃ k, fuel = k + 1 := ⟨fuel - 1, by omega⟩
    have hbehind : (joined (level + 1)
        (Value.jsonItems .indented (level + 1) (w :: vs))).length < fuel := by omega
    have hnext := ih (fun u hu ↦ h u (List.mem_cons_of_mem v hu)) hbehind
    simp only [List.append_assoc, List.cons_append]
    refine items_cons (h v List.mem_cons_self _ _ _ (ends_comma _) (by omega))
      (skipSpace_comma _) ?_
    rwa [skipSpace_lineStart, (skipSpace_of_items hnext).1]

theorem readsAs_list {vs : List Value} (h : ∀ v ∈ vs, ReadsAs depth v) :
    ReadsAs (depth + 1) (.list vs) := by
  intro level fuel rest _ hfuel
  cases vs with
  | nil =>
    have htext : (Value.jsonAt .indented level (.list [])).toList = ['[', ']'] := by
      rw [Value.jsonAt, Value.jsonItems, toList_bracketed_nil]
      rfl
    rw [htext] at hfuel ⊢
    obtain ⟨fuel, rfl⟩ := Nat.exists_eq_add_one.mpr (Nat.lt_of_lt_of_le Nat.two_pos hfuel)
    exact value_list_nil
  | cons v vs =>
    have htext : (Value.jsonAt .indented level (.list (v :: vs))).toList
        = '[' :: (lineStart (level + 1) ++ (joined (level + 1)
          (Value.jsonItems .indented (level + 1) (v :: vs)) ++ (lineStart level ++ [']']))) := by
      rw [Value.jsonAt, Value.jsonItems, toList_bracketed_cons]
      rfl
    rw [htext] at hfuel ⊢
    simp only [List.length_cons, List.length_append] at hfuel
    obtain ⟨fuel, rfl⟩ := Nat.exists_eq_add_one.mpr (show 0 < fuel by omega)
    have hinside : (joined (level + 1)
        (Value.jsonItems .indented (level + 1) (v :: vs))).length < fuel := by omega
    have hitems := items_joined h hinside rest
    obtain ⟨hspace, hclose⟩ := skipSpace_of_items hitems
    simp only [List.cons_append, List.append_assoc, List.nil_append]
    refine value_list ?_ ?_
    all_goals rw [skipSpace_lineStart, hspace]
    · exact hitems
    · exact hclose

theorem skipSpace_jsonString (name : String) (cs : List Char) :
    skipSpace ((Value.jsonString name).toList ++ cs) = (Value.jsonString name).toList ++ cs
      ∧ ∀ more, (Value.jsonString name).toList ++ cs ≠ '\x7d' :: more := by
  obtain ⟨text, htext, -⟩ := exists_jsonString name cs
  rw [htext]
  exact ⟨rfl, fun more h ↦ absurd (List.cons.inj h).1 (by decide)⟩

theorem joined_jsonFields_singleton (level : ℕ) (name : String) (v : Value) :
    joined level (Value.jsonFields .indented level [(name, v)])
      = (Value.jsonString name).toList ++ ':' :: ' ' :: (v.jsonAt .indented level).toList := by
  rw [Value.jsonFields, Value.jsonFields, joined_singleton]
  simp

theorem joined_jsonFields_cons (level : ℕ) (name : String) (v : Value) (f : String × Value)
    (fs : List (String × Value)) :
    joined level (Value.jsonFields .indented level ((name, v) :: f :: fs))
      = (Value.jsonString name).toList ++ ':' :: ' ' :: ((v.jsonAt .indented level).toList
        ++ ',' :: (lineStart level
          ++ joined level (Value.jsonFields .indented level (f :: fs)))) := by
  obtain ⟨name', v'⟩ := f
  rw [Value.jsonFields, Value.jsonFields, joined_cons_cons]
  simp

theorem skipSpace_jsonFields (level : ℕ) (name : String) (v : Value) (fs : List (String × Value))
    (cs : List Char) :
    skipSpace (joined level (Value.jsonFields .indented level ((name, v) :: fs)) ++ cs)
        = joined level (Value.jsonFields .indented level ((name, v) :: fs)) ++ cs
      ∧ ∀ more, joined level (Value.jsonFields .indented level ((name, v) :: fs)) ++ cs
        ≠ '\x7d' :: more := by
  cases fs with
  | nil =>
    rw [joined_jsonFields_singleton, List.append_assoc]
    exact skipSpace_jsonString name _
  | cons f fs =>
    rw [joined_jsonFields_cons, List.append_assoc]
    exact skipSpace_jsonString name _

theorem put_eq_append_of_nodup {name : String} {v : Value} {read fs : List (String × Value)}
    (hnames : ((read ++ (name, v) :: fs).map (·.1)).Nodup) :
    Fields.put name v read = read ++ [(name, v)] := by
  refine put_eq_append fun hmem ↦ ?_
  rw [List.map_append, List.nodup_append] at hnames
  exact hnames.2.2 name hmem name List.mem_cons_self rfl

theorem fields_joined {name : String} {v : Value} {fs : List (String × Value)}
    (h : ∀ f ∈ (name, v) :: fs, ReadsAs depth f.2) (read : List (String × Value))
    (hnames : ((read ++ (name, v) :: fs).map (·.1)).Nodup)
    (hfuel : (joined (level + 1)
      (Value.jsonFields .indented (level + 1) ((name, v) :: fs))).length < fuel)
    (rest : List Char) :
    fields fuel depth read
        (joined (level + 1) (Value.jsonFields .indented (level + 1) ((name, v) :: fs))
          ++ (lineStart level ++ '\x7d' :: rest)) = .ok (read ++ (name, v) :: fs, rest) := by
  induction fs generalizing name v read fuel with
  | nil =>
    have hv : ReadsAs depth v := h _ List.mem_cons_self
    rw [joined_jsonFields_singleton] at hfuel ⊢
    simp only [List.length_append, List.length_cons] at hfuel
    simp only [List.append_assoc, List.cons_append]
    obtain ⟨fuel, rfl⟩ := Nat.exists_eq_add_one.mpr (Nat.zero_lt_of_lt hfuel)
    have hvalue := hv (level + 1) fuel _ (ends_lineStart level ('\x7d' :: rest)) (by omega)
    rw [← put_eq_append_of_nodup hnames]
    refine fields_last (value_skipSpace hvalue) ?_
    rw [skipSpace_lineStart]
    rfl
  | cons f fs ih =>
    obtain ⟨name', v'⟩ := f
    have hv : ReadsAs depth v := h _ List.mem_cons_self
    rw [joined_jsonFields_cons] at hfuel ⊢
    simp only [List.length_append, List.length_cons] at hfuel
    simp only [List.append_assoc, List.cons_append]
    obtain ⟨fuel, rfl⟩ := Nat.exists_eq_add_one.mpr (Nat.zero_lt_of_lt hfuel)
    have hvalue := fun next ↦ hv (level + 1) fuel _ (ends_comma next) (by omega)
    have hput := put_eq_append_of_nodup (v := v) hnames
    rw [List.append_cons read] at hnames ⊢
    have hbehind : (joined (level + 1)
        (Value.jsonFields .indented (level + 1) ((name', v') :: fs))).length < fuel := by omega
    have hnext := ih (fun g hg ↦ h g (List.mem_cons_of_mem _ hg)) _ hnames hbehind
    refine fields_cons (value_skipSpace (hvalue _)) (skipSpace_comma _) ?_
    rwa [skipSpace_lineStart, (skipSpace_jsonFields _ _ _ _ _).1, hput]

theorem readsAs_object {fs : List (String × Value)} (hnames : (fs.map (·.1)).Nodup)
    (h : ∀ f ∈ fs, ReadsAs depth f.2) : ReadsAs (depth + 1) (.object fs) := by
  intro level fuel rest _ hfuel
  cases fs with
  | nil =>
    have htext : (Value.jsonAt .indented level (.object [])).toList = ['\x7b', '\x7d'] := by
      rw [Value.jsonAt, Value.jsonFields, toList_bracketed_nil]
      rfl
    rw [htext] at hfuel ⊢
    obtain ⟨fuel, rfl⟩ := Nat.exists_eq_add_one.mpr (Nat.lt_of_lt_of_le Nat.two_pos hfuel)
    exact value_object_nil
  | cons f fs =>
    obtain ⟨name, v⟩ := f
    have htext : (Value.jsonAt .indented level (.object ((name, v) :: fs))).toList
        = '\x7b' :: (lineStart (level + 1) ++ (joined (level + 1)
          (Value.jsonFields .indented (level + 1) ((name, v) :: fs))
            ++ (lineStart level ++ ['\x7d']))) := by
      rw [Value.jsonAt, Value.jsonFields, toList_bracketed_cons]
      rfl
    rw [htext] at hfuel ⊢
    simp only [List.length_cons, List.length_append] at hfuel
    obtain ⟨fuel, rfl⟩ := Nat.exists_eq_add_one.mpr (show 0 < fuel by omega)
    have hinside : (joined (level + 1)
        (Value.jsonFields .indented (level + 1) ((name, v) :: fs))).length < fuel := by omega
    have hfields := fields_joined h [] hnames hinside rest
    obtain ⟨hspace, hclose⟩ := skipSpace_jsonFields (level + 1) name v fs
      (lineStart level ++ '\x7d' :: rest)
    simp only [List.cons_append, List.append_assoc, List.nil_append]
    refine value_object ?_ ?_
    all_goals rw [skipSpace_lineStart, hspace]
    · exact hfields
    · exact hclose

theorem exists_numeral_int (i : ℤ) (h : (Nat.toDigits 10 i.natAbs).length ≤ maxDigits) :
    ∃ (n : Numeral) (negative : Bool), n.IsValid ∧ n.text negative = (toString i).toList
      ∧ n.value negative = .int i := by
  refine ⟨⟨Nat.toDigits 10 i.natAbs, [], false, []⟩, decide (i < 0), ⟨Nat.toDigits_ne_nil,
    areDigits_toDigits _, fun hzero ↦ ?_, by simp [AreDigits], by simp [AreDigits], fun _ _ ↦ h⟩,
    ?_, ?_⟩
  · rcases Nat.eq_zero_or_pos i.natAbs with hnil | hpos
    · rw [hnil]
      rfl
    · exact absurd hzero (head?_toDigits hpos)
  · simp only [Numeral.text, Numeral.fractionText, Numeral.exponentText, if_true, List.append_nil,
      decide_eq_true_eq]
    cases i with
    | ofNat k =>
      have htext : toString (Int.ofNat k) = k.repr := rfl
      rw [htext, Nat.toList_repr, if_neg (by simp)]
      rfl
    | negSucc k =>
      have htext : toString (Int.negSucc k) = "-" ++ (k + 1).repr := rfl
      rw [htext, String.toList_append, Nat.toList_repr, if_pos (Int.negSucc_lt_zero k)]
      rfl
  · simp only [Numeral.value, and_self, if_true, decimalValue_toDigits, decide_eq_true_eq]
    congr 1
    split <;> omega

theorem readsAs_of_fuel {v : Value} (h : ∀ level fuel rest, Ends rest →
    value (fuel + 1) depth ((v.jsonAt .indented level).toList ++ rest) = .ok (v, rest)) :
    ReadsAs depth v := by
  intro level fuel rest hrest hfuel
  cases fuel with
  | zero =>
    have hnil := List.length_eq_zero_iff.mp (Nat.le_zero.mp hfuel)
    have hread := h level 0 ['\n'] fun c hc ↦ .inr (Option.some.inj hc).symm
    rw [hnil] at hread
    cases hread
  | succ fuel => exact h level fuel rest hrest

/-- **A value is read as it is written**, and what follows it is left. -/
theorem readsAs_of_isJson {v : Value} (h : v.IsJson depth) : ReadsAs depth v := by
  induction h with
  | list _ ih => exact readsAs_list ih
  | object hnames _ ih => exact readsAs_object hnames ih
  | int h =>
    obtain ⟨n, negative, hn, htext, hvalue⟩ := exists_numeral_int _ h
    refine readsAs_of_fuel fun level fuel rest hrest ↦ ?_
    rw [Value.jsonAt, ← htext, Numeral.value_text hn hrest, hvalue]
  | float h =>
    refine readsAs_of_fuel fun level fuel rest hrest ↦ ?_
    rw [Value.jsonAt, Binary64.value_written h hrest]
  | text s =>
    refine readsAs_of_fuel fun level fuel rest hrest ↦ ?_
    obtain ⟨text, htext, hread⟩ := exists_jsonString s rest
    rw [Value.jsonAt, htext, value.eq_def]
    simp only [hread, Except.map, String.ofList_toList]
  | bool b =>
    refine readsAs_of_fuel fun level fuel rest hrest ↦ ?_
    rw [Value.jsonAt]
    cases b <;> rfl
  | null =>
    refine readsAs_of_fuel fun level fuel rest hrest ↦ ?_
    rw [Value.jsonAt]
    rfl

end Json

/-- **Reading what is written gives the value back.** -/
theorem Value.read_indentedJson {depth : ℕ} {v : Value} (h : v.IsJson depth) :
    Json.read depth (v.indentedJson ++ "\n").toList = .ok v := by
  have htext : (v.indentedJson ++ "\n").toList = (v.jsonAt .indented 0).toList ++ ['\n'] :=
    String.toList_append
  have hvalue := readsAs_of_isJson h 0
    (2 * ((v.jsonAt .indented 0).toList ++ ['\n']).length + 2) ['\n'] (ends_lineStart 0 []) (by
      rw [List.length_append]
      omega)
  rw [htext, Json.read.eq_def]
  split
  · rename_i more heq
    rw [heq, value_eq_broken (.inr (.inr rfl))] at hvalue
    cases hvalue
  · simp only [(skipSpace_of_value hvalue).1, hvalue, bind, Except.bind]
    rfl

end VectorLint
