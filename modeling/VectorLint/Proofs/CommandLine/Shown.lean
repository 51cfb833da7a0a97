import VectorLint.Proofs.Attempt
import VectorLint.Proofs.CommandLine.Formats
import VectorLint.Proofs.Terminal.Verbatim
import VectorLint.Run.Lint

/-!
# What is read in a table

The line of a run and the cells of its table are marked text, and what is read in them is the plain
text: the path with the state behind it, and for each finding the name of its rule, the severity,
the message and the location. Paths, names, messages and locations are escaped, so they can be any
text; they are read as they are exactly if they are verbatim, as long as no emoji are named in them.
-/

namespace VectorLint.CommandLine

open Terminal (usedColors)
open Terminal.Markup

/-- Whether some text is what is read of a text before another one: what their segments show, so
that no tag is a tag; and if they name no emoji, the two as they are exactly if the text is
verbatim. -/
def ReadsAs (s behind : String) (shown : List Char) : Prop :=
  shown = (segmentsBefore s behind).flatMap shownText
    ∧ ((∀ p ∈ segmentsBefore s behind, NamesNoEmoji p) →
      (shown = (s ++ behind).toList ↔ IsVerbatim s behind))

/-! ## The line of a run -/

/-- The line of a run, as marked text. -/
def statusLine (path : FilePath) (state : Run.State) : String :=
  colored (stateColor state) (escape path.shown ++ ": " ++ state.label)

theorem read_colored {color : String} (hcolor : color ∈ usedColors) (s behind : String)
    (hseparates : Separates (behind.toList ++ bracketed ('/' :: color.toList)))
    (hbehind : tokens (behind.toList ++ bracketed ('/' :: color.toList))
      = behind.toList.map Token.char ++ [.tag 0 ('/' :: color.toList)]) :
    read (colored color (escape s ++ behind))
      = .ok (shownBefore s behind, [⟨0, (shownBefore s behind).length, color⟩]) := by
  have htokens : tokens (colored color (escape s ++ behind)).toList = .tag 0 color.toList
      :: (escapedTokens s ++ behind.toList.map Token.char ++ [.tag 0 ('/' :: color.toList)]) := by
    have hopen := tokens_tag (isBody_of_mem hcolor) 0
      ((escape s).toList ++ (behind.toList ++ bracketed ('/' :: color.toList)))
    rw [tokens_escape s hseparates, hbehind] at hopen
    rw [List.append_assoc, ← hopen, toList_colored, String.toList_append, List.append_assoc]
    rfl
  have hplain : ∀ t ∈ escapedTokens s ++ behind.toList.map Token.char, t.isPlain = true := by
    refine List.forall_mem_append.mpr ⟨fun t ↦ isPlain_of_mem_escapedTokens, ?_⟩
    exact List.forall_mem_map.mpr fun c _ ↦ rfl
  have hnone : ∀ t ∈ ([] : List Token), t.isPlain = true := by simp
  have hread := read_of_tokens hcolor hplain hnone htokens
  have hnil : shownTokens [] = [] := rfl
  rwa [shownTokens_escapedTokens, hnil, List.append_nil] at hread

/-- **The line of a run** shows the path before the state. -/
theorem exists_read_statusLine (path : FilePath) (state : Run.State) : ∃ stop,
    read (statusLine path state)
      = .ok (shownBefore path.shown (": " ++ state.label), [⟨0, stop, stateColor state⟩]) := by
  have hcolor : stateColor state ∈ usedColors := by cases state <;> decide
  rw [statusLine, String.append_assoc]
  refine ⟨_, read_colored hcolor path.shown _ ?_ ?_⟩
  · cases state <;> exact ⟨by decide +kernel, by decide +kernel⟩
  · cases state <;> decide +kernel

theorem readsAs_shownBefore (s : String) {behind : String}
    (hbehind : behind.toList.all (fun c ↦ c ≠ '[' && !isCursorControl c) = true) :
    ReadsAs s behind (shownBefore s behind) := by
  simp only [List.all_eq_true, Bool.and_eq_true, decide_eq_true_eq, Bool.not_eq_true'] at hbehind
  refine ⟨rfl, fun hemoji ↦ ?_⟩
  rw [String.toList_append]
  exact shown_eq_iff_isVerbatim (fun h ↦ (hbehind _ h).1 rfl) (fun c hc ↦ (hbehind c hc).2) hemoji

/-! ## The cells of a finding -/

theorem readsAs_alone (s : String) : ReadsAs s "" (shownBefore s "") :=
  readsAs_shownBefore s rfl

/-- Whether a row of a table shows a finding: the name of its rule, its severity, its message, which
is a text, and its location, where what is missing is shown as an empty text. -/
def IsRow (d : Diagnostic) (row : List (List Char)) : Prop :=
  ∃ rule message location text, row = [rule, d.severity.label.toList, message, location]
    ∧ ReadsAs (d.rule.getD "") "" rule
    ∧ d.message = .text text ∧ ReadsAs text "" message
    ∧ ReadsAs (d.location.getD "") "" location

/-- The cells of a finding whose message is a text, as marked text. -/
def cellsOf (d : Diagnostic) : List String :=
  [escape (d.rule.getD ""), colored (severityColor d.severity) d.severity.label,
    escape (d.message.text?.getD ""), escape (d.location.getD "")]

/-- What is read in the cells of a finding whose message is a text. -/
def rowOf (d : Diagnostic) : List (List Char) :=
  [shownBefore (d.rule.getD "") "", d.severity.label.toList,
    shownBefore (d.message.text?.getD "") "", shownBefore (d.location.getD "") ""]

section Findings

variable {d : Diagnostic} {ds : List Diagnostic}

theorem markedCells_eq (h : ∃ text, d.message = .text text) : markedCells d = .ok (cellsOf d) := by
  obtain ⟨text, htext⟩ := h
  rw [markedCells, cellsOf, htext]
  rfl

theorem plain_cellsOf (d : Diagnostic) : (cellsOf d).mapM plain = .ok (rowOf d) := by
  refine Attempt.mapM_eq_ok_of_forall₂ ?_
  exact .cons (plain_escape _) (.cons (plain_severity _)
    (.cons (plain_escape _) (.cons (plain_escape _) .nil)))

theorem isRow_rowOf (h : ∃ text, d.message = .text text) : IsRow d (rowOf d) := by
  obtain ⟨text, htext⟩ := h
  refine ⟨_, _, _, text, rfl, readsAs_alone _, htext, ?_, readsAs_alone _⟩
  rw [htext]
  exact readsAs_alone text

/-- **The table** has a row for each finding, in their order. -/
theorem table_eq (h : ∀ d ∈ ds, ∃ text, d.message = .text text) :
    table ds = .ok ⟨titles.map String.toList, ds.map rowOf⟩ := by
  have hmarked : ds.mapM markedCells = .ok (ds.map cellsOf) :=
    Attempt.mapM_eq_ok fun d hd ↦ markedCells_eq (h d hd)
  have hrows : (ds.map cellsOf).mapM (fun cells ↦ cells.mapM plain) = .ok (ds.map rowOf) := by
    refine Attempt.mapM_eq_ok_of_forall₂ ?_
    rw [List.forall₂_map_left_iff, List.forall₂_map_right_iff, List.forall₂_same]
    exact fun d _ ↦ plain_cellsOf d
  simp only [table, bind, Except.bind, hmarked, hrows]
  rfl

end Findings

/-! ## Results -/

theorem Printed.lines_append_empty (ls : List (List Char)) : lines ls ++ {} = lines ls := by
  change append (lines ls) {} = lines ls
  simp [append, lines]

theorem Result.printed_eq (path : FilePath) {run : Run}
    (htexts : ∀ d ∈ run.diagnostics, ∃ text, d.message = .text text) :
    Result.printed ⟨path, .ok run⟩
      = .lines (Terminal.setText terminalWidth .folded
          (shownBefore path.shown (": " ++ run.state.label)))
        ++ if run.diagnostics = [] then {} else .lines
          ((⟨titles.map String.toList, run.diagnostics.map rowOf⟩ : Terminal.Table).draw
            terminalWidth) := by
  obtain ⟨stop, hread⟩ := exists_read_statusLine path run.state
  have hcolor : stateColor run.state ∈ usedColors := by cases run.state <;> decide
  have hstatus := printMarked_of_read hcolor hread
  rw [← hstatus, Result.printed]
  by_cases h : run.diagnostics = []
  · simp only [h, List.isEmpty_nil, if_true]
    rw [hstatus, Printed.lines_append_empty]
    exact hstatus
  · simp only [List.isEmpty_iff, h, if_false, table_eq htexts]
    rfl

/-- **Results.** If the messages of a run are texts, then its result is printed as a line, and as a
table if there are findings. What is read in them are the path and the state, and for each finding
the name of its rule, its severity, its message and its location; texts that name no emoji are read
as they are exactly if they are verbatim. -/
theorem Result.printed_shows (path : FilePath) {run : Run}
    (htexts : ∀ d ∈ run.diagnostics, ∃ text, d.message = .text text) :
    ∃ status rows, plain (statusLine path run.state) = .ok status
      ∧ table run.diagnostics = .ok ⟨titles.map String.toList, rows⟩
      ∧ Result.printed ⟨path, .ok run⟩
        = .lines (Terminal.setText terminalWidth .folded status) ++ (if run.diagnostics = [] then {}
          else .lines ((⟨titles.map String.toList, rows⟩ : Terminal.Table).draw terminalWidth))
      ∧ ReadsAs path.shown (": " ++ run.state.label) status
      ∧ List.Forall₂ IsRow run.diagnostics rows := by
  obtain ⟨stop, hread⟩ := exists_read_statusLine path run.state
  refine ⟨shownBefore path.shown (": " ++ run.state.label), run.diagnostics.map rowOf, ?_,
    table_eq htexts, Result.printed_eq path htexts, readsAs_shownBefore path.shown ?_, ?_⟩
  · rw [plain, hread]
    rfl
  · cases run.state <;> decide +kernel
  · rw [List.forall₂_map_right_iff, List.forall₂_same]
    exact fun d hd ↦ isRow_rowOf (htexts d hd)

/-- A path and a message with brackets, with a backslash before what looks like a tag, and with a
colon. -/
theorem Result.printed_shows_marked :
    let d : Document := ⟨⟨[.element ⟨"svg", none, []⟩ []], []⟩, none⟩
    let path : FilePath := ⟨.here, ["[b]", "a.svg"]⟩
    ∃ run, d.lint [("identity", .object [("method", .text "warn"),
        ("message", .text "a:not([b]) \\[/red] [c")])] = .ok run
      ∧ (∀ d ∈ run.diagnostics, ∃ text, d.message = .text text)
      ∧ plain (statusLine path run.state) = .ok "[b]/a.svg: WARNING".toList
      ∧ table run.diagnostics = .ok ⟨titles.map String.toList,
        [["identity", "WARNING", "a:not([b]) \\[/red] [c", ""].map String.toList]⟩ := by
  intro d path
  have hlint : (d.lint [("identity", .object [("method", .text "warn"),
      ("message", .text "a:not([b]) \\[/red] [c")])]).toOption.map
        (fun run ↦ (run.diagnostics, run.state))
      = some ([⟨.warning, .text "a:not([b]) \\[/red] [c", some "identity", none⟩], .warning) := rfl
  obtain ⟨run, hrun, hrun'⟩ := Attempt.exists_of_toOption_map_eq_some hlint
  obtain ⟨hfound, hstate⟩ := Prod.mk.inj hrun'
  have htexts : ∀ d ∈ run.diagnostics, ∃ text, d.message = .text text := by
    rw [hfound]
    simp
  obtain ⟨status, rows, hstatus, htable, -, hreads, hrows⟩ := Result.printed_shows path htexts
  refine ⟨run, hrun, htexts, ?_, ?_⟩
  · rw [hstate] at hreads
    rw [hstatus, (hreads.2 (by decide +kernel)).mpr (by decide +kernel)]
    rfl
  · rw [hfound] at hrows
    cases hrows with
    | cons hrow hrest =>
      cases hrest
      obtain ⟨rule, message, location, text, rfl, hrule, htext, hmessage, hlocation⟩ := hrow
      cases htext
      rw [htable, (hrule.2 (by decide +kernel)).mpr (by decide +kernel),
        (hmessage.2 (by decide +kernel)).mpr (by decide +kernel),
        (hlocation.2 (by decide +kernel)).mpr (by decide +kernel)]
      rfl

/-- The name of an emoji between colons is no longer there when it is read. -/
theorem Result.printed_shows_emoji :
    let d : Document := ⟨⟨[.element ⟨"svg", none, []⟩ []], []⟩, none⟩
    ∃ run, d.lint [("identity", .object [("method", .text "warn"),
        ("message", .text ":1st_place_medal:")])] = .ok run
      ∧ run.diagnostics.map (·.message.text?) = [some ":1st_place_medal:"]
      ∧ table run.diagnostics = .ok ⟨titles.map String.toList,
        [["identity", "WARNING", "🥇", ""].map String.toList]⟩ := by
  intro d
  have hlint : (d.lint [("identity", .object [("method", .text "warn"),
      ("message", .text ":1st_place_medal:")])]).toOption.map (·.diagnostics)
      = some [⟨.warning, .text ":1st_place_medal:", some "identity", none⟩] := rfl
  obtain ⟨run, hrun, hfound⟩ := Attempt.exists_of_toOption_map_eq_some hlint
  have hrows : run.diagnostics.map rowOf
      = [["identity", "WARNING", "🥇", ""].map String.toList] := by
    rw [hfound]
    decide +kernel
  refine ⟨run, hrun, by rw [hfound]; rfl, ?_⟩
  rw [table_eq (by simp [hfound]), hrows]

end VectorLint.CommandLine
