import VectorLint.Proofs.CommandLine.Results
import VectorLint.Proofs.Run.Messages
import VectorLint.Proofs.Terminal.Colored

/-!
# One verdict in all formats

The exit code is that of the results and does not depend on how they are shown. But a table can fail
to show them: its cells are marked text, and a finding whose message is no text has none. This is
the only way in which it fails, since escaped text can always be read. So the formats agree on all
results whose findings say texts, and these are the results of all rules but those with a fixed
message that is no text.
-/

namespace VectorLint

namespace CommandLine

open Terminal (usedColors)
open Terminal.Markup

/-! ## Lines -/

theorem isBody_of_mem {color : String} (h : color ∈ usedColors) : IsBody color.toList := by
  have htag : ∀ color ∈ usedColors, tag? (bracketed color.toList) = some color.toList := by
    decide +kernel
  exact (eq_of_tag?_eq_some (htag color h)).1

theorem toList_colored (color s : String) :
    (colored color s).toList
      = bracketed color.toList ++ (s.toList ++ bracketed ('/' :: color.toList)) := by
  simp [colored, bracketed]

theorem failure_printMarked_colored {color : String} (h : color ∈ usedColors)
    (s middle outside : String) (ts us : List Token) (hts : ∀ t ∈ ts, t.isPlain = true)
    (hus : ∀ t ∈ us, t.isPlain = true)
    (hseparates : Separates
      (middle.toList ++ (bracketed ('/' :: color.toList) ++ outside.toList)))
    (hbehind : tokens (middle.toList ++ (bracketed ('/' :: color.toList) ++ outside.toList))
      = ts ++ .tag 0 ('/' :: color.toList) :: us) :
    (printMarked (colored color (escape s ++ middle) ++ outside)).failure = none := by
  obtain ⟨inside, hinside, htokens⟩ := tokens_escape_append s hseparates
  have hall := tokens_tag (isBody_of_mem h) 0 ((escape s).toList ++
    (middle.toList ++ (bracketed ('/' :: color.toList) ++ outside.toList)))
  rw [htokens, hbehind] at hall
  refine printMarked_of_tokens h (inside ++ ts) us (fun t ht ↦ ?_) hus ?_
  · rcases List.mem_append.mp ht with ht | ht
    · exact hinside t ht
    · exact hts t ht
  · rw [String.toList_append, toList_colored, String.toList_append]
    simpa using hall

theorem failure_printMarked_status (s : String) (state : Run.State) :
    (printMarked (colored (stateColor state) (escape s ++ ": " ++ state.label))).failure
      = none := by
  have hcolor : stateColor state ∈ usedColors := by cases state <;> decide
  have hline : (printMarked (colored (stateColor state) (escape s ++ (": " ++ state.label))
      ++ "")).failure = none := by
    refine failure_printMarked_colored hcolor s _ _ ((": " ++ state.label).toList.map .char) []
      ?_ ?_ ?_ ?_
    · simp [Token.isPlain]
    · simp
    · cases state <;> exact ⟨by decide +kernel, by decide +kernel⟩
    · cases state <;> decide +kernel
  rwa [String.append_empty, ← String.append_assoc] at hline

theorem failure_printMarked_failed (s t : String) :
    (printMarked (colored "red" (escape s ++ ": FAILED TO LINT") ++ " " ++ escape t)).failure
      = none := by
  have hnil : tokens [] = [] := rfl
  obtain ⟨outside, houtside, htokens⟩ := tokens_escape_append t separates_nil
  rw [List.append_nil, hnil, List.append_nil] at htokens
  have hline : (printMarked (colored "red" (escape s ++ ": FAILED TO LINT")
      ++ (" " ++ escape t))).failure = none := by
    refine failure_printMarked_colored (by decide) s _ _ (": FAILED TO LINT".toList.map .char)
      (.char ' ' :: outside) ?_ ?_ ?_ ?_
    · simp [Token.isPlain]
    · exact List.forall_mem_cons.mpr ⟨rfl, houtside⟩
    · rw [String.toList_append]
      exact ⟨rfl, rfl⟩
    · rw [String.toList_append, ← htokens]
      rfl
  rwa [← String.append_assoc] at hline

/-! ## Tables -/

/-- The failure to show a finding in a table, if its message is no text. -/
def mistype? (d : Diagnostic) : Option Failure :=
  match d.message with
  | .text _ => none
  | v => some ⟨.type, "expected string or bytes-like object, got '" ++ v.kindName ++ "'"⟩

theorem plain_severity (severity : Severity) :
    plain (colored (severityColor severity) severity.label) = .ok severity.label.toList := by
  have hcolor : severityColor severity ∈ usedColors := by cases severity <;> decide
  have htokens : tokens (colored (severityColor severity) severity.label).toList
      = .tag 0 (severityColor severity).toList :: (severity.label.toList.map .char
        ++ .tag 0 ('/' :: (severityColor severity).toList) :: []) := by
    cases severity <;> decide +kernel
  have hshown : shownTokens (severity.label.toList.map .char) ++ shownTokens []
      = severity.label.toList := by
    cases severity <;> decide +kernel
  rw [plain, read_of_tokens hcolor (by simp [Token.isPlain]) (by simp) htokens, hshown]
  rfl

theorem comesTo_markedCells (d : Diagnostic) :
    ComesTo (fun cells ↦ ∀ s ∈ cells, ∃ cs, plain s = .ok cs) (markedCells d) (mistype? d) := by
  rw [markedCells, mistype?]
  cases d.message with
  | text message =>
    exact .done _ (by simp [exists_plain_escape, plain_severity])
  | _ => exact .failed _

theorem comesTo_table (ds : List Diagnostic) :
    ComesTo (fun _ ↦ True) (table ds) (ds.findSome? mistype?) := by
  have hmarked := comesTo_mapM fun d (_ : d ∈ ds) ↦ comesTo_markedCells d
  rw [table]
  generalize ds.mapM markedCells = x, ds.findSome? mistype? = told at hmarked
  cases hmarked with
  | failed f => exact .failed f
  | done marked hmarked =>
    have hplain := forall_mem_of_forall₂ hmarked
    -- the cells are escaped or in a color, so reading them fails in no row
    obtain ⟨rows, hrows⟩ := exists_mapM_eq_ok fun cells hcells ↦
      exists_mapM_eq_ok (hplain cells hcells)
    simp only [bind, Except.bind, hrows]
    exact .done _ trivial

/-! ## Results -/

/-- The failure to show a result in a table: that of its first finding whose message is no text. -/
def Result.mistype? (r : Result) : Option Failure :=
  match r.outcome with
  | .ok run => run.diagnostics.findSome? CommandLine.mistype?
  | .error _ => none

namespace Printed

theorem failure_append (p q : Printed) : (p ++ q).failure = p.failure.or q.failure := by
  change (append p q).failure = _
  rw [append]
  cases hp : p.failure with
  | some f => rw [hp]; rfl
  | none => rfl

theorem failure_foldl (p : Printed) (parts : List Printed) :
    (parts.foldl append p).failure = p.failure.or (parts.findSome? (·.failure)) := by
  induction parts generalizing p with
  | nil => rw [List.foldl_nil, List.findSome?_nil, Option.or_none]
  | cons q parts ih =>
    rw [List.foldl_cons, ih, show append p q = p ++ q from rfl, failure_append, Option.or_assoc,
      List.findSome?_cons]
    cases q.failure <;> rfl

theorem failure_concat (parts : List Printed) :
    (concat parts).failure = parts.findSome? (·.failure) :=
  failure_foldl {} parts

end Printed

theorem Result.failure_printed (r : Result) : r.printed.failure = r.mistype? := by
  rw [Result.printed, Result.mistype?]
  cases r.outcome with
  | error f => exact failure_printMarked_failed r.path.shown f.shown
  | ok run =>
    simp only
    split
    · rename_i hempty
      rw [failure_printMarked_status, List.isEmpty_iff.mp hempty, List.findSome?_nil]
    · rw [Printed.failure_append, failure_printMarked_status, Option.none_or]
      have htable := comesTo_table run.diagnostics
      generalize table run.diagnostics = x,
        run.diagnostics.findSome? CommandLine.mistype? = told at htable
      cases htable <;> rfl

/-! ## Formats -/

/-- Whether a JSON text escapes one half of a pair of UTF-16 units without the other. There is no
character for it. -/
def escapesLoneHalf : List Char → Bool
  | '\\' :: 'u' :: a :: b :: c :: d :: rest =>
    match Json.hexNumber? a b c d with
    | none => escapesLoneHalf rest
    | some n =>
      if Json.isHighUnit n then
        match rest with
        | '\\' :: 'u' :: e :: f :: g :: h :: more =>
          !(Json.hexNumber? e f g h).any Json.isLowUnit || escapesLoneHalf more
        | _ => true
      else Json.isLowUnit n || escapesLoneHalf rest
  | '\\' :: _ :: rest => escapesLoneHalf rest
  | _ :: rest => escapesLoneHalf rest
  | [] => false

/-- The file that a configuration is loaded from: the one that is named, or else the nearest one. -/
def configFile? (fs : Files) : Option FilePath → Option FilePath
  | some p => some p
  | none => (Config.find fs ⟨.here, []⟩).toOption.join

/-- That a configuration is loaded, and that each text in its file is one: what is said about lone
halves here would not be about what the file says. -/
structure LoadsTexts (fs : Files) (path : Option FilePath) (c : Config) : Prop where
  load_eq : Config.load fs maxDepth path = .ok c
  whole : ∀ p ∈ configFile? fs path, ∀ octets, fs.read p = .ok octets →
    escapesLoneHalf (Text.Utf8.decode octets).1 = false

variable {fs : Files} {r : LintRequest} {c : Config}

theorem exists_config (fs : Files) (path : Option FilePath) (p : Config → Bool)
    (h : (Config.load fs maxDepth path).toOption.any p = true) :
    ∃ c, Config.load fs maxDepth path = .ok c ∧ p c = true := by
  cases hc : Config.load fs maxDepth path with
  | error f =>
    rw [hc] at h
    cases h
  | ok c =>
    rw [hc] at h
    exact ⟨c, rfl, h⟩

theorem loadsTexts_of_all {path : Option FilePath} (h : Config.load fs maxDepth path = .ok c)
    (hwhole : (configFile? fs path).all (fun p ↦ (fs.read p).toOption.all fun octets ↦
      !escapesLoneHalf (Text.Utf8.decode octets).1) = true) : LoadsTexts fs path c := by
  refine ⟨h, fun p hp octets hoctets ↦ ?_⟩
  rw [Option.mem_def.mp hp, Option.all_some, hoctets] at hwhole
  simpa [Except.toOption] using hwhole

/-- **What a table adds to the failures.** Both formats fail where a path has no result, and with
the same failure. Where all have one, a table fails with the first message that is no text;
otherwise it exits as JSON does. -/
theorem lint_table (hc : LoadsTexts fs r.config c) :
    let table := lint fs { r with format := "table" }
    let json := lint fs { r with format := "json" }
    let mistype := r.paths.findSome? fun p ↦ (resultOf fs c.rules p).mistype?
    table.log = json.log ∧ table.unexpected = json.unexpected.or mistype ∧
      table.exitCode = if mistype.isSome then 1 else json.exitCode := by
  intro table json mistype
  have htable : table = lintWith fs { r with format := "table" } .table c :=
    lint_eq_lintWith rfl hc.load_eq
  have hjson : json = lintWith fs { r with format := "json" } .json c :=
    lint_eq_lintWith rfl hc.load_eq
  have hall := lintAll_eq fs (exists_lint_of_load hc.load_eq) r.paths
  rw [htable, hjson, lintWith, lintWith]
  cases hobstacle : r.paths.findSome? (obstacle? fs) with
  | some f =>
    rw [hobstacle] at hall
    simp [hall, Reply.failed]
  | none =>
    rw [hobstacle] at hall
    have hfailure : (printResults (r.paths.map (resultOf fs c.rules)) .table).failure
        = r.paths.findSome? fun p ↦ (resultOf fs c.rules p).mistype? := by
      simp only [printResults, Printed.failure_concat, List.findSome?_map, Function.comp_def,
        Result.failure_printed]
    simp only [hall, Reply.ofPrinted, hfailure]
    cases hmistype : mistype with
    | some f => simp [mistype, hmistype, Reply.failed, printResults]
    | none => simp [mistype, hmistype, printResults]

theorem exists_lint_of_lintFile_eq_ok {fs : Files} {rules : List (String × Value)} {p : FilePath}
    {linted : Run × List Log.Record} (h : lintFile fs rules p = .ok linted) :
    ∃ d : Document, d.lint rules = .ok linted.1 := by
  rw [lintFile] at h
  obtain ⟨content, -, h⟩ := Attempt.exists_of_bind_eq_ok h
  obtain ⟨d, -, h⟩ := Attempt.exists_of_bind_eq_ok h
  obtain ⟨run, hrun, h⟩ := Attempt.exists_of_bind_eq_ok h
  cases h
  exact ⟨d, hrun⟩

theorem mistype?_resultOf {rules : List (String × Value)} (htexts : Rule.SayTexts rules)
    (fs : Files) (p : FilePath) : (resultOf fs rules p).mistype? = none := by
  rw [resultOf, Result.mistype?]
  cases hlint : lintFile fs rules p with
  | error f => rfl
  | ok linted =>
    obtain ⟨d, hd⟩ := exists_lint_of_lintFile_eq_ok hlint
    simp only [Except.map, List.findSome?_eq_none_iff]
    intro finding hfinding
    obtain ⟨text, htext⟩ := d.isText_of_mem_diagnostics_lint htexts hd hfinding
    rw [mistype?, htext]

/-- **One verdict in all formats.** If the fixed messages of a configuration are texts, it does not
matter to the exit code, to what the program fails with and to its log how the results are shown. -/
theorem lint_formats (hc : LoadsTexts fs r.config c) (htexts : Rule.SayTexts c.rules) :
    let table := lint fs { r with format := "table" }
    let json := lint fs { r with format := "json" }
    table.exitCode = json.exitCode ∧ table.unexpected = json.unexpected ∧ table.log = json.log := by
  intro table json
  obtain ⟨hlog, hunexpected, hexit⟩ := lint_table hc
  have hnone : (r.paths.findSome? fun p ↦ (resultOf fs c.rules p).mistype?) = none := by
    simp only [List.findSome?_eq_none_iff, mistype?_resultOf htexts, implies_true]
  rw [hnone, Option.or_none] at hunexpected
  rw [hnone] at hexit
  exact ⟨hexit, hunexpected, hlog⟩

/-- A warning whose text looks like a tag, behind a character that is escaped as a pair. -/
theorem lint_formats_warned :
    let fs : Files := ⟨.directory [("a.svg", .file (Text.Utf8.encode "<a/>".toList)),
      (".svglint.json", .file (Text.Utf8.encode ("\x7b\"rules\": \x7b\"identity\": "
        ++ "\x7b\"method\": \"warn\", \"message\": \"\\ud83d\\ude00[/]\"\x7d\x7d\x7d"
        ).toList))], []⟩
    let r : LintRequest := { paths := [⟨.here, ["a.svg"]⟩] }
    ∃ c, LoadsTexts fs r.config c ∧ Rule.SayTexts c.rules ∧
      (lint fs { r with format := "table" }).exitCode = 0 ∧
      (lint fs { r with format := "table" }).unexpected = none := by
  intro fs r
  obtain ⟨c, hc, htexts⟩ := exists_config fs r.config
    (fun c ↦ decide (Rule.SayTexts c.rules)) (by decide +kernel)
  have hloads : LoadsTexts fs r.config c := loadsTexts_of_all hc (by decide +kernel)
  obtain ⟨hexit, hunexpected, -⟩ := lint_formats hloads (of_decide_eq_true htexts)
  exact ⟨c, hloads, of_decide_eq_true htexts, hexit.trans (by decide +kernel),
    hunexpected.trans (by decide +kernel)⟩

/-- A message that is a number: JSON shows it, and a table fails. -/
theorem lint_formats_number :
    let fs : Files := ⟨.directory [("a.svg", .file (Text.Utf8.encode "<a/>".toList)),
      (".svglint.json", .file (Text.Utf8.encode ("\x7b\"rules\": \x7b\"identity\": "
        ++ "\x7b\"method\": \"warn\", \"message\": 5\x7d\x7d\x7d").toList))], []⟩
    let r : LintRequest := { paths := [⟨.here, ["a.svg"]⟩] }
    let table := lint fs { r with format := "table" }
    let json := lint fs { r with format := "json" }
    (Config.load fs maxDepth r.config).isOk = true ∧ json.exitCode = 0 ∧ json.unexpected = none ∧
      table.exitCode = 1 ∧ table.unexpected
        = some ⟨.type, "expected string or bytes-like object, got 'int'"⟩ := by
  intro fs r table json
  -- the table itself is not evaluated: its colors are looked up in a list too long for that
  have hjson : json.exitCode = 0 ∧ json.unexpected = none := by decide +kernel
  obtain ⟨c, hc, hmistype⟩ := exists_config fs r.config
    (fun c ↦ (r.paths.findSome? fun p ↦ (resultOf fs c.rules p).mistype?)
      = some ⟨.type, "expected string or bytes-like object, got 'int'"⟩) (by decide +kernel)
  obtain ⟨-, hunexpected, hexit⟩ := lint_table (loadsTexts_of_all hc (by decide +kernel))
  rw [of_decide_eq_true hmistype] at hunexpected hexit
  refine ⟨by rw [hc]; rfl, hjson.1, hjson.2, hexit, ?_⟩
  rw [hunexpected, hjson.2, Option.none_or]

end CommandLine

end VectorLint
