import VectorLint.Proofs.CommandLine.Formats
import VectorLint.Proofs.Config.Values

/-!
# Reading the results back

What is printed as JSON is read as what it was made of: a list with one object for each path, in the
order of the paths. Everything in it comes from the files, the paths and the configuration, and a
configuration that was loaded holds no value that JSON lacks. A configuration that is not loaded is
told as plain text instead, in whatever format results were asked for.
-/

namespace VectorLint

/-! ## Results as values -/

namespace Value

variable {depth : ℕ}

theorem isJson_optionalText (s : Option String) : (Diagnostic.optionalText s).IsJson depth := by
  cases s with
  | none => exact .null
  | some s => exact .text s

theorem isJson_digit {n : ℕ} (h : n < 10) : (Value.int n).IsJson depth := by
  refine .int ?_
  rw [Int.natAbs_natCast, Nat.toDigits_of_lt_base h, List.length_singleton]
  decide

/-- The value of a name in an object. -/
def field? (v : Value) (name : String) : Option Value := v.fields?.bind (Fields.get? · name)

end Value

theorem Diagnostic.isJson_value {depth : ℕ} {d : Diagnostic} (h : d.message.IsJson depth) :
    d.value.IsJson (depth + 1) := by
  refine .object (by simp) ?_
  simp only [List.forall_mem_cons, List.not_mem_nil, false_implies, implies_true, and_true]
  exact ⟨.text _, Value.isJson_optionalText _, h, Value.isJson_optionalText _,
    Value.isJson_optionalText _⟩

theorem Run.exitCode_le_one (r : Run) : r.exitCode ≤ 1 := by
  rw [Run.exitCode]
  cases r.state <;> decide

theorem Run.isJson_value {depth : ℕ} {r : Run} (h : ∀ d ∈ r.diagnostics, d.message.IsJson depth) :
    r.value.IsJson (depth + 3) := by
  have hfindings : (Value.list (r.diagnostics.map (·.value))).IsJson (depth + 2) := by
    refine .list fun v hv ↦ ?_
    obtain ⟨d, hd, rfl⟩ := List.mem_map.mp hv
    exact Diagnostic.isJson_value (h d hd)
  refine .object (by simp) ?_
  simp only [List.forall_mem_cons, List.not_mem_nil, false_implies, implies_true, and_true]
  exact ⟨Value.isJson_optionalText _, .text _,
    Value.isJson_digit (Nat.lt_of_le_of_lt r.exitCode_le_one (by decide)), hfindings⟩

namespace CommandLine

open Terminal.Markup (escape partsBehind readParts readParts_close readParts_open shownText tokens)

/-- The object for a path without a document, and why there is none. -/
def failedObject (p : FilePath) (f : Failure) : Value :=
  .object [("name", .text p.shown), ("state", .text "failed"), ("exit_code", .int 1),
    ("error", .text f.shown)]

/-- What is shown for a path: the run of the document with the octets of its file and the path for a
name, or why there is no file or no document. -/
inductive Shows (fs : Files) (rules : List (String × Value)) (p : FilePath) : Value → Prop
  | linted {content : List UInt8} {d : Document} {run : Run} (hread : fs.read p = .ok content)
    (hdocument : Document.ofSource (.octets content) (some p.shown) = .ok d)
    (hrun : d.lint rules = .ok run) : Shows fs rules p run.value
  | notFound (hentry : fs.entry p = .error .notFound) :
    Shows fs rules p (failedObject p (Files.Problem.notFound.failure p))
  | refused {content : List UInt8} {e : Document.Error} (hread : fs.read p = .ok content)
    (hdocument : Document.ofSource (.octets content) (some p.shown) = .error e) :
    Shows fs rules p (failedObject p e.failure)

variable {fs : Files} {rules : List (String × Value)} {p : FilePath}

theorem shows_resultOf (hrules : ∀ d : Document, ∃ r, d.lint rules = .ok r) (h : HasResult fs p) :
    Shows fs rules p (resultOf fs rules p).value := by
  rw [Result.value, resultOf, lintFile]
  rcases h with hentry | ⟨content, hentry, -⟩
  · have hread : fs.read p = .error (Files.Problem.notFound.failure p) := by
      rw [Files.read, hentry]
    rw [hread]
    exact .notFound hentry
  · have hread : fs.read p = .ok content := by
      rw [Files.read, hentry]
    rw [hread]
    cases hdocument : Document.ofSource (.octets content) (some p.shown) with
    | ok d =>
      obtain ⟨run, hrun⟩ := hrules d
      simp only [bind, Except.bind, hdocument, hrun, Except.map, Except.mapError, pure, Except.pure]
      exact .linted hread hdocument hrun
    | error e =>
      simp only [bind, Except.bind, hdocument, Except.map, Except.mapError]
      exact .refused hread hdocument

theorem isJson_value_resultOf {depth : ℕ} (hrules : ∀ rule ∈ rules, rule.2.IsJson depth) :
    (resultOf fs rules p).value.IsJson (depth + 3) := by
  rw [Result.value, resultOf]
  cases hlint : lintFile fs rules p with
  | error f =>
    have hobject : (failedObject p f).IsJson 1 := by
      refine .object (by simp) ?_
      simp only [List.forall_mem_cons, List.not_mem_nil, false_implies, implies_true, and_true]
      exact ⟨.text _, .text _, Value.isJson_digit (by decide), .text _⟩
    exact hobject.mono (by omega)
  | ok linted =>
    obtain ⟨d, hd⟩ := exists_lint_of_lintFile_eq_ok hlint
    exact Run.isJson_value fun finding hfinding ↦
      Document.isJson_of_mem_diagnostics_lint hrules hd hfinding

/-! ## Exit codes -/

theorem Result.exitCode_le_one (r : Result) : r.exitCode ≤ 1 := by
  rw [Result.exitCode]
  split
  · exact Run.exitCode_le_one _
  · exact le_rfl

theorem field?_exitCode_value (r : Result) :
    r.value.field? "exit_code" = some (.int r.exitCode) := by
  rw [Result.value, Result.exitCode]
  cases r.outcome <;> rfl

theorem max?_exitCodes {results : List Result} (h : results ≠ []) :
    (results.map (·.exitCode)).max? = some (exitCode results) := by
  rw [List.max?_eq_some_iff, exitCode, List.forall_mem_map]
  split
  · rename_i hany
    obtain ⟨r, hr, hne⟩ := List.any_eq_true.mp hany
    have hone : r.exitCode = 1 := by
      have hle := r.exitCode_le_one
      rw [decide_eq_true_eq] at hne
      omega
    exact ⟨List.mem_map.mpr ⟨r, hr, hone⟩, fun r _ ↦ r.exitCode_le_one⟩
  · rename_i hnone
    have hzero : ∀ r ∈ results, r.exitCode = 0 := by
      simpa using hnone
    obtain ⟨r, hr⟩ := List.exists_mem_of_ne_nil results h
    exact ⟨List.mem_map.mpr ⟨r, hr, hzero r hr⟩, fun r hr ↦ (hzero r hr).le⟩

/-! ## What is printed -/

theorem lintWith_json {r : LintRequest} {c : Config}
    (hrules : ∀ d : Document, ∃ r, d.lint c.rules = .ok r)
    (h : (lintWith fs r .json c).unexpected = none) :
    (∀ p ∈ r.paths, HasResult fs p)
      ∧ (lintWith fs r .json c).output
        = (Value.list (r.paths.map fun p ↦ (resultOf fs c.rules p).value)).indentedJson ++ "\n"
      ∧ (lintWith fs r .json c).exitCode = exitCode (r.paths.map (resultOf fs c.rules)) := by
  have hall := lintAll_eq fs hrules r.paths
  cases hobstacle : r.paths.findSome? (obstacle? fs) with
  | some f =>
    rw [hobstacle] at hall
    simp only [lintWith, hall, Reply.failed, reduceCtorEq] at h
  | none =>
    rw [hobstacle] at hall
    refine ⟨fun p hp ↦ ?_, ?_, ?_⟩
    · exact (obstacle?_eq_none_iff fs p).mp (List.findSome?_eq_none_iff.mp hobstacle p hp)
    · simp only [lintWith, hall, Reply.ofPrinted, printResults, List.map_map]
      rfl
    · simp only [lintWith, hall, Reply.ofPrinted, printResults]

section

variable {r : LintRequest}

theorem ofQuestions?_ne_lint (given : Given Request.Question) :
    Request.ofQuestions? given ≠ some (.lint r) := by
  rw [Request.ofQuestions?]
  split_ifs <;> simp

theorem ofStrayWords_ne_lint (words : List String) (command : String) :
    Request.ofStrayWords words command ≠ .lint r := by
  rw [Request.ofStrayWords]
  split
  · simp
  · rename_i given _ _
    intro h
    cases hquestion : Request.ofQuestions? given with
    | none =>
      rw [hquestion] at h
      cases h
    | some request =>
      rw [hquestion] at h
      exact ofQuestions?_ne_lint given (hquestion.trans (congrArg some h))

theorem paths_ne_nil_of_ofLintArguments {words : List String}
    (h : Request.ofLintArguments words = .lint r) : r.paths ≠ [] := by
  rw [Request.ofLintArguments] at h
  simp only at h
  split at h
  · cases h
  · split_ifs at h with _ hempty
    cases h
    simpa using hempty

theorem paths_ne_nil_of_ofArguments {args : List String} (h : Request.ofArguments args = .lint r) :
    r.paths ≠ [] := by
  rw [Request.ofArguments] at h
  split at h
  · cases h
  · split at h
    · rename_i hquestion _
      exact absurd (h ▸ hquestion) (ofQuestions?_ne_lint _)
    · cases h
    · split at h
      · exact paths_ne_nil_of_ofLintArguments h
      · exact absurd h (ofStrayWords_ne_lint _ _)

end

/-- **Results are read back from what is printed.** If the configuration is loaded and the program
ends without an uncaught failure, what it prints as JSON is read as a list with one object for each
path, in the order of the paths, and it exits with the greatest of their exit codes. -/
theorem read_output_run {args : List String} {r : LintRequest} {c : Config}
    (hargs : Request.ofArguments args = .lint r) (hformat : r.format = "json")
    (hc : Config.load fs maxDepth r.config = .ok c) (hexit : (run fs args).unexpected = none) :
    ∃ (objects : List Value) (codes : List ℕ),
      Json.read Config.maxDepth (run fs args).output.toList = .ok (.list objects)
        ∧ List.Forall₂ (Shows fs c.rules) r.paths objects
        ∧ objects.map (·.field? "exit_code") = codes.map (some <| .int ·)
        ∧ codes.max? = some (run fs args).exitCode := by
  have hrun : run fs args = lintWith fs r .json c := by
    have hname : Format.ofName? r.format = some .json := by
      rw [hformat]
      rfl
    rw [run, hargs]
    exact lint_eq_lintWith hname hc
  rw [hrun] at hexit ⊢
  have hrules := exists_lint_of_load hc
  obtain ⟨hresults, houtput, hcode⟩ := lintWith_json hrules hexit
  refine ⟨r.paths.map fun p ↦ (resultOf fs c.rules p).value,
    r.paths.map fun p ↦ (resultOf fs c.rules p).exitCode, ?_, ?_, ?_, ?_⟩
  · rw [houtput]
    have hlist : (Value.list (r.paths.map fun p ↦ (resultOf fs c.rules p).value)).IsJson
        (maxDepth + 4) := by
      refine .list fun v hv ↦ ?_
      obtain ⟨p, -, rfl⟩ := List.mem_map.mp hv
      exact isJson_value_resultOf (Config.isJson_of_load hc)
    exact Value.read_indentedJson (hlist.mono (by decide))
  · rw [List.forall₂_map_right_iff, List.forall₂_same]
    exact fun p hp ↦ shows_resultOf hrules (hresults p hp)
  · simp only [List.map_map, Function.comp_def, field?_exitCode_value]
  · rw [hcode, ← max?_exitCodes]
    · rw [List.map_map]
      rfl
    · simpa using paths_ne_nil_of_ofArguments hargs

/-- A message with a fraction and a character of two UTF-16 units, for a document, for markup that
is not closed and for a path that leads nowhere. -/
theorem read_output_run_nested :
    let fs : Files := ⟨.directory [("a.svg", .file (Text.Utf8.encode "<a/>".toList)),
      ("b.svg", .file (Text.Utf8.encode "<b>".toList)),
      (".svglint.json", .file (Text.Utf8.encode ("\x7b\"rules\": \x7b\"identity\": "
        ++ "\x7b\"method\": \"warn\", \"message\": [0.1, \"\\ud83d\\ude00\"]\x7d\x7d\x7d"
        ).toList))], []⟩
    let args := ["lint", "a.svg", "b.svg", "\"😀.svg", "--format", "json"]
    let r : LintRequest := { paths := [⟨.here, ["a.svg"]⟩, ⟨.here, ["b.svg"]⟩, ⟨.here, ["\"😀.svg"]⟩]
                             format := "json" }
    Request.ofArguments args = .lint r ∧ r.format = "json" ∧ (run fs args).unexpected = none
      ∧ ∃ (c : Config) (objects : List Value) (codes : List ℕ),
        Config.load fs maxDepth r.config = .ok c
          ∧ Json.read Config.maxDepth (run fs args).output.toList = .ok (.list objects)
          ∧ List.Forall₂ (Shows fs c.rules) r.paths objects
          ∧ objects.map (·.field? "exit_code") = codes.map (some <| .int ·)
          ∧ codes.max? = some 1 := by
  intro fs args r
  have hargs : Request.ofArguments args = .lint r := by decide +kernel
  have hexit : (run fs args).unexpected = none := by decide +kernel
  have hcode : (run fs args).exitCode = 1 := by decide +kernel
  obtain ⟨c, hc, -⟩ := exists_config fs r.config (fun _ ↦ true) (by decide +kernel)
  obtain ⟨objects, codes, hread, hshows, hfields, hmax⟩ := read_output_run hargs rfl hc hexit
  exact ⟨hargs, rfl, hexit, c, objects, codes, hc, hread, hshows, hfields, hcode ▸ hmax⟩

/-! ## Configurations that are not loaded -/

theorem run_of_load_eq_error {args : List String} {r : LintRequest} {format : Format} {f : Failure}
    {cs : List Char} {stop : ℕ} (hargs : Request.ofArguments args = .lint r)
    (hformat : Format.ofName? r.format = some format)
    (hload : Config.load fs maxDepth r.config = .error f) (hkind : f.kind = .value)
    (hread : Terminal.Markup.read (errorMark ++ escape f.shown) = .ok (cs, [⟨0, stop, "red"⟩])) :
    run fs args = { output := (Printed.lines (Terminal.setText terminalWidth .folded cs)).text
                    exitCode := 1 } := by
  rw [run, hargs]
  simp only [lint, hformat, hload, hkind, if_true, printMarked_of_read (by decide) hread]
  rfl

theorem read_errorMark {s : String} (cs : List Char)
    (hparts : partsBehind [] (tokens (errorMark ++ s).toList)
      = [.tag "red".toList, .text "Error:".toList, .tag ('/' :: "red".toList), .text cs])
    (hshown : shownText cs = cs) :
    Terminal.Markup.read (errorMark ++ s) = .ok ("Error:".toList ++ cs, [⟨0, 6, "red"⟩]) := by
  have hmark : shownText "Error:".toList = "Error:".toList := by decide +kernel
  have hlength : 0 + "Error:".toList.length = 6 := rfl
  rw [Terminal.Markup.read, hparts, readParts_open (by decide), readParts, hmark, hlength,
    readParts_close (by decide), readParts, hshown, readParts]
  simp only [bind, Except.bind, pure, Except.pure, List.map_nil, Except.map, List.append_nil]

/-- Not whatever is printed when results are asked for as JSON is a list: that a configuration file
is empty is told as plain text. -/
theorem read_output_run_unloaded :
    let fs : Files := ⟨.directory [("c.json", .file [])], []⟩
    let args := ["lint", "a.svg", "-c", "c.json", "--format", "json"]
    let r : LintRequest :=
      { paths := [⟨.here, ["a.svg"]⟩], config := some ⟨.here, ["c.json"]⟩, format := "json" }
    Request.ofArguments args = .lint r ∧ (run fs args).unexpected = none
      ∧ (run fs args).exitCode = 1
      ∧ ∀ v, Json.read Config.maxDepth (run fs args).output.toList ≠ .ok v := by
  intro fs args r
  have hargs : Request.ofArguments args = .lint r := by decide +kernel
  have hload : Config.load fs maxDepth r.config = .error ⟨.value,
      "Invalid JSON in config file c.json: Expecting value: line 1 column 1 (char 0)"⟩ :=
    Attempt.eq_error_of_map_eq_error (f := fun _ ↦ ()) (by decide +kernel)
  have hread := read_errorMark
    (s := escape "Invalid JSON in config file c.json: Expecting value: line 1 column 1 (char 0)")
    (" Invalid JSON in config file c.json: Expecting value: line 1 column 1 (char 0)".toList)
    (by decide +kernel) (by decide +kernel)
  have hrun := run_of_load_eq_error hargs rfl hload rfl hread
  have hfails : (Json.read Config.maxDepth (run fs args).output.toList).isOk = false := by
    rw [hrun]
    decide +kernel
  refine ⟨hargs, by rw [hrun], by rw [hrun], fun v hv ↦ ?_⟩
  rw [hv] at hfails
  cases hfails

end CommandLine

end VectorLint
