import VectorLint.CommandLine.Basic
import VectorLint.Proofs.Config.Values
import VectorLint.Proofs.Markup.Faults

/-!
# A result for each path

A path has a result of its own if nothing is there, or if a file is there whose markup is refused
for what it says rather than for the character set that it asks for. Rules do not matter for this:
what is wrong with them is a finding, and what was loaded can be told. If each path has a result,
the program shows them all, in the order of the paths. It collects them first, though, so a single
path without a result, such as that of a directory, takes the results of all others with it.
-/

namespace VectorLint

namespace CommandLine

theorem isResult_failure (e : Document.Error) :
    isResult e.failure = !e.fault.isOfCharset := by
  obtain ⟨fault, text, name⟩ := e
  cases fault with
  | refused name r => cases r <;> rfl
  | _ => rfl

variable (fs : Files) (rules : List (String × Value)) (p : FilePath)

/-- The result for a path. -/
def resultOf : Result := ⟨p, (lintFile fs rules p).map (·.1)⟩

/-- Why there is no document at a path. -/
def failure? : Option Failure :=
  match fs.read p with
  | .error f => some f
  | .ok content =>
    match Document.check (.octets content) (some p.shown) with
    | .error e => some e.failure
    | .ok _ => none

/-- The failure at a path that is no result. -/
def obstacle? : Option Failure := (failure? fs p).filter (!isResult ·)

/-- Whether a path has a result: nothing is there, or a file is there and no character set keeps it
from being read. -/
def HasResult : Prop :=
  fs.entry p = .error .notFound ∨ ∃ content, fs.entry p = .ok (.file content) ∧
    ∀ e, Document.check (.octets content) (some p.shown) = .error e → e.fault.isOfCharset = false

theorem obstacle?_eq_none_iff : obstacle? fs p = none ↔ HasResult fs p := by
  rw [obstacle?, failure?, Files.read, HasResult]
  cases hentry : fs.entry p with
  | error problem => cases problem <;> simp [Files.Problem.failure, isResult]
  | ok entry =>
    cases entry with
    | directory entries => simp [isResult]
    | file content =>
      cases hcheck : Document.check (.octets content) (some p.shown) with
      | ok events => simp [hcheck]
      | error e => simp [hcheck, isResult_failure]

section Building

variable {rules} (hrules : ∀ d : Document, ∃ r, d.lint rules = .ok r)

include hrules

theorem lintFile_eq_error_iff (f : Failure) :
    lintFile fs rules p = .error f ↔ failure? fs p = some f := by
  rw [lintFile, failure?]
  cases fs.read p with
  | error f => simp [bind, Except.bind]
  | ok content =>
    simp only [bind, Except.bind, Document.ofSource]
    cases Document.check (.octets content) (some p.shown) with
    | error e => constructor <;> (intro h; cases h; rfl)
    | ok events =>
      have hrun := hrules ⟨Document.build (.octets content), some p.shown⟩
      simp only [Except.mapError, pure, Except.pure]
      generalize Document.lint _ rules = linted at hrun ⊢
      obtain ⟨r, rfl⟩ := hrun
      constructor <;> (intro h; cases h)

/-- The results for all paths, or the first failure that is no result. -/
theorem lintAll_eq (paths : List FilePath) :
    (lintAll fs rules paths).1 = match paths.findSome? (obstacle? fs) with
      | none => .ok (paths.map (resultOf fs rules))
      | some f => .error f := by
  induction paths with
  | nil => rfl
  | cons p paths ih =>
    rw [lintAll, List.findSome?_cons, obstacle?]
    -- a path has a run, a failure that is its result, or one that ends it all
    cases hlint : lintFile fs rules p with
    | ok linted =>
      have hnone : failure? fs p = none := by
        rw [Option.eq_none_iff_forall_ne_some]
        intro f hf
        rw [(lintFile_eq_error_iff fs p hrules f).mpr hf] at hlint
        cases hlint
      simp only [hnone, Option.filter_none, ih]
      cases paths.findSome? (obstacle? fs) with
      | none => simp [Except.map, resultOf, hlint]
      | some f => rfl
    | error f =>
      rw [(lintFile_eq_error_iff fs p hrules f).mp hlint]
      cases hf : isResult f with
      | true =>
        simp only [Option.filter, hf, ih]
        cases paths.findSome? (obstacle? fs) with
        | none => simp [Except.map, resultOf, hlint]
        | some f => rfl
      | false => simp [Option.filter, hf]

end Building

variable {fs}

theorem exists_lint_of_load {path : Option FilePath} {c : Config}
    (hc : Config.load fs maxDepth path = .ok c) (d : Document) : ∃ r, d.lint c.rules = .ok r :=
  d.exists_lint_eq_ok (by decide) (Config.isJson_of_load hc)

theorem lint_eq_lintWith {r : LintRequest} {format : Format} {c : Config}
    (hformat : Format.ofName? r.format = some format)
    (hc : Config.load fs maxDepth r.config = .ok c) : lint fs r = lintWith fs r format c := by
  simp only [lint, hformat, hc]

/-- **Results as JSON.** The program ends without an uncaught failure exactly if each path has a
result. It then shows one result for each path in the order of the paths, and exits with zero or
one; and otherwise it shows nothing, also not the results that there are. How deep a configuration
nests is limited where it is read, and not again where what is wrong with it is written. -/
theorem lint_json {r : LintRequest} {c : Config} (hformat : r.format = "json")
    (hc : Config.load fs maxDepth r.config = .ok c) :
    ((lint fs r).unexpected = none ↔ ∀ p ∈ r.paths, HasResult fs p) ∧
    ((∀ p ∈ r.paths, HasResult fs p) →
      (lint fs r).output
          = (Value.list (r.paths.map fun p ↦ (resultOf fs c.rules p).value)).indentedJson ++ "\n" ∧
        (lint fs r).exitCode
          = if ∃ p ∈ r.paths, (resultOf fs c.rules p).exitCode ≠ 0 then 1 else 0) ∧
    (¬ (∀ p ∈ r.paths, HasResult fs p) → (lint fs r).output = "" ∧ (lint fs r).exitCode = 1) := by
  have hnone : r.paths.findSome? (obstacle? fs) = none ↔ ∀ p ∈ r.paths, HasResult fs p := by
    rw [List.findSome?_eq_none_iff]
    exact forall₂_congr fun p _ ↦ obstacle?_eq_none_iff fs p
  have hname : Format.ofName? r.format = some .json := by
    rw [hformat]
    rfl
  have hall := lintAll_eq fs (exists_lint_of_load hc) r.paths
  rw [lint_eq_lintWith hname hc, ← hnone]
  cases hobstacle : r.paths.findSome? (obstacle? fs) with
  | some f =>
    rw [hobstacle] at hall
    simp only [lintWith, hall, Reply.failed, reduceCtorEq, iff_self, false_implies,
      not_false_eq_true, true_implies, and_self]
  | none =>
    rw [hobstacle] at hall
    simp only [lintWith, hall, Reply.ofPrinted, printResults, exitCode, List.map_map,
      List.any_map, List.any_eq_true, decide_eq_true_eq, Function.comp_apply, true_implies,
      not_true_eq_false, false_implies, and_true, iff_self, true_and]
    rfl

/-- A document, markup that is not closed, and a path that leads nowhere. -/
theorem lint_json_failed :
    let fs : Files := ⟨.directory [("a.svg", .file (Text.Utf8.encode "<a/>".toList)),
      ("b.svg", .file (Text.Utf8.encode "<b>".toList))], []⟩
    let r : LintRequest := {
      paths := [⟨.here, ["a.svg"]⟩, ⟨.here, ["b.svg"]⟩, ⟨.here, ["c.svg"]⟩], format := "json" }
    Config.load fs maxDepth r.config = .ok {} ∧ (∀ p ∈ r.paths, HasResult fs p) ∧
      (lint fs r).unexpected = none ∧ (lint fs r).exitCode = 1 := by
  intro fs r
  have hc : Config.load fs maxDepth r.config = .ok {} := rfl
  obtain ⟨hiff, hresults, -⟩ := lint_json (r := r) rfl hc
  have hunexpected : (lint fs r).unexpected = none := by decide +kernel
  have hall := hiff.mp hunexpected
  refine ⟨hc, hall, hunexpected, (hresults hall).2.trans (if_pos ?_)⟩
  exact ⟨⟨.here, ["c.svg"]⟩, by simp [r], by decide +kernel⟩

/-- A directory among the paths takes the result of a document with it: not every list of paths is
answered with a result for each of them. -/
theorem lint_json_directory :
    let fs : Files := ⟨.directory [("a.svg", .file (Text.Utf8.encode "<a/>".toList)),
      ("icons", .directory [])], []⟩
    let r : LintRequest := {
      paths := [⟨.here, ["a.svg"]⟩, ⟨.here, ["icons"]⟩], format := "json" }
    (lint fs { r with paths := [⟨.here, ["a.svg"]⟩] }).exitCode = 0 ∧
      (lint fs r).unexpected = some ⟨.isADirectory, "[Errno 21] Is a directory: 'icons'"⟩ ∧
      (lint fs r).output = "" := by
  decide +kernel

end CommandLine

end VectorLint
