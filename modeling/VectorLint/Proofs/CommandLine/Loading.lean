import VectorLint.Proofs.CommandLine.Formats
import VectorLint.Proofs.Config.Agreement

/-!
# Configurations that cannot be loaded

What goes wrong with a configuration file is told in one of two ways: its octets are a text that
breaks the grammar of JSON, or anything else is the matter with it. Both failures name the file, and
the program tells them and exits before it looks at any file to lint.

A path with a name that is too long is the one exception. Whether there is a file is asked before
the reading begins, and the answer of the system is not translated.
-/

namespace VectorLint

open Text (plainLineEnds)
open Text.Utf8 (decode)

theorem Files.entry_of_long_name {entries : List (String × Files.Entry)} {name : String}
    (hnull : name.toList.contains '\x00' = false) (hpath : name.utf8ByteSize ≤ maxPathLength)
    (hlong : maxNameLength < name.utf8ByteSize) :
    Files.entry ⟨.directory entries, []⟩ ⟨.here, [name]⟩ = .error .nameTooLong := by
  have hempty : name ≠ "" := by
    rintro rfl
    cases hlong
  have hup : name ≠ ".." := by
    rintro rfl
    exact absurd hlong (by decide)
  have hshown : FilePath.shown ⟨.here, [name]⟩ = name := by
    simp [FilePath.shown, FilePath.Start.shown, hempty]
  simp only [Files.entry, hshown, hnull, Bool.false_eq_true, if_false,
    if_neg (Nat.not_lt.mpr hpath)]
  simp [Files.namesFromRoot, Files.walk, hup, hlong]

namespace Config

variable {fs : Files} {depth : ℕ} {p : FilePath} {path : Option FilePath} {octets : List UInt8}

/-- Whether octets are a text that breaks the grammar of JSON. -/
def BreaksGrammar (depth : ℕ) (octets : List UInt8) : Prop :=
  ∃ cs problem unread, decode octets = (cs, none)
    ∧ Json.read depth (plainLineEnds cs) = .error (.grammar problem unread)

/-- Whether the file at a path holds a text that breaks the grammar of JSON. -/
def IsMalformed (fs : Files) (depth : ℕ) (p : FilePath) : Prop :=
  ∃ octets, fs.read p = .ok octets ∧ BreaksGrammar depth octets

/-- How an attempt to load a configuration may end, if a broken grammar is told apart. -/
inductive Ends (broken : Prop) : Except LoadProblem Config → Prop where
  | loaded (c : Config) (h : ¬ broken) : Ends broken (.ok c)
  | malformed (message : String) (h : broken) : Ends broken (.error (.malformed message))
  | unusable (message : String) (h : ¬ broken) : Ends broken (.error (.unusable message))

theorem breaksGrammar_iff {cs : List Char} (h : decode octets = (cs, none)) :
    BreaksGrammar depth octets
      ↔ ∃ problem unread,
        Json.read depth (plainLineEnds cs) = .error (.grammar problem unread) := by
  constructor
  · rintro ⟨cs', problem, unread, hdecode, hread⟩
    obtain rfl : cs = cs' := congrArg Prod.fst (h.symm.trans hdecode)
    exact ⟨problem, unread, hread⟩
  · rintro ⟨problem, unread, hread⟩
    exact ⟨cs, problem, unread, h, hread⟩

theorem ends_ofOctets (depth : ℕ) (octets : List UInt8) :
    Ends (BreaksGrammar depth octets) (ofOctets depth octets) := by
  rcases hdecode : decode octets with ⟨cs, _ | fault⟩
  · simp only [ofOctets, hdecode, breaksGrammar_iff hdecode]
    change Ends _ (valueOfText depth (plainLineEnds cs) >>= _)
    rw [valueOfText]
    cases hread : Json.read depth (plainLineEnds cs) with
    | ok v =>
      have hgood : ¬ ∃ problem unread, (Except.ok v : Except Json.Fault Value)
          = .error (.grammar problem unread) := by
        rintro ⟨problem, unread, heq⟩
        cases heq
      simp only [bind, Except.bind]
      cases v.fields? with
      | none => exact .unusable _ hgood
      | some fields =>
        cases hfields : ofFields fields with
        | ok c =>
          simp only [hfields]
          exact .loaded c hgood
        | error faults =>
          simp only [hfields]
          exact .unusable _ hgood
    | error fault =>
      cases fault with
      | grammar problem unread => exact .malformed _ ⟨problem, unread, rfl⟩
      | digits count =>
        refine .unusable _ ?_
        rintro ⟨problem, unread, heq⟩
        cases heq
      | depth isObject =>
        refine .unusable _ ?_
        rintro ⟨problem, unread, heq⟩
        cases heq
  · simp only [ofOctets, hdecode]
    refine .unusable _ ?_
    rintro ⟨cs', problem, unread, hdecode', -⟩
    rw [hdecode] at hdecode'
    cases hdecode'

theorem isMalformed_iff (h : fs.read p = .ok octets) :
    IsMalformed fs depth p ↔ BreaksGrammar depth octets := by
  constructor
  · rintro ⟨octets', hread, hbroken⟩
    obtain rfl : octets = octets' := Except.ok.inj (h.symm.trans hread)
    exact hbroken
  · intro hbroken
    exact ⟨octets, h, hbroken⟩

theorem not_isMalformed {f : Failure} (h : fs.read p = .error f) : ¬ IsMalformed fs depth p := by
  rintro ⟨octets, hread, -⟩
  rw [h] at hread
  cases hread

theorem exists_ends_loadFrom (hname : fs.entry p ≠ .error .nameTooLong) (depth : ℕ) :
    ∃ loaded, Ends (IsMalformed fs depth p) loaded
      ∧ loadFrom fs depth p = loaded.mapError (·.failure p) := by
  cases hentry : fs.entry p with
  | error problem =>
    have hread : fs.read p = .error (problem.failure p) := by rw [Files.read, hentry]
    have hholds : fs.holds p = .ok false := by
      rw [Files.holds, hentry]
      cases problem with
      | nameTooLong => exact absurd hentry hname
      | _ => rfl
    refine ⟨.ok {}, .loaded _ (not_isMalformed hread), ?_⟩
    rw [loadFrom, hholds]
    rfl
  | ok e =>
    have hholds : fs.holds p = .ok true := by rw [Files.holds, hentry]
    cases e with
    | file octets =>
      have hread : fs.read p = .ok octets := by rw [Files.read, hentry]
      refine ⟨ofOctets depth octets, ?_, loadFrom_of_read hread⟩
      rw [isMalformed_iff hread]
      exact ends_ofOctets depth octets
    | directory entries =>
      have hread : ∃ f, fs.read p = .error f := by
        rw [Files.read, hentry]
        exact ⟨_, rfl⟩
      obtain ⟨f, hread⟩ := hread
      refine ⟨.error (.unusable f.shown), .unusable _ (not_isMalformed hread), ?_⟩
      rw [loadFrom, hholds, hread]
      rfl

end Config

namespace CommandLine

open Terminal.Markup

theorem failure_printMarked_error (s : String) : (printMarked (errorMark ++ escape s)).failure
    = none := by
  have hnil : tokens [] = [] := rfl
  obtain ⟨outside, houtside, htokens⟩ := tokens_escape_append s separates_nil
  rw [List.append_nil, hnil, List.append_nil] at htokens
  have hline : (printMarked (colored "red" (escape "" ++ "Error:")
      ++ (" " ++ escape s))).failure = none := by
    refine failure_printMarked_colored (by decide) "" _ _ ("Error:".toList.map .char)
      (.char ' ' :: outside) ?_ ?_ ?_ ?_
    · simp [Token.isPlain]
    · exact List.forall_mem_cons.mpr ⟨rfl, houtside⟩
    · rw [String.toList_append]
      exact ⟨rfl, rfl⟩
    · rw [String.toList_append, ← htokens]
      rfl
  rw [errorMark, String.append_assoc]
  exact hline

theorem ofPrinted_one (printed : Printed) :
    (Reply.ofPrinted printed 1).exitCode = 1 ∧ (Reply.ofPrinted printed 1).log = []
      ∧ (Reply.ofPrinted printed 1).unexpected = printed.failure := by
  rw [Reply.ofPrinted]
  cases printed.failure with
  | none => exact ⟨rfl, rfl, rfl⟩
  | some f => exact ⟨rfl, rfl, rfl⟩

open Config (IsChosen IsMalformed)

/-- **A configuration that is not loaded.** Unless the path is too long, there is a configuration or
a failure that names the file. It says that the file is no JSON exactly if its octets are a text
that breaks the grammar. The program then exits with one, whatever files it is asked to lint; and
where the format is known, nothing unexpected happens. -/
theorem run_of_unloaded {fs : Files} {path : Option FilePath} {p : FilePath}
    (hpath : IsChosen fs path p) (hname : fs.entry p ≠ .error .nameTooLong) :
    (∀ depth, IsMalformed fs depth p ∧ (∃ message, Config.load fs depth path
          = .error ⟨.value, "Invalid JSON in config file " ++ p.shown ++ ": " ++ message⟩)
        ∨ ¬ IsMalformed fs depth p ∧ ((∃ c, Config.load fs depth path = .ok c)
          ∨ ∃ message, Config.load fs depth path
            = .error ⟨.value, "Failed to load config from " ++ p.shown ++ ": " ++ message⟩))
      ∧ ∀ args r f, Request.ofArguments args = .lint r → r.config = path →
        Config.load fs maxDepth path = .error f →
          (run fs args).exitCode = 1 ∧ (run fs args).log = []
            ∧ (∀ paths, lint fs { r with paths := paths } = run fs args)
            ∧ ((Format.ofName? r.format).isSome → (run fs args).unexpected = none) := by
  constructor
  · intro depth
    obtain ⟨loaded, hends, hload⟩ := Config.exists_ends_loadFrom hname depth
    rw [hpath.load_eq, hload]
    cases hends with
    | loaded c h => exact .inr ⟨h, .inl ⟨c, rfl⟩⟩
    | malformed message h => exact .inl ⟨h, message, rfl⟩
    | unusable message h => exact .inr ⟨h, .inr ⟨message, rfl⟩⟩
  · rintro args r f hargs rfl hload
    have hkind : f.kind = .value := by
      obtain ⟨loaded, hends, hload'⟩ := Config.exists_ends_loadFrom hname maxDepth
      rw [hpath.load_eq, hload'] at hload
      cases hends <;> cases hload <;> rfl
    rw [run, hargs]
    simp only [lint, hload, hkind, if_true]
    cases Format.ofName? r.format with
    | none =>
      obtain ⟨hexit, hlog, -⟩ := ofPrinted_one (printMarked (errorMark ++ "Invalid format '"
        ++ r.format ++ "'. Must be one of: " ++ ", ".intercalate (Format.names.map (·.1))))
      refine ⟨hexit, hlog, fun _ ↦ trivial, ?_⟩
      intro hformat
      cases hformat
    | some format =>
      obtain ⟨hexit, hlog, hfailure⟩ := ofPrinted_one (printMarked (errorMark ++ escape f.shown))
      refine ⟨hexit, hlog, fun _ ↦ trivial, fun _ ↦ ?_⟩
      rw [hfailure, failure_printMarked_error]

/-- A configuration file in an encoding that is not read, and one that is cut off. -/
theorem run_of_unloaded_files :
    let fs : Files := ⟨.directory [("a.svg", .file (Text.Utf8.encode "<a/>".toList)),
      ("a.json", .file [0x22, 0xFF, 0x22]), ("b.json", .file [0x5B])], []⟩
    let a : FilePath := ⟨.here, ["a.json"]⟩
    let b : FilePath := ⟨.here, ["b.json"]⟩
    let args (p : String) := ["lint", "a.svg", "-c", p]
    IsChosen fs (some a) a ∧ fs.entry a ≠ .error .nameTooLong
      ∧ IsChosen fs (some b) b ∧ fs.entry b ≠ .error .nameTooLong
      ∧ ¬ IsMalformed fs maxDepth a ∧ (run fs (args "a.json")).exitCode = 1
      ∧ (run fs (args "a.json")).unexpected = none
      ∧ IsMalformed fs maxDepth b ∧ (run fs (args "b.json")).exitCode = 1
      ∧ (run fs (args "b.json")).unexpected = none := by
  intro fs a b args
  have ha : fs.entry ⟨.here, ["a.json"]⟩ = .ok (.file [0x22, 0xFF, 0x22]) := by rfl
  have hb : fs.entry ⟨.here, ["b.json"]⟩ = .ok (.file [0x5B]) := by rfl
  have hshort : fs.entry a ≠ .error .nameTooLong ∧ fs.entry b ≠ .error .nameTooLong := by
    rw [ha, hb]
    constructor <;> (intro heq; cases heq)
  have hload : Config.load fs maxDepth (some a) = .error ⟨.value, "Failed to load config from "
      ++ "a.json: 'utf-8' codec can't decode byte 0xff in position 1: invalid start byte"⟩ :=
    Attempt.eq_error_of_map_eq_error (f := fun _ ↦ ()) (by decide +kernel)
  have hload' : Config.load fs maxDepth (some b) = .error ⟨.value,
      "Invalid JSON in config file b.json: Expecting value: line 1 column 2 (char 1)"⟩ :=
    Attempt.eq_error_of_map_eq_error (f := fun _ ↦ ()) (by decide +kernel)
  obtain ⟨hwhich, hrun⟩ := run_of_unloaded (.inl rfl) hshort.1
  obtain ⟨hwhich', hrun'⟩ := run_of_unloaded (.inl rfl) hshort.2
  have hargs : Request.ofArguments (args "a.json")
      = .lint ⟨[⟨.here, ["a.svg"]⟩], some a, "table", false⟩ := by decide +kernel
  have hargs' : Request.ofArguments (args "b.json")
      = .lint ⟨[⟨.here, ["a.svg"]⟩], some b, "table", false⟩ := by decide +kernel
  obtain ⟨hexit, -, -, hexpected⟩ := hrun _ _ _ hargs rfl hload
  obtain ⟨hexit', -, -, hexpected'⟩ := hrun' _ _ _ hargs' rfl hload'
  refine ⟨.inl rfl, hshort.1, .inl rfl, hshort.2, ?_, hexit, hexpected rfl, ?_, hexit',
    hexpected' rfl⟩
  · rcases hwhich maxDepth with ⟨-, message, heq⟩ | ⟨h, -⟩
    · rw [hload, Except.error.injEq, Failure.mk.injEq] at heq
      have hhead := congrArg (·.toList.head?) heq.2
      simp at hhead
    · exact h
  · rcases hwhich' maxDepth with ⟨h, -⟩ | ⟨-, ⟨c, heq⟩ | ⟨message, heq⟩⟩
    · exact h
    · rw [hload'] at heq
      cases heq
    · rw [hload', Except.error.injEq, Failure.mk.injEq] at heq
      have hhead := congrArg (·.toList.head?) heq.2
      simp at hhead

theorem lint_of_nameTooLong {fs : Files} {p : FilePath} {r : LintRequest} {format : Format}
    (hformat : Format.ofName? r.format = some format) (hpath : IsChosen fs r.config p)
    (hname : fs.entry p = .error .nameTooLong) :
    Config.load fs maxDepth r.config = .error (Files.Problem.nameTooLong.failure p)
      ∧ lint fs r = .failed (Files.Problem.nameTooLong.failure p) := by
  have hload : Config.load fs maxDepth r.config
      = .error (Files.Problem.nameTooLong.failure p) := by
    rw [hpath.load_eq, Config.loadFrom, Files.holds, hname]
    rfl
  refine ⟨hload, ?_⟩
  simp only [lint, hformat, hload, Files.Problem.failure, reduceCtorEq, if_false]

/-- Not every configuration that is not loaded is told so: a name with more octets than names may
have leads to a failure of another kind, which nothing catches. -/
theorem lint_of_long_name :
    let name := String.ofList (List.replicate 256 'a')
    let fs : Files := ⟨.directory [], []⟩
    let r : LintRequest :=
      { paths := [⟨.here, ["a.svg"]⟩], config := some ⟨.here, [name]⟩, format := "json" }
    ∃ f, Config.load fs maxDepth r.config = .error f ∧ f.kind = .os
      ∧ (lint fs r).unexpected = some f := by
  intro name fs r
  have hlength : name.utf8ByteSize = 256 := by decide +kernel
  have hnull : name.toList.contains '\x00' = false := by
    rw [String.toList_ofList]
    decide
  have hname : fs.entry ⟨.here, [name]⟩ = .error .nameTooLong :=
    Files.entry_of_long_name hnull (by rw [hlength]; decide) (by rw [hlength]; decide)
  obtain ⟨hload, hlint⟩ := lint_of_nameTooLong (r := r) rfl (.inl rfl) hname
  refine ⟨_, hload, rfl, ?_⟩
  rw [hlint]
  rfl

end CommandLine

end VectorLint
