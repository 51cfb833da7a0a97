import VectorLint.Report.Reporters

/-!
# What reporters keep

Whatever is done with a reporter and those that come of it, they have one report behind them. So
the whole of a history comes down to two things: the list of views that there are by now, which
grows with each reporter that is made and decides on whose behalf an operation reports, and the one
report, which is open up to the first time that any reporter is closed.

Both are told by the operations alone. What a history comes to is read off it without looking at a
report: the findings before the first closing are kept, and those behind it are only logged.
-/

namespace VectorLint

namespace Reporter.Operation

/-! ## What operations come to -/

/-- The views that there are behind an operation. -/
def viewsBehind (views : List View) (op : Operation) : List View :=
  match views[op.reporter]?, op.deed with
  | some v, .scope name => views ++ [v.scoped name]
  | _, _ => views

/-- The finding that an operation makes, and the view through which it is made. -/
def finding? (views : List View) (op : Operation) : Option (View × Diagnostic) :=
  match views[op.reporter]?, op.deed with
  | some v, .report severity message element => some (v, ⟨severity, message, v.name, element⟩)
  | some v, .exception f => some (v, ⟨.exception, .text f.message, v.name, none⟩)
  | _, _ => none

/-- Whether an operation closes one of the reporters. -/
def closes (views : List View) (op : Operation) : Bool :=
  match views[op.reporter]?, op.deed with
  | some _, .close => true
  | _, _ => false

/-- The views that there are behind some operations. -/
def viewsBehindAll (views : List View) (ops : List Operation) : List View :=
  ops.foldl viewsBehind views

/-- The findings that operations make, in order, whether they are kept or not. -/
def findings (views : List View) : List Operation → List (View × Diagnostic)
  | [] => []
  | op :: ops => (op.finding? views).toList ++ findings (op.viewsBehind views) ops

/-- The operations up to the first that closes a reporter, without it. -/
def beforeClose (views : List View) : List Operation → List Operation
  | [] => []
  | op :: ops => if op.closes views then [] else op :: beforeClose (op.viewsBehind views) ops

/-- The operations from the first on that closes a reporter. -/
def fromClose (views : List View) : List Operation → List Operation
  | [] => []
  | op :: ops => if op.closes views then op :: ops else fromClose (op.viewsBehind views) ops

end Reporter.Operation

/-- What is logged about a finding that is kept. -/
def Diagnostic.kept (p : View × Diagnostic) : Log.Record :=
  .debug p.1.logger ("Reported " ++ p.2.shown)

/-- What is logged about a finding that is dropped. -/
def Diagnostic.dropped (p : View × Diagnostic) : Log.Record :=
  .debug p.1.logger ("Ignoring report after lint completed: " ++ p.2.shown)

namespace Reporters

open Reporter (Operation)
open Reporter.Operation

/-! ## One report behind all -/

/-- Reporters with some views and one report behind all of them. -/
def sharing (views : List View) (report : Report) : Reporters := ⟨[report], views.map (⟨·, 0⟩)⟩

/-- The report behind an operation. -/
def reportBehind (views : List View) (report : Report) (op : Operation) : Report :=
  if op.closes views then report.close
  else
    match op.finding? views with
    | some (v, d) => report.add v.logger d
    | none => report

theorem perform_sharing (views : List View) (report : Report) (op : Operation) :
    (sharing views report).perform op
      = sharing (op.viewsBehind views) (reportBehind views report op) := by
  obtain ⟨number, deed⟩ := op
  rw [perform, sharing, List.getElem?_map, reportBehind]
  cases hv : views[number]? with
  | none => simp [viewsBehind, closes, finding?, hv, sharing]
  | some v =>
    cases deed with
    | scope name => simp [act, viewsBehind, closes, finding?, hv, sharing, Reporter.scoped]
    | close => simp [act, change, viewsBehind, closes, hv, sharing]
    | report severity message element =>
      simp [act, change, viewsBehind, closes, finding?, hv, sharing, Report.report]
    | exception f =>
      simp [act, change, viewsBehind, closes, finding?, hv, sharing, Report.exception,
        Report.report]

theorem reportOf_sharing {views : List View} {report : Report} {r : Reporter}
    (h : r ∈ (sharing views report).made) : (sharing views report).reportOf r = report := by
  obtain ⟨v, -, rfl⟩ := List.mem_map.mp h
  rfl

/-! ## One operation -/

section Step

variable (views : List View) {report : Report} (op : Operation)

theorem finding?_of_closes {views : List View} {op : Operation} (h : op.closes views = true) :
    op.finding? views = none := by
  rw [closes] at h
  rw [finding?]
  split at h
  · rename_i hv hd
    rw [hv, hd]
  · cases h

theorem reportBehind_of_closed (h : report.isClosed = true) :
    (reportBehind views report op).isClosed = true
      ∧ (reportBehind views report op).diagnostics.toList = report.diagnostics.toList
      ∧ (reportBehind views report op).log.toList
        = report.log.toList ++ (op.finding? views).toList.map Diagnostic.dropped := by
  rw [reportBehind]
  split
  · rename_i hcloses
    rw [finding?_of_closes hcloses]
    exact ⟨rfl, rfl, (List.append_nil _).symm⟩
  · cases op.finding? views with
    | none => exact ⟨h, rfl, (List.append_nil _).symm⟩
    | some p => simp [Report.add, h, Report.note, Diagnostic.dropped]

theorem reportBehind_of_open {op : Operation} (h : report.isClosed = false)
    (hop : op.closes views = false) :
    (reportBehind views report op).isClosed = false
      ∧ (reportBehind views report op).diagnostics.toList
        = report.diagnostics.toList ++ (op.finding? views).toList.map (·.2)
      ∧ (reportBehind views report op).log.toList
        = report.log.toList ++ (op.finding? views).toList.map Diagnostic.kept := by
  rw [reportBehind, if_neg (by simp [hop])]
  cases op.finding? views with
  | none => exact ⟨h, (List.append_nil _).symm, (List.append_nil _).symm⟩
  | some p => simp [Report.add, h, Report.note, Diagnostic.kept]

end Step

/-! ## Histories -/

theorem findings_eq_append (views : List View) (ops : List Operation) :
    findings views ops = findings views (beforeClose views ops)
      ++ findings (viewsBehindAll views (beforeClose views ops)) (fromClose views ops) := by
  induction ops generalizing views with
  | nil => rfl
  | cons op ops ih =>
    rw [beforeClose, fromClose]
    split
    · rfl
    · rw [findings, findings, ih, List.append_assoc]
      rfl

theorem performAll_of_closed (views : List View) (report : Report) (h : report.isClosed = true)
    (ops : List Operation) :
    ∃ report', (sharing views report).performAll ops = sharing (viewsBehindAll views ops) report'
      ∧ report'.isClosed = true ∧ report'.diagnostics.toList = report.diagnostics.toList
      ∧ report'.log.toList
        = report.log.toList ++ (findings views ops).map Diagnostic.dropped := by
  induction ops generalizing views report with
  | nil => exact ⟨report, rfl, h, rfl, (List.append_nil _).symm⟩
  | cons op ops ih =>
    obtain ⟨hclosed, hkept, hlog⟩ := reportBehind_of_closed views op h
    obtain ⟨report', heq, hclosed', hkept', hlog'⟩ := ih (op.viewsBehind views) _ hclosed
    refine ⟨report', ?_, hclosed', hkept'.trans hkept, ?_⟩
    · rw [performAll, List.foldl_cons, perform_sharing]
      exact heq
    · rw [hlog', hlog, findings, List.map_append, List.append_assoc]

theorem performAll_of_open (views : List View) (report : Report) (h : report.isClosed = false)
    (ops : List Operation) :
    ∃ report', (sharing views report).performAll ops = sharing (viewsBehindAll views ops) report'
      ∧ (report'.isClosed = true ↔ fromClose views ops ≠ [])
      ∧ report'.diagnostics.toList
        = report.diagnostics.toList ++ (findings views (beforeClose views ops)).map (·.2)
      ∧ report'.log.toList = report.log.toList
        ++ (findings views (beforeClose views ops)).map Diagnostic.kept
        ++ (findings (viewsBehindAll views (beforeClose views ops)) (fromClose views ops)).map
          Diagnostic.dropped := by
  induction ops generalizing views report with
  | nil => exact ⟨report, rfl, by simp [fromClose, h], by simp [beforeClose, findings],
      by simp [beforeClose, fromClose, findings]⟩
  | cons op ops ih =>
    rw [beforeClose, fromClose]
    cases hop : op.closes views with
    | true =>
      -- the first closing: what is behind it goes to a closed report
      obtain ⟨report', heq, hclosed, hkept, hlog⟩ :=
        performAll_of_closed views report.close rfl (op :: ops)
      have hclose : (sharing views report).performAll (op :: ops)
          = (sharing views report.close).performAll (op :: ops) := by
        rw [performAll, performAll, List.foldl_cons, List.foldl_cons, perform_sharing,
          perform_sharing, reportBehind, reportBehind, if_pos hop, if_pos hop]
        rfl
      refine ⟨report', hclose.trans heq, by simp [hclosed], ?_, ?_⟩
      · simpa [findings] using hkept
      · simpa [findings, viewsBehindAll, Report.close] using hlog
    | false =>
      obtain ⟨hopen, hkept, hlog⟩ := reportBehind_of_open views h hop
      obtain ⟨report', heq, hclosed', hkept', hlog'⟩ := ih (op.viewsBehind views) _ hopen
      simp only [Bool.false_eq_true, if_false]
      refine ⟨report', ?_, hclosed', ?_, ?_⟩
      · rw [performAll, List.foldl_cons, perform_sharing]
        exact heq
      · rw [hkept', hkept, findings, List.map_append, List.append_assoc]
      · rw [hlog', hlog, findings, List.map_append]
        simp only [List.append_assoc]
        rfl

/-- **What reporters keep.** After any operations on a reporter and those that came of it, all of
them have the same findings behind them: those of the operations before the first closing, in
order, each made through the view of the reporter that was used. All of them are closed if one was,
and then nothing opens them or adds a finding, whatever else is done and whatever other reporters
are made. Each finding has one record in the log, which says whether it was kept. -/
theorem kept_of_performAll (v : View) (ops more : List Operation) :
    let s := (ofView v).performAll ops
    let s' := s.performAll more
    let kept := findings [v] (beforeClose [v] ops)
    let dropped := findings (viewsBehindAll [v] (beforeClose [v] ops)) (fromClose [v] ops)
    s.made.map (·.view) = viewsBehindAll [v] ops ∧ findings [v] ops = kept ++ dropped ∧
      (∀ r ∈ s.made, (s.reportOf r).diagnostics.toList = kept.map (·.2) ∧
        (s.reportOf r).log.toList = kept.map Diagnostic.kept ++ dropped.map Diagnostic.dropped ∧
        ((s.reportOf r).isClosed = true ↔ fromClose [v] ops ≠ [])) ∧
      (fromClose [v] ops ≠ [] → ∀ r ∈ s'.made, (s'.reportOf r).isClosed = true ∧
        (s'.reportOf r).diagnostics.toList = kept.map (·.2)) := by
  intro s s' kept dropped
  obtain ⟨report, heq, hclosed, hkept, hlog⟩ := performAll_of_open [v] {} rfl ops
  have hs : s = sharing (viewsBehindAll [v] ops) report := heq
  have hsame : report.diagnostics.toList = kept.map (·.2) := hkept
  refine ⟨?_, findings_eq_append [v] ops, fun r hr ↦ ?_, fun hclose r hr ↦ ?_⟩
  · rw [hs, sharing, List.map_map]
    exact List.map_id _
  · rw [hs] at hr ⊢
    rw [reportOf_sharing hr]
    exact ⟨hsame, hlog, hclosed⟩
  · obtain ⟨report', heq', hclosed', hkept', -⟩ :=
      performAll_of_closed (viewsBehindAll [v] ops) report (hclosed.mpr hclose) more
    have hs' : s' = sharing (viewsBehindAll (viewsBehindAll [v] ops) more) report' := by
      rw [← heq', ← hs]
    rw [hs'] at hr ⊢
    rw [reportOf_sharing hr]
    exact ⟨hclosed', hkept'.trans hsame⟩

/-- Three reporters, one inside the other. The innermost one warns, the one around it fails and is
closed, and the first one reports an error, which is dropped; so is what a fourth one, which is made
after that, warns of. -/
theorem kept_of_performAll_nested :
    let ops : List Operation := [⟨0, .scope "elm"⟩, ⟨1, .scope "b"⟩,
      ⟨2, .report .warning (.text "seen") none⟩, ⟨1, .exception ⟨.value, "bad"⟩⟩, ⟨1, .close⟩,
      ⟨0, .report .error (.text "late") none⟩]
    let more : List Operation := [⟨2, .scope "c"⟩, ⟨3, .report .warning (.text "later") none⟩]
    let s := (ofView (.bare none)).performAll ops
    let s' := s.performAll more
    (⟨⟨some "b", "svglint.reporter.elm.b"⟩, 0⟩ : Reporter) ∈ s.made ∧
      (∀ r ∈ s.made, (s.reportOf r).diagnostics.toList.map (·.shown)
          = ["[WARNING] b: seen", "[EXCEPTION] elm: ValueError: bad"] ∧
        (s.reportOf r).log.toList.map (·.message) = ["Reported [WARNING] b: seen",
          "Reported [EXCEPTION] elm: ValueError: bad",
          "Ignoring report after lint completed: [ERROR] late"]) ∧
      s'.made.length = 4 ∧ ∀ r ∈ s'.made, (s'.reportOf r).isClosed = true := by
  intro ops more s s'
  obtain ⟨-, -, hkept, hclosed⟩ := kept_of_performAll (.bare none) ops more
  refine ⟨by decide +kernel, fun r hr ↦ ?_, by decide +kernel, fun r hr ↦ ?_⟩
  · rw [(hkept r hr).1, (hkept r hr).2.1]
    decide +kernel
  · exact (hclosed (List.ne_nil_of_length_pos (by decide +kernel)) r hr).1

end Reporters

end VectorLint
