import Mathlib.Data.List.Flatten
import VectorLint.Proofs.Run.Operations

/-!
# What callbacks see

A callback is given the run when it is called, and can look at anything in it. What it sees is its
sight of the run: the state and the findings at the moment of the call. Since nothing but the end
of a run calls what was registered before, and a registration calls what is registered later, the
sights of all operations are the calls that were made, in their order.

The single fact behind everything here is that a callback is never called before the run is
settled. From then on neither the state nor the findings change, so all sights are alike and show
what the run shows in the end.
-/

namespace VectorLint.Run

open Callback (upToFailure)

/-- What a callback sees of a run when it is called. -/
structure Sight where
  label : String
  state : State
  diagnostics : List Diagnostic

/-- The sight of a run as it is. -/
def sight (r : Run) (label : String) : Sight := ⟨label, r.state, r.diagnostics⟩

mutual

/-- The sights of a callback that is called, and of those that it has called. -/
def sights (r : Run) : Callback → List Sight
  | ⟨label, next, _⟩ =>
    r.sight label :: { r with calls := r.calls ++ [(label, r.state)] }.sightsOfNext next

/-- The sights of callbacks that are registered in order: those that are called at once, up to one
that fails. -/
def sightsOfNext (r : Run) : List Callback → List Sight
  | [] => []
  | c :: cs =>
    (if r.isDone then r.sights c else []) ++
      match if r.isDone then r.call c else (r.register c, none) with
      | (r', none) => r'.sightsOfNext cs
      | (_, some _) => []

end

/-- The sights of callbacks that are called in order, up to one that fails. -/
def sightsOfAll (r : Run) : List Callback → List Sight
  | [] => []
  | c :: cs =>
    r.sights c ++ match r.call c with
      | (r', none) => r'.sightsOfAll cs
      | (_, some _) => []

/-- The sights at the end of a run. -/
def sightsOfEnd (r : Run) : List Sight := { r.settle with callbacks := [] }.sightsOfAll r.callbacks

/-- The sights of an operation. -/
def sightsOf (r : Run) : Operation → List Sight
  | .run =>
    let r' := { r.begun with turns := r.begun.turns.finish }
    if !r.isStarted && r'.turns.waiting.isEmpty then r'.sightsOfEnd else []
  | .complete => if r.canComplete then r.sightsOfEnd else []
  | .onDone c => if r.isDone then r.sights c else []
  | _ => []

/-- The callbacks that an operation registers. -/
def Operation.registered : Operation → List Callback
  | .onDone c => [c]
  | _ => []

/-- The callbacks that operations register before the run is done. -/
def early : Run → List Operation → List Callback :=
  gather fun r op ↦ if r.isDone then [] else op.registered

/-- The callbacks that operations register when the run is done. -/
def late : Run → List Operation → List Callback :=
  gather fun r op ↦ if r.isDone then op.registered else []

/-- The sights of operations. -/
def allSights : Run → List Operation → List Sight := gather sightsOf

/-! ## Sights of a run that is done -/

mutual

theorem sights_of_isDone {r : Run} (hr : r.isDone = true) : ∀ c : Callback,
    r.sights c = c.told.map r.sight
  | ⟨label, next, _⟩ => by
    have hnext :=
      sightsOfNext_of_isDone (r := { r with calls := r.calls ++ [(label, r.state)] }) hr next
    rw [sights, hnext, Callback.told]
    rfl

theorem sightsOfNext_of_isDone {r : Run} (hr : r.isDone = true) : ∀ cs : List Callback,
    r.sightsOfNext cs = (Callback.toldInOrder cs).map r.sight
  | [] => rfl
  | c :: cs => by
    rw [sightsOfNext, if_pos hr, if_pos hr, sights_of_isDone hr c, call_of_isDone hr,
      Callback.toldInOrder, List.map_append]
    cases c.failure? with
    | some f => rfl
    | none =>
      exact congrArg (c.told.map r.sight ++ ·) (sightsOfNext_of_isDone
        (r := { r with calls := r.calls ++ c.told.map (·, r.state) }) hr cs)

end

theorem sightsOfAll_of_isDone {r : Run} (hr : r.isDone = true) (cs : List Callback) :
    r.sightsOfAll cs = ((upToFailure cs).flatMap (·.told)).map r.sight := by
  induction cs generalizing r with
  | nil => rfl
  | cons c cs ih =>
    have hrest := ih (r := { r with calls := r.calls ++ c.told.map (·, r.state) }) hr
    rw [sightsOfAll, sights_of_isDone hr, call_of_isDone hr, upToFailure]
    cases c.failure? with
    | some f => simp
    | none =>
      simp only [hrest, Option.isSome_none, Bool.false_eq_true, if_false, List.flatMap_cons,
        List.map_append]
      rfl

theorem sightsOfEnd_eq (r : Run) :
    r.sightsOfEnd = ((upToFailure r.callbacks).flatMap (·.told)).map r.settle.sight :=
  sightsOfAll_of_isDone (r := { r.settle with callbacks := [] }) (isDone_settle r) r.callbacks

/-! ## One operation -/

/-- Whether an operation is a second call to run a run, which changes nothing. -/
structure Refuses (r : Run) (op : Operation) : Prop where
  isStarted : r.isStarted = true
  eq_run_or_start : op = .run ∨ op = .start
  perform_eq : (r.perform op).1 = r

/-- Whether an operation calls nothing: it keeps a run pending, and only a registration changes the
callbacks. -/
structure CallsNothing (r : Run) (op : Operation) : Prop where
  isDone : (r.perform op).1.isDone = false
  callbacks_eq : (r.perform op).1.callbacks = r.callbacks ++ op.registered
  calls_eq : (r.perform op).1.calls = r.calls
  sights_eq : r.sightsOf op = []
  failure_eq_or : (r.perform op).2 = none ∨ r.Refuses op

/-- Whether an operation ends a run: the callbacks up to the first that fails see the settled run,
and it fails as that callback does. -/
structure EndsRun (r : Run) (op : Operation) : Prop where
  isDone : (r.perform op).1.isDone = true
  registered_eq : op.registered = []
  callbacks_eq : (r.perform op).1.callbacks = []
  calls_eq : (r.perform op).1.calls
    = r.calls ++ ((upToFailure r.callbacks).flatMap (·.told)).map (·, (r.perform op).1.state)
  sights_eq : r.sightsOf op
    = ((upToFailure r.callbacks).flatMap (·.told)).map (r.perform op).1.sight
  failure_eq : (r.perform op).2 = r.callbacks.findSome? (·.failure?)

/-- Whether an operation calls what it registers, and nothing else. -/
structure CallsAtOnce (r : Run) (op : Operation) : Prop where
  callbacks_eq : (r.perform op).1.callbacks = r.callbacks
  calls_eq : (r.perform op).1.calls = r.calls ++ (op.registered.flatMap (·.told)).map (·, r.state)
  sights_eq : r.sightsOf op = (op.registered.flatMap (·.told)).map r.sight
  failure_eq_or : (r.perform op).2 = op.registered.findSome? (·.failure?) ∨ r.Refuses op

theorem CallsNothing.of_eq {r r' : Run} {op : Operation} (h : r.perform op = (r', none))
    (hdone : r'.isDone = false) (hcallbacks : r'.callbacks = r.callbacks)
    (hcalls : r'.calls = r.calls) (hregistered : op.registered = [])
    (hsights : r.sightsOf op = []) : r.CallsNothing op := by
  refine ⟨?_, ?_, ?_, hsights, .inl (by rw [h])⟩
  · rw [h]
    exact hdone
  · rw [h, hregistered, List.append_nil]
    exact hcallbacks
  · rw [h]
    exact hcalls

theorem refuses {r : Run} (hs : r.isStarted = true) {op : Operation}
    (hop : op = .run ∨ op = .start) : r.Refuses op := by
  refine ⟨hs, hop, ?_⟩
  rcases hop with rfl | rfl
  · rw [perform, Run.run, start, if_pos hs]
  · rw [perform, start, if_pos hs]

theorem Refuses.registered_eq {r : Run} {op : Operation} (h : r.Refuses op) :
    op.registered = [] := by
  rcases h.eq_run_or_start with rfl | rfl <;> rfl

theorem Refuses.sights_eq {r : Run} {op : Operation} (h : r.Refuses op) : r.sightsOf op = [] := by
  rcases h.eq_run_or_start with rfl | rfl
  · simp [sightsOf, h.isStarted]
  · rfl

theorem Refuses.callsNothing {r : Run} {op : Operation} (h : r.Refuses op)
    (hr : r.isDone = false) : r.CallsNothing op := by
  refine ⟨?_, ?_, ?_, h.sights_eq, .inr h⟩
  · rw [h.perform_eq]
    exact hr
  · rw [h.perform_eq, h.registered_eq, List.append_nil]
  · rw [h.perform_eq]

theorem Refuses.callsAtOnce {r : Run} {op : Operation} (h : r.Refuses op) : r.CallsAtOnce op := by
  refine ⟨?_, ?_, ?_, .inr h⟩
  · rw [h.perform_eq]
  · rw [h.perform_eq, h.registered_eq]
    exact (List.append_nil _).symm
  · rw [h.sights_eq, h.registered_eq]
    rfl

theorem EndsRun.of_complete {r : Run} (r' : Run) {op : Operation}
    (hcallbacks : r'.callbacks = r.callbacks) (hcalls : r'.calls = r.calls)
    (hregistered : op.registered = []) (hperform : r.perform op = r'.complete)
    (hsights : r.sightsOf op = r'.sightsOfEnd) : r.EndsRun op := by
  rw [sightsOfEnd_eq, hcallbacks] at hsights
  rw [complete_eq_told, hcallbacks, hcalls] at hperform
  have hdone : r'.settle.isDone = true := isDone_settle r'
  refine ⟨?_, hregistered, ?_, ?_, ?_, ?_⟩
  · rw [hperform]
    exact hdone
  · rw [hperform]
  · rw [hperform]
  · rw [hsights, hperform]
    rfl
  · rw [hperform]

theorem callsNothing_or_endsRun_run {r : Run} (hr : r.isDone = false) (hs : r.isStarted = false) :
    r.CallsNothing .run ∨ r.EndsRun .run := by
  by_cases hw : r.begun.turns.finish.waiting = []
  · refine .inr (.of_complete { r.begun with turns := r.begun.turns.finish } rfl rfl rfl ?_
      (by simp [sightsOf, hs, hw]))
    rw [perform, run_eq_complete hs hw]
    -- the failure of the end is that of the call
    generalize complete _ = e
    obtain ⟨r', _ | f⟩ := e <;> rfl
  · have hwaits : r.perform .run = ({ r.begun with turns := r.begun.turns.finish }, none) := by
      rw [perform, Run.run, start, if_neg (by simp [hs])]
      simp [hw, failureOf]
    exact .inl (.of_eq hwaits hr rfl rfl rfl (by simp [sightsOf, hs, hw]))

/-- **One operation on a pending run** calls nothing, or ends the run. -/
theorem callsNothing_or_endsRun {r : Run} (hr : r.isDone = false) (op : Operation) :
    r.CallsNothing op ∨ r.EndsRun op := by
  cases op with
  | run =>
    cases hs : r.isStarted with
    | true => exact .inl ((refuses hs (.inl rfl)).callsNothing hr)
    | false => exact callsNothing_or_endsRun_run hr hs
  | start =>
    cases hs : r.isStarted with
    | true => exact .inl ((refuses hs (.inr rfl)).callsNothing hr)
    | false =>
      have hbegun : r.perform .start = (r.begun, none) := by
        rw [perform, start, if_neg (by simp [hs])]
      exact .inl (.of_eq hbegun hr rfl rfl rfl rfl)
  | turn place =>
    cases hready : r.turns.ready[place]? with
    | none =>
      have hnone : r.perform (.turn place) = (r, none) := by rw [perform, hready]
      exact .inl (.of_eq hnone hr rfl rfl rfl rfl)
    | some t =>
      have hturn : r.perform (.turn place) =
          ({ r with turns :=
            r.turns.resume (r.turns.ready.take place) t (r.turns.ready.drop (place + 1)) },
            none) := by
        rw [perform, hready]
      exact .inl (.of_eq hturn hr rfl rfl rfl rfl)
  | complete =>
    cases hc : r.canComplete with
    | true => exact .inr (.of_complete r rfl rfl rfl (if_pos hc) (if_pos hc))
    | false =>
      have hnone : r.perform .complete = (r, none) := if_neg (by simp [hc])
      exact .inl (.of_eq hnone hr rfl rfl rfl (if_neg (by simp [hc])))
  | onDone c =>
    have hregister : r.perform (.onDone c) = (r.register c, none) := if_neg (by simp [hr])
    refine .inl ⟨?_, ?_, ?_, if_neg (by simp [hr]), .inl ?_⟩
    · rw [hregister]
      exact hr
    · rw [hregister]
      rfl
    · rw [hregister]
      rfl
    · rw [hregister]
  | wait =>
    obtain ⟨waiters, answers, heq⟩ := wait_eq r
    exact .inl (.of_eq (congrArg (·, none) heq) hr rfl rfl rfl rfl)
  | report v severity message element => exact .inl (.of_eq rfl hr rfl rfl rfl rfl)
  | close => exact .inl (.of_eq rfl hr rfl rfl rfl rfl)

/-- **One operation on a run that is done** calls what it registers, at once; what is called sees
the run as it has been since it was settled. -/
theorem Settled.callsAtOnce {r : Run} (hr : r.Settled) (op : Operation) : r.CallsAtOnce op := by
  have hnone : r.calls = r.calls ++ [] := (List.append_nil _).symm
  cases op with
  | run => exact (refuses hr.isStarted (.inl rfl)).callsAtOnce
  | start => exact (refuses hr.isStarted (.inr rfl)).callsAtOnce
  | turn place =>
    have hidle : r.perform (.turn place) = (r, none) := by rw [perform, hr.ready_eq]; rfl
    refine ⟨?_, ?_, rfl, .inl ?_⟩ <;> rw [hidle]
    · exact hnone
    · rfl
  | complete =>
    have hc : r.canComplete = false := by simp [canComplete, hr.isDone]
    have hidle : r.perform .complete = (r, none) := if_neg (by simp [hc])
    refine ⟨?_, ?_, if_neg (by simp [hc]), .inl ?_⟩ <;> rw [hidle]
    · exact hnone
    · rfl
  | onDone c =>
    have hdone := hr.isDone
    have hcalled : r.perform (.onDone c)
        = ({ r with calls := r.calls ++ c.told.map (·, r.state) }, c.failure?) :=
      (if_pos hdone).trans (call_of_isDone hdone c)
    have hseen : r.sightsOf (.onDone c) = c.told.map r.sight :=
      (if_pos hdone).trans (sights_of_isDone hdone c)
    refine ⟨?_, ?_, ?_, .inl ?_⟩
    · rw [hcalled]
    · rw [hcalled, Operation.registered, List.flatMap_singleton]
    · rw [hseen, Operation.registered, List.flatMap_singleton]
    · rw [hcalled, Operation.registered, List.findSome?_singleton]
  | wait =>
    obtain ⟨waiters, answers, heq⟩ := wait_eq r
    have hwaits : r.perform .wait = ({ r with waiters, answers }, none) :=
      congrArg (·, none) heq
    refine ⟨?_, ?_, rfl, .inl ?_⟩ <;> rw [hwaits]
    · exact hnone
    · rfl
  | report v severity message element => exact ⟨rfl, hnone, rfl, .inl rfl⟩
  | close => exact ⟨rfl, hnone, rfl, .inl rfl⟩

/-! ## All operations -/

/-- How a run stands after operations that registered `early` before its end and `late` when it was
done, and whose sights are `seen`. -/
structure Stands (r : Run) (early late : List Callback) (seen : List Sight) : Prop where
  calls_eq : r.calls = seen.map fun s ↦ (s.label, s.state)
  of_pending : r.isDone = false → r.callbacks = early ∧ late = [] ∧ seen = []
  of_isDone : r.isDone = true → r.callbacks = []
    ∧ seen = ((upToFailure early ++ late).flatMap (·.told)).map r.sight

theorem stands_performAll {r₀ : Run} (h₀ : r₀.IsNew) (hcallbacks : r₀.callbacks = [])
    (hcalls : r₀.calls = []) (ops : List Operation) :
    (r₀.performAll ops).Stands (r₀.early ops) (r₀.late ops) (r₀.allSights ops) := by
  induction ops using List.reverseRecOn with
  | nil =>
    have hpending : r₀.isDone = false := by simp [isDone, h₀.state_eq]
    exact ⟨hcalls, fun _ ↦ ⟨hcallbacks, rfl, rfl⟩, fun hd ↦ by simp [performAll, hpending] at hd⟩
  | append_singleton ops op ih =>
    have hreaches := reaches_performAll h₀ ops
    rw [performAll_concat, early, gather_concat, late, gather_concat, allSights, gather_concat]
    rw [early, late, allSights] at ih
    generalize r₀.performAll ops = r at hreaches ih ⊢
    generalize gather sightsOf r₀ ops = seen at ih ⊢
    cases hd : r.isDone with
    | false =>
      obtain ⟨hkept, hlate, hseen⟩ := ih.of_pending hd
      have hnone := ih.calls_eq
      rw [hseen] at hnone
      simp only [hlate, hseen, hkept.symm, Bool.false_eq_true, if_false, List.nil_append,
        List.append_nil]
      rcases callsNothing_or_endsRun hd op with h | h
      · refine ⟨?_, fun _ ↦ ⟨h.callbacks_eq, rfl, h.sights_eq⟩, fun hdone ↦ ?_⟩
        · rw [h.calls_eq, h.sights_eq, hnone]
        · exact absurd (h.isDone.symm.trans hdone) (by simp)
      · refine ⟨?_, fun hdone ↦ ?_, fun _ ↦ ⟨h.callbacks_eq, ?_⟩⟩
        · rw [h.calls_eq, h.sights_eq, hnone, List.map_map]
          rfl
        · exact absurd (hdone.symm.trans h.isDone) (by simp)
        · rw [h.sights_eq, h.registered_eq, List.append_nil, List.append_nil]
    | true =>
      have hsettled := hreaches.settled h₀ hd
      obtain ⟨hsame, hcalled, hseen, -⟩ := hsettled.callsAtOnce op
      obtain ⟨hsettled', hstate, hfound⟩ :=
        hsettled.of_reaches (reaches_perform (fun _ ↦ hsettled.isStarted) op)
      obtain ⟨hgone, htold⟩ := ih.of_isDone hd
      have hsight : (r.perform op).1.sight = r.sight := by
        funext label
        rw [sight, sight, hstate, hfound]
      simp only [if_true, List.append_nil]
      refine ⟨?_, fun hdone ↦ ?_, fun _ ↦ ⟨hsame.trans hgone, ?_⟩⟩
      · rw [hcalled, ih.calls_eq, hseen, List.map_append, List.map_map]
        rfl
      · exact absurd (hdone.symm.trans hsettled'.isDone) (by simp)
      · rw [htold, hseen, hsight, ← List.map_append, ← List.flatMap_append, List.append_assoc]

theorem upToFailure_isPrefix (cs : List Callback) : upToFailure cs <+: cs := by
  induction cs with
  | nil => exact List.prefix_rfl
  | cons c cs ih =>
    rw [upToFailure]
    split
    · exact List.prefix_append [c] cs
    · exact (List.prefix_cons_inj c).mpr ih

theorem failure_of_perform {r : Run} (hr : r.isDone = true → r.Settled) {op : Operation}
    {f : Failure} (h : (r.perform op).2 = some f) :
    r.Refuses op ∨ ((r.perform op).1.isDone = true
      ∧ ∃ c ∈ r.callbacks ++ op.registered, c.failure? = some f) := by
  cases hd : r.isDone with
  | false =>
    rcases callsNothing_or_endsRun hd op with hnothing | hends
    · exact .inl (hnothing.failure_eq_or.resolve_left (by simp [h]))
    · rw [hends.failure_eq] at h
      obtain ⟨c, hc, hfails⟩ := List.exists_of_findSome?_eq_some h
      exact .inr ⟨hends.isDone, c, List.mem_append_left _ hc, hfails⟩
  | true =>
    have hsettled := hr hd
    rcases (hsettled.callsAtOnce op).failure_eq_or with hcalled | hrefuses
    · rw [hcalled] at h
      obtain ⟨c, hc, hfails⟩ := List.exists_of_findSome?_eq_some h
      obtain ⟨hsettled', -⟩ :=
        hsettled.of_reaches (reaches_perform (fun _ ↦ hsettled.isStarted) op)
      exact .inr ⟨hsettled'.isDone, c, List.mem_append_right _ hc, hfails⟩
    · exact .inl hrefuses

/-! ## What the sights are -/

section

variable {r : Run} {early late : List Callback} {seen : List Sight}

theorem Stands.labels_eq (h : r.Stands early late seen) (hr : r.isDone = true) :
    seen.map (·.label) = (upToFailure early ++ late).flatMap (·.told) := by
  rw [(h.of_isDone hr).2, List.map_map]
  exact List.map_id' _

theorem Stands.alike (h : r.Stands early late seen) {s : Sight} (hs : s ∈ seen) :
    s.state = r.state ∧ s.state ≠ .pending ∧ s.diagnostics = r.diagnostics := by
  cases hd : r.isDone with
  | false =>
    rw [(h.of_pending hd).2.2] at hs
    exact absurd hs List.not_mem_nil
  | true =>
    rw [(h.of_isDone hd).2] at hs
    obtain ⟨label, -, rfl⟩ := List.mem_map.mp hs
    exact ⟨rfl, of_decide_eq_true hd, rfl⟩

/-- Nothing is seen that was not registered, and nothing more often than that. -/
theorem Stands.sublist (h : r.Stands early late seen) :
    (seen.map (·.label)).Sublist ((early ++ late).flatMap (·.told)) := by
  cases hd : r.isDone with
  | false =>
    rw [(h.of_pending hd).2.2]
    exact List.nil_sublist _
  | true =>
    rw [h.labels_eq hd]
    exact ((upToFailure_isPrefix early).sublist.append_right late).flatMap _

end

/-- **All operations.** Whatever is done with a new run, no callback is called before the run is
done, and all calls see one and the same state and the same findings, which are those that the run
has then and ever after.

Callbacks that are registered before the end are kept until then. At the end those up to the first
that fails are called in the order of registration, and what a callback registers is called right
behind it; what is registered later is called at once. So nothing is called twice. An operation
that fails has been refused, or one of its callbacks fails; then the run is done all the same, its
report is closed, and nobody is left waiting. -/
theorem sights_performAll {r₀ : Run} (h₀ : r₀.IsNew) (hcallbacks : r₀.callbacks = [])
    (hcalls : r₀.calls = []) (ops : List Operation) :
    let r := r₀.performAll ops
    let early := r₀.early ops
    let late := r₀.late ops
    let seen := r₀.allSights ops
    r.calls = seen.map (fun s ↦ (s.label, s.state))
      ∧ (∀ s ∈ seen, s.state = r.state ∧ s.state ≠ .pending ∧ s.diagnostics = r.diagnostics)
      ∧ (r.state = .pending → r.callbacks = early ∧ late = [] ∧ seen = [])
      ∧ (r.state ≠ .pending → r.callbacks = []
        ∧ seen.map (·.label) = (upToFailure early ++ late).flatMap (·.told)
        ∧ ∀ c, (r.onDone c).1.calls = r.calls ++ c.told.map (·, r.state))
      ∧ (seen.map (·.label)).Sublist ((early ++ late).flatMap (·.told))
      ∧ ∀ op f, (r.perform op).2 = some f →
        let r' := (r.perform op).1
        (r.isStarted = true ∧ (op = .run ∨ op = .start) ∧ r' = r)
          ∨ ((∃ c ∈ r.callbacks ++ op.registered, c.failure? = some f) ∧ r'.state ≠ .pending
            ∧ r'.report.isClosed = true ∧ r'.isAnnounced = true ∧ r'.waiters = 0) := by
  intro r early late seen
  have hreaches : Reaches r₀ r := reaches_performAll h₀ ops
  have hsettled : r.isDone = true → r.Settled := hreaches.settled h₀
  have hstands : r.Stands early late seen := stands_performAll h₀ hcallbacks hcalls ops
  refine ⟨hstands.calls_eq, fun s ↦ hstands.alike,
    fun hstate ↦ hstands.of_pending (by simp [isDone, hstate]), fun hstate ↦ ?_, hstands.sublist,
    fun op f hf ↦ ?_⟩
  · have hd : r.isDone = true := decide_eq_true hstate
    refine ⟨(hstands.of_isDone hd).1, hstands.labels_eq hd, fun c ↦ ?_⟩
    rw [onDone, if_pos hd, call_of_isDone hd]
  · rcases failure_of_perform hsettled hf with hrefuses | ⟨hd, hfails⟩
    · exact .inl ⟨hrefuses.isStarted, hrefuses.eq_run_or_start, hrefuses.perform_eq⟩
    · have hstep : Reaches r (r.perform op).1 :=
        reaches_perform (fun hd ↦ (hsettled hd).isStarted) op
      have hsettled' : (r.perform op).1.Settled := Reaches.settled h₀ (hreaches.trans hstep) hd
      exact .inr ⟨hfails, of_decide_eq_true hd, hsettled'.isClosed, hsettled'.isAnnounced,
        hsettled'.waiters_eq⟩

/-- Two rules, the first of which yields; a callback that registers another one, and one that fails,
before the end; somebody waits, and the run is called for a second time; a finding is made and
ignored and a callback is registered when the run is done. -/
theorem sights_performAll_nested :
    let d : Document := ⟨⟨[.element ⟨"svg", none, []⟩ []], []⟩, none⟩
    let f : Failure := ⟨.runtime, "callback"⟩
    let r₀ := ofInstances d [⟨"first", .script ⟨"f", true, [.warn "seen" none, .yield]⟩⟩,
      ⟨"second", .script ⟨"g", true, []⟩⟩] ""
    let ops : List Operation := [.onDone (.registers "a" (.returns "a+")), .start, .turn 1, .wait,
      .onDone (.fails "b" f), .turn 0, .onDone (.returns "c"), .run, .turn 0, .complete,
      .report ⟨none, ""⟩ .error (.text "late") none,
      .onDone (.registers "d" (.returns "d+")), .wait]
    let r := r₀.performAll ops
    r₀.IsNew ∧ r₀.callbacks = [] ∧ r₀.calls = []
      ∧ (r₀.allSights ops).map (·.label) = ["a", "a+", "b", "d", "d+"]
      ∧ (∀ s ∈ r₀.allSights ops, s.state = .warning ∧ s.diagnostics = r.diagnostics)
      ∧ r.diagnostics.length = 1 ∧ r.answers = [.warning, .warning] := by
  intro d f r₀ ops r
  have hnew : r₀.IsNew := isNew_ofInstances d _ ""
  have hstate : r.state = .warning := by decide +kernel
  obtain ⟨-, halike, -, hdone, -, -⟩ := sights_performAll hnew rfl rfl ops
  obtain ⟨-, hlabels, -⟩ := hdone (by decide +kernel)
  refine ⟨hnew, rfl, rfl, ?_, fun s hs ↦ ?_, by decide +kernel, by decide +kernel⟩
  · rw [hlabels]
    decide +kernel
  · obtain ⟨hsame, -, hfound⟩ := halike s hs
    exact ⟨hsame.trans hstate, hfound⟩

end VectorLint.Run
