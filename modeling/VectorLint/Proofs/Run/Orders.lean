import VectorLint.Proofs.Run.Concatenation
import VectorLint.Proofs.Run.Outlook

/-!
# Runs in any order of turns

A run gives the turn to whoever has been ready for longest. Here the turn goes to anyone who is
ready, and an order is *maximal* if it ends with nobody ready. All maximal orders come to the same:
they set the same events, so the same players finish, each player finds the same in the same order,
and the findings of the run are the same up to order.

The events are compared first. What is set in one maximal order is foreseen at its end, hence
foreseen at its beginning, and then no other order sets more. From there on both orders are compared
with the outlooks of the players at the beginning, which no longer mention any order.
-/

namespace VectorLint

namespace Run

namespace Turns

/-- The turn of a task that is ready, wherever in the queue it stands. -/
def resume (s : Turns) (before : List Task) (t : Task) (after : List Task) : Turns :=
  play t.player t.rest { s with ready := before ++ after }

/-- What was found since an earlier time. -/
def foundSince (s s' : Turns) : List Diagnostic :=
  s'.report.diagnostics.toList.drop s.report.diagnostics.size

/-- Turns in some order. Each is written down as the number of the player and what it found. -/
inductive Order : Turns → List (Nat × List Diagnostic) → Turns → Prop
  | nil (s : Turns) : Order s [] s
  | turn {s s' : Turns} {before after : List Task} {t : Task} {σ : List (Nat × List Diagnostic)}
      (ready_eq : s.ready = before ++ t :: after) (rest : Order (s.resume before t after) σ s') :
      Order s ((t.player.number, s.foundSince (s.resume before t after)) :: σ) s'

/-- Turns in some order, up to a time when nobody is ready. -/
def MaximalOrder (s : Turns) (σ : List (Nat × List Diagnostic)) (s' : Turns) : Prop :=
  Order s σ s' ∧ s'.ready = []

theorem foundSince_of_eq {s s' : Turns} {found : List Diagnostic}
    (h : s'.report.diagnostics.toList = s.report.diagnostics.toList ++ found) :
    s.foundSince s' = found := by
  rw [foundSince, h, ← Array.length_toList, List.drop_left]

/-- What a player found in all of its turns. -/
def contribution (n : Nat) (σ : List (Nat × List Diagnostic)) : List Diagnostic :=
  (σ.filter (·.1 = n)).flatMap (·.2)

theorem contribution_cons_self (n : Nat) (found : List Diagnostic)
    (σ : List (Nat × List Diagnostic)) :
    contribution n ((n, found) :: σ) = found ++ contribution n σ := by
  rw [contribution, List.filter_cons_of_pos (by simp), List.flatMap_cons, contribution]

theorem contribution_cons_of_ne {m n : Nat} (h : m ≠ n) (found : List Diagnostic)
    (σ : List (Nat × List Diagnostic)) : contribution n ((m, found) :: σ) = contribution n σ := by
  rw [contribution, List.filter_cons_of_neg (by simpa using h), contribution]

/-! ## Orders exist and end -/

/-- The turns of those at some places in the queue, one after the other. Places where nobody stands
are passed over. -/
def playOrder : List Nat → Turns → List (Nat × List Diagnostic) × Turns
  | [], s => ([], s)
  | place :: places, s =>
    match s.ready[place]? with
    | none => playOrder places s
    | some t =>
      let next := s.resume (s.ready.take place) t (s.ready.drop (place + 1))
      ((t.player.number, s.foundSince next) :: (playOrder places next).1,
        (playOrder places next).2)

theorem order_playOrder (places : List Nat) (s : Turns) :
    Order s (playOrder places s).1 (playOrder places s).2 := by
  induction places generalizing s with
  | nil => exact .nil s
  | cons place places ih =>
    rw [playOrder]
    split
    · exact ih s
    · rename_i t ht
      obtain ⟨hplace, rfl⟩ := List.getElem?_eq_some_iff.mp ht
      refine .turn ?_ (ih _)
      rw [List.getElem_cons_drop, List.take_append_drop]

theorem playAll_eq_playOrder (fuel : Nat) (s : Turns) :
    playAll fuel s = (playOrder (List.replicate fuel 0) s).2 := by
  induction fuel generalizing s with
  | zero => rfl
  | succ fuel ih =>
    rw [List.replicate_succ, playAll, playOrder]
    cases hready : s.ready with
    | nil =>
      -- from now on all places are passed over
      have hstuck : playAll fuel s = s := by cases fuel <;> simp [playAll, hready]
      exact hstuck.symm.trans (ih s)
    | cons t ready => exact ih (play t.player t.rest { s with ready })

theorem maximalOrder_finish (s : Turns) : ∃ σ, MaximalOrder s σ s.finish := by
  have horder := order_playOrder (List.replicate s.load 0) s
  rw [← playAll_eq_playOrder] at horder
  exact ⟨_, horder, ready_finish s⟩

/-- No order goes on forever. -/
theorem Order.length_add_load_le {s s' : Turns} {σ : List (Nat × List Diagnostic)}
    (h : Order s σ s') : σ.length + s'.load ≤ s.load := by
  induction h with
  | nil s => exact Nat.le_of_eq (Nat.zero_add _)
  | @turn s s' before after t σ hready _ ih =>
    have hplay := load_play_le t.player t.rest { s with ready := before ++ after }
    have hload : s.load = { s with ready := before ++ after }.load + t.load := by
      simp only [load, hready, Task.total_append, Task.total]
      omega
    rw [hload, Task.load, List.length_cons]
    rw [resume] at ih
    omega

/-! ## One turn -/

variable {E : List String}

private theorem outlooks_perm_of_ready {s : Turns} {before after : List Task} {t : Task}
    (h : s.ready = before ++ t :: after) :
    (outlooks E s).Perm
      ((t.player, outlook E t.rest) :: outlooks E { s with ready := before ++ after }) := by
  rw [outlooks, h, outlooks, List.map_append, List.map_cons, List.map_append, List.append_assoc,
    List.append_assoc]
  exact List.perm_middle

/-- **A turn, among all.** The outlooks are those of the others, and that of the one player before
and after. -/
private theorem exists_resumed {s : Turns} {before after : List Task} {t : Task}
    (h : s.ready = before ++ t :: after) (hE : (s.resume before t after).events ⊆ E) :
    ∃ (ran : List Action) (tail : Option Outlook) (others : List (Player × Outlook)),
      (s.resume before t after).report = ran.foldl (Action.perform t.player.view) s.report
      ∧ (∀ e, .set e ∈ ran → e ∈ (s.resume before t after).events)
      ∧ (outlooks E s).Perm ((t.player, (tail.getD {}).after ran) :: others)
      ∧ (outlooks E (s.resume before t after)).Perm
        (tail.toList.map (fun o ↦ (t.player, o)) ++ others) := by
  obtain ⟨ran, tail, hplayed⟩ :=
    exists_played t.player t.rest { s with ready := before ++ after } hE
  refine ⟨ran, tail, _, hplayed.report_eq, hplayed.mem_events, ?_, hplayed.outlooks_perm⟩
  rw [← hplayed.outlook_eq]
  exact outlooks_perm_of_ready h

private theorem WaitsForUnset.resume {s : Turns} (h : s.WaitsForUnset) (before : List Task)
    (t : Task) (after : List Task) : (s.resume before t after).WaitsForUnset :=
  WaitsForUnset.play (s := { s with ready := before ++ after }) h t.player t.rest

private theorem Foresees.resume {s : Turns} (h : Foresees E s) {before after : List Task}
    {t : Task} (hready : s.ready = before ++ t :: after) :
    Foresees E (s.resume before t after) := by
  have hperm := outlooks_perm_of_ready (E := E) hready
  refine Foresees.play (s := { s with ready := before ++ after }) ⟨h.1, fun x hx ↦ ?_⟩ t.player ?_
  · exact h.2 x (hperm.mem_iff.mpr (List.mem_cons_of_mem _ hx))
  · exact h.2 _ (hperm.mem_iff.mpr List.mem_cons_self)

private theorem Foresees.of_resume {s : Turns} {before after : List Task} {t : Task}
    (h : Foresees E (s.resume before t after)) (hready : s.ready = before ++ t :: after) :
    Foresees E s := by
  obtain ⟨ran, tail, others, -, hevents, hbefore, hafter⟩ := exists_resumed hready h.1
  have hsub : s.events ⊆ (s.resume before t after).events :=
    events_subset_play t.player t.rest { s with ready := before ++ after }
  refine ⟨List.Subset.trans hsub h.1, fun x hx e he ↦ ?_⟩
  rcases List.mem_cons.mp (hbefore.mem_iff.mp hx) with rfl | hx
  · rcases List.mem_append.mp he with he | he
    · exact h.1 (hevents e he)
    · cases tail with
      | none => cases he
      | some o => exact h.2 (t.player, o) (hafter.mem_iff.mpr List.mem_cons_self) e he
  · exact h.2 x (hafter.mem_iff.mpr (List.mem_append_right _ hx)) e he

/-! ## The events -/

theorem Order.events_subset {s s' : Turns} {σ : List (Nat × List Diagnostic)} (h : Order s σ s')
    (hs : Foresees E s) : s'.events ⊆ E := by
  induction h with
  | nil s => exact hs.1
  | turn hready _ ih => exact ih (hs.resume hready)

theorem Order.waitsForUnset {s s' : Turns} {σ : List (Nat × List Diagnostic)} (h : Order s σ s')
    (hs : s.WaitsForUnset) : s'.WaitsForUnset := by
  induction h with
  | nil s => exact hs
  | turn hready _ ih => exact ih (hs.resume _ _ _)

/-- Whether everybody who is left is blocked. -/
def Rests (E : List String) (s : Turns) : Prop :=
  outlooks E s = s.waiting.map fun w ↦ (w.2.player, { isBlocked := true })

theorem rests_of_ready_eq_nil {s : Turns} (hs : s.WaitsForUnset) (h : s.ready = []) :
    Rests s.events s := by
  rw [Rests, outlooks, h]
  exact List.map_congr_left fun w hw ↦ by rw [outlook_wait_of_notMem (hs w hw)]

theorem MaximalOrder.foresees {s s' : Turns} {σ : List (Nat × List Diagnostic)}
    (h : MaximalOrder s σ s') (hs : s.WaitsForUnset) : Foresees s'.events s := by
  obtain ⟨horder, hready⟩ := h
  have hend : Foresees s'.events s' := by
    refine ⟨List.Subset.refl _, fun x hx e he ↦ ?_⟩
    rw [rests_of_ready_eq_nil (horder.waitsForUnset hs) hready] at hx
    obtain ⟨w, -, rfl⟩ := List.mem_map.mp hx
    cases he
  clear hs hready
  -- backwards from the end, with the events of the end fixed
  induction horder with
  | nil s => exact hend
  | turn hready _ ih => exact (ih hend).of_resume hready

theorem MaximalOrder.mem_events_iff {s s₁ s₂ : Turns} {σ₁ σ₂ : List (Nat × List Diagnostic)}
    (h₁ : MaximalOrder s σ₁ s₁) (h₂ : MaximalOrder s σ₂ s₂) (hs : s.WaitsForUnset) (e : String) :
    e ∈ s₁.events ↔ e ∈ s₂.events :=
  ⟨fun h ↦ h₁.1.events_subset (h₂.foresees hs) h, fun h ↦ h₂.1.events_subset (h₁.foresees hs) h⟩

/-! ## Who finishes -/

theorem Order.subset_events {s s' : Turns} {σ : List (Nat × List Diagnostic)} (h : Order s σ s') :
    s.events ⊆ s'.events := by
  induction h with
  | nil s => exact List.Subset.refl _
  | @turn s s' before after t σ _ _ ih =>
    exact List.Subset.trans
      (events_subset_play t.player t.rest { s with ready := before ++ after }) ih

private theorem Order.waiting_eq_nil_iff {s s' : Turns} {σ : List (Nat × List Diagnostic)}
    (h : Order s σ s') (hE : s'.events ⊆ E) (hend : Rests E s') :
    s'.waiting = [] ↔ ∀ x ∈ outlooks E s, x.2.isBlocked = false := by
  induction h with
  | nil s =>
    rw [hend]
    cases s.waiting with
    | nil => simp
    | cons w ws => simp
  | @turn s s' before after t σ hready hrest ih =>
    obtain ⟨ran, tail, others, -, -, hbefore, hafter⟩ :=
      exists_resumed hready (List.Subset.trans hrest.subset_events hE)
    rw [ih hE hend]
    simp only [hbefore.mem_iff, hafter.mem_iff]
    cases tail <;> simp [Outlook.after]

private theorem MaximalOrder.rests {s s' : Turns} {σ : List (Nat × List Diagnostic)}
    (h : MaximalOrder s σ s') (hE : ∀ e, e ∈ s'.events ↔ e ∈ E) (hs : s.WaitsForUnset) :
    Rests E s' := by
  rw [Rests, ← outlooks_congr hE]
  exact rests_of_ready_eq_nil (h.1.waitsForUnset hs) h.2

/-- If everybody finishes in one maximal order, everybody finishes in all of them. -/
theorem MaximalOrder.waiting_eq_nil_iff {s s₁ s₂ : Turns} {σ₁ σ₂ : List (Nat × List Diagnostic)}
    (h₁ : MaximalOrder s σ₁ s₁) (h₂ : MaximalOrder s σ₂ s₂) (hs : s.WaitsForUnset) :
    s₁.waiting = [] ↔ s₂.waiting = [] := by
  have hevents := h₁.mem_events_iff h₂ hs
  exact (h₁.1.waiting_eq_nil_iff (fun e he ↦ (hevents e).mp he) (h₁.rests hevents hs)).trans
    (h₂.1.waiting_eq_nil_iff (fun _ he ↦ he) (h₂.rests (fun _ ↦ Iff.rfl) hs)).symm

/-! ## The findings -/

/-- What is found by a player with some outlook. -/
private def findingsAhead (x : Player × Outlook) : List Diagnostic :=
  Action.findings x.1.view x.2.does

/-- Whether reports are kept and nobody closes the report. -/
private def StaysOpen (E : List String) (s : Turns) : Prop :=
  s.report.isClosed = false ∧ ∀ x ∈ outlooks E s, .close ∉ x.2.does

private theorem exists_found {s : Turns} {before after : List Task} {t : Task}
    (h : s.ready = before ++ t :: after) (hE : (s.resume before t after).events ⊆ E)
    (hopen : StaysOpen E s) :
    ∃ (ran : List Action) (tail : Option Outlook) (others : List (Player × Outlook)),
      (s.resume before t after).report.diagnostics.toList
        = s.report.diagnostics.toList ++ Action.findings t.player.view ran
      ∧ StaysOpen E (s.resume before t after)
      ∧ (outlooks E s).Perm ((t.player, (tail.getD {}).after ran) :: others)
      ∧ (outlooks E (s.resume before t after)).Perm
        (tail.toList.map (fun o ↦ (t.player, o)) ++ others) := by
  obtain ⟨ran, tail, others, hreport, -, hbefore, hafter⟩ := exists_resumed h hE
  have hclose : .close ∉ ran ++ (tail.getD {}).does :=
    hopen.2 _ (hbefore.mem_iff.mpr List.mem_cons_self)
  rw [List.mem_append, not_or] at hclose
  refine ⟨ran, tail, others, ?_, ⟨?_, fun x hx ↦ ?_⟩, hbefore, hafter⟩
  · rw [hreport, Action.diagnostics_foldl_perform hclose.1 _ hopen.1]
  · rw [hreport, Action.isClosed_foldl_perform hclose.1, hopen.1]
  · rcases List.mem_append.mp (hafter.mem_iff.mp hx) with hx | hx
    · obtain ⟨o, ho, rfl⟩ := List.mem_map.mp hx
      rw [Option.mem_toList.mp ho] at hclose
      exact hclose.2
    · exact hopen.2 x (hbefore.mem_iff.mpr (List.mem_cons_of_mem _ hx))

private theorem findingsAhead_after (p : Player) (ran : List Action) (o : Outlook) :
    findingsAhead (p, o.after ran) = Action.findings p.view ran ++ findingsAhead (p, o) :=
  Action.findings_append p.view ran o.does

private theorem Order.diagnostics_perm {s s' : Turns} {σ : List (Nat × List Diagnostic)}
    (h : Order s σ s') (hE : s'.events ⊆ E) (hend : Rests E s')
    (hopen : StaysOpen E s) :
    s'.report.diagnostics.toList.Perm
      (s.report.diagnostics.toList ++ (outlooks E s).flatMap findingsAhead) := by
  induction h with
  | nil s =>
    have hnone : (outlooks E s).flatMap findingsAhead = [] := by
      rw [hend, List.flatMap_map]
      exact List.flatMap_eq_nil_iff.mpr fun w _ ↦ rfl
    rw [hnone, List.append_nil]
  | @turn s s' before after t σ hready hrest ih =>
    obtain ⟨ran, tail, others, hfound, hopen', hbefore, hafter⟩ :=
      exists_found hready (List.Subset.trans hrest.subset_events hE) hopen
    refine (ih hE hend hopen').trans ?_
    rw [hfound, List.append_assoc]
    refine List.Perm.append_left _ ?_
    refine ((hafter.flatMap_right findingsAhead).append_left _).trans
      (List.Perm.trans ?_ (hbefore.flatMap_right findingsAhead).symm)
    rw [List.flatMap_cons, findingsAhead_after, List.append_assoc, List.flatMap_append]
    cases tail <;> simp [findingsAhead]

private theorem nodup_numbers_of_perm {p : Player} {tail : Option Outlook}
    {before others : List (Player × Outlook)}
    (h : before.Perm (tail.toList.map (fun o ↦ (p, o)) ++ others))
    (hnodup : (p.number :: others.map (·.1.number)).Nodup) :
    (before.map (·.1.number)).Nodup := by
  rw [(h.map _).nodup_iff]
  cases tail with
  | none => exact hnodup.of_cons
  | some o => exact hnodup

private theorem Order.contribution_eq {s s' : Turns} {σ : List (Nat × List Diagnostic)}
    (h : Order s σ s') (hE : s'.events ⊆ E) (hend : Rests E s')
    (hopen : StaysOpen E s) (hnodup : ((outlooks E s).map (·.1.number)).Nodup) :
    (∀ x ∈ outlooks E s, contribution x.1.number σ = findingsAhead x)
      ∧ ∀ n ∉ (outlooks E s).map (·.1.number), contribution n σ = [] := by
  induction h with
  | nil s =>
    refine ⟨fun x hx ↦ ?_, fun n _ ↦ rfl⟩
    rw [hend] at hx
    obtain ⟨w, -, rfl⟩ := List.mem_map.mp hx
    rfl
  | @turn s s' before after t σ hready hrest ih =>
    obtain ⟨ran, tail, others, hfound, hopen', hbefore, hafter⟩ :=
      exists_found hready (List.Subset.trans hrest.subset_events hE) hopen
    have hnumbers := hbefore.map (·.1.number)
    rw [hnumbers.nodup_iff, List.map_cons] at hnodup
    obtain ⟨hself, hother⟩ := ih hE hend hopen' (nodup_numbers_of_perm hafter hnodup)
    rw [List.nodup_cons] at hnodup
    rw [foundSince_of_eq hfound]
    constructor
    · intro x hx
      rcases List.mem_cons.mp (hbefore.mem_iff.mp hx) with rfl | hx
      · rw [contribution_cons_self, findingsAhead_after]
        congr 1
        cases tail with
        -- the player has finished, so no later turn is its own
        | none => exact hother _ fun hn ↦ hnodup.1 ((hafter.map _).mem_iff.mp hn)
        | some o => exact hself (t.player, o) (hafter.mem_iff.mpr List.mem_cons_self)
      · have hne : t.player.number ≠ x.1.number := fun heq ↦
          hnodup.1 (heq ▸ List.mem_map_of_mem (f := (·.1.number)) hx)
        rw [contribution_cons_of_ne hne]
        exact hself x (hafter.mem_iff.mpr (List.mem_append_right _ hx))
    · intro n hn
      rw [hnumbers.mem_iff, List.map_cons, List.mem_cons, not_or] at hn
      rw [contribution_cons_of_ne (Ne.symm hn.1)]
      refine hother n fun hmem ↦ ?_
      rw [(hafter.map _).mem_iff] at hmem
      cases tail with
      | none => exact hn.2 hmem
      | some o => exact (List.mem_cons.mp hmem).elim hn.1 hn.2

private theorem Order.diagnostics_eq {s s' : Turns} {σ : List (Nat × List Diagnostic)}
    (h : Order s σ s') (hE : s'.events ⊆ E) (hopen : StaysOpen E s) :
    s'.report.diagnostics.toList = s.report.diagnostics.toList ++ σ.flatMap (·.2) := by
  induction h with
  | nil s => exact (List.append_nil _).symm
  | @turn s s' before after t σ hready hrest ih =>
    obtain ⟨ran, -, -, hfound, hopen', -, -⟩ :=
      exists_found hready (List.Subset.trans hrest.subset_events hE) hopen
    rw [ih hE hopen', List.flatMap_cons, foundSince_of_eq hfound, hfound, List.append_assoc]

/-- **A maximal order.** Who finishes and what is found is known from the outlooks at the beginning,
for any list of the events that are set in the end. -/
private theorem MaximalOrder.outcome {s s' : Turns} {σ : List (Nat × List Diagnostic)}
    (h : MaximalOrder s σ s') (hE : ∀ e, e ∈ s'.events ↔ e ∈ E) (hs : s.WaitsForUnset)
    (hopen : StaysOpen E s) (hnodup : ((outlooks E s).map (·.1.number)).Nodup) :
    (s'.waiting = [] ↔ ∀ x ∈ outlooks E s, x.2.isBlocked = false)
      ∧ (∀ n, contribution n σ
        = ((outlooks E s).find? (·.1.number = n)).elim [] findingsAhead)
      ∧ s'.report.diagnostics.toList.Perm
        (s.report.diagnostics.toList ++ (outlooks E s).flatMap findingsAhead) := by
  have hsub : s'.events ⊆ E := fun e he ↦ (hE e).mp he
  have hend : Rests E s' := h.rests hE hs
  obtain ⟨hself, hother⟩ := h.1.contribution_eq hsub hend hopen hnodup
  refine ⟨h.1.waiting_eq_nil_iff hsub hend, fun n ↦ ?_, h.1.diagnostics_perm hsub hend hopen⟩
  cases hfind : (outlooks E s).find? (·.1.number = n) with
  | none =>
    refine hother n fun hn ↦ ?_
    obtain ⟨x, hx, hxn⟩ := List.mem_map.mp hn
    exact absurd (decide_eq_true hxn) (List.find?_eq_none.mp hfind x hx)
  | some x =>
    obtain rfl : x.1.number = n := by simpa using List.find?_some hfind
    exact hself x (List.mem_of_find?_eq_some hfind)

end Turns

/-! ## The run -/

variable (d : Document) (logger : String)

/-- A run whose turns ended in a certain way. It is complete unless somebody still waits. -/
def endingWith (r : Run) (s : Turns) : Run :=
  if s.waiting.isEmpty then { r.begun with turns := s }.complete.1 else { r.begun with turns := s }

/-- Running a run takes the turns in the order of the queue. -/
theorem run_eq_endingWith_finish {r : Run} (hs : r.isStarted = false) :
    r.run.1 = r.endingWith r.begun.turns.finish := by
  rw [run, start, if_neg (by simp [hs]), endingWith]
  dsimp only
  split
  · split
    · rename_i r' h
      rw [h]
    · rename_i r' f h
      rw [h]
  · rfl

theorem diagnostics_endingWith (r : Run) (s : Turns) :
    (r.endingWith s).diagnostics = s.report.diagnostics.toList := by
  rw [endingWith]
  split
  · exact diagnostics_complete _
  · rfl

theorem state_endingWith_of_eq_nil (r : Run) {s : Turns} (hs : s.waiting = []) :
    (r.endingWith s).state
      = State.ofSeverities (s.report.diagnostics.toList.map (·.severity)) := by
  rw [endingWith, if_pos (by simp [hs])]
  exact state_complete _

theorem state_endingWith_of_ne_nil (r : Run) {s : Turns} (hs : s.waiting ≠ []) :
    (r.endingWith s).state = r.state := by
  rw [endingWith, if_neg (by simp [hs])]
  rfl

private theorem staysOpen_begun {instances : List Rule.Instance}
    (hopen : ∀ i ∈ instances, i.rule.KeepsOpen) (E : List String) :
    Turns.StaysOpen E (ofInstances d instances logger).begun.turns := by
  refine ⟨rfl, fun x hx hclose ↦ ?_⟩
  rw [Turns.outlooks] at hx
  rcases List.mem_append.mp hx with hx | hx
  · obtain ⟨t, ht, rfl⟩ := List.mem_map.mp hx
    obtain ⟨i, hi, hrest⟩ := mem_tasks ht
    have := Turns.mem_of_mem_does_outlook hclose
    rw [hrest] at this
    exact close_notMem_actionsOf (hopen i hi) _ this
  · cases hx

theorem map_number_tasks (r : Run) :
    r.tasks.map (·.player.number) = List.range r.instances.length := by
  rw [tasks, List.map_map, List.range_eq_range', ← List.zipIdx_map_snd 0 r.instances]
  rfl

private theorem nodup_numbers_begun (r : Run) (hr : r.turns.waiting = []) (E : List String) :
    ((Turns.outlooks E r.begun.turns).map (·.1.number)).Nodup := by
  have hnumbers : (Turns.outlooks E r.begun.turns).map (·.1.number)
      = List.range r.instances.length := by
    have hwaiting : r.begun.turns.waiting = [] := hr
    have hready : r.begun.turns.ready = r.tasks := rfl
    rw [Turns.outlooks, hwaiting, hready, List.map_nil, List.append_nil, List.map_map]
    exact map_number_tasks r
  rw [hnumbers]
  exact List.nodup_range

/-- **The order of turns does not matter.** If some order lets all instances finish, then every
order does; each instance contributes the same in all orders; and the runs have the same findings up
to order, as many of each severity, the same state and the same exit code. -/
theorem endingWith_of_maximalOrder {instances : List Rule.Instance}
    (hopen : ∀ i ∈ instances, i.rule.KeepsOpen) {σ₁ σ₂ : List (Nat × List Diagnostic)}
    {s₁ s₂ : Turns}
    (h₁ : Turns.MaximalOrder (ofInstances d instances logger).begun.turns σ₁ s₁)
    (h₂ : Turns.MaximalOrder (ofInstances d instances logger).begun.turns σ₂ s₂) :
    let r₁ := (ofInstances d instances logger).endingWith s₁
    let r₂ := (ofInstances d instances logger).endingWith s₂
    (s₁.waiting = [] ↔ s₂.waiting = []) ∧ (r₁.isDone = true ↔ s₁.waiting = [])
      ∧ (∀ n, Turns.contribution n σ₁ = Turns.contribution n σ₂)
      ∧ r₁.diagnostics = σ₁.flatMap (·.2) ∧ r₂.diagnostics = σ₂.flatMap (·.2)
      ∧ r₁.diagnostics.Perm r₂.diagnostics
      ∧ (∀ severity, (r₁.diagnosticsOf severity).length = (r₂.diagnosticsOf severity).length)
      ∧ r₁.state = r₂.state ∧ r₁.exitCode = r₂.exitCode := by
  intro r₁ r₂
  have hwaits : (ofInstances d instances logger).begun.turns.WaitsForUnset :=
    fun w hw ↦ absurd hw List.not_mem_nil
  have hstays := staysOpen_begun d logger hopen s₁.events
  have hnodup := nodup_numbers_begun (ofInstances d instances logger) rfl s₁.events
  have hevents := h₂.mem_events_iff h₁ hwaits
  obtain ⟨hwaiting₁, hcontribution₁, hfound₁⟩ := h₁.outcome (fun _ ↦ Iff.rfl) hwaits hstays hnodup
  obtain ⟨hwaiting₂, hcontribution₂, hfound₂⟩ := h₂.outcome hevents hwaits hstays hnodup
  have hwaiting : s₁.waiting = [] ↔ s₂.waiting = [] := hwaiting₁.trans hwaiting₂.symm
  have hperm : r₁.diagnostics.Perm r₂.diagnostics := by
    rw [diagnostics_endingWith, diagnostics_endingWith]
    exact hfound₁.trans hfound₂.symm
  have hstate : r₁.state = r₂.state := by
    by_cases hs : s₁.waiting = []
    · rw [state_endingWith_of_eq_nil _ hs, state_endingWith_of_eq_nil _ (hwaiting.mp hs)]
      exact State.ofSeverities_congr fun severity ↦
        ((hfound₁.trans hfound₂.symm).map (·.severity)).mem_iff
    · rw [state_endingWith_of_ne_nil _ hs, state_endingWith_of_ne_nil _ fun h ↦ hs (hwaiting.mpr h)]
  refine ⟨hwaiting, ?_, fun n ↦ ?_, ?_, ?_, hperm, fun severity ↦ ?_, hstate, ?_⟩
  · by_cases hs : s₁.waiting = []
    · simp [isDone, r₁, state_endingWith_of_eq_nil _ hs, State.ofSeverities_ne_pending, hs]
    · simp [isDone, r₁, state_endingWith_of_ne_nil _ hs, ofInstances, hs]
  · rw [hcontribution₁, hcontribution₂]
  · rw [diagnostics_endingWith, h₁.1.diagnostics_eq (List.Subset.refl _) hstays]
    rfl
  · rw [diagnostics_endingWith, h₂.1.diagnostics_eq (fun e he ↦ (hevents e).mp he) hstays]
    rfl
  · exact (hperm.filter _).length_eq
  · rw [exitCode, exitCode, hstate]

/-- One script waits for what the other sets. In the order of the queue the first script starts, and
otherwise it may be the last; its warning comes first or last accordingly. -/
theorem endingWith_of_maximalOrder_handover :
    let instances : List Rule.Instance := [
      ⟨"first", .script ⟨"f", true, [.warn "ready" none, .wait "go", .error "went" none]⟩⟩,
      ⟨"second", .script ⟨"s", true, [.yield, .set "go", .raise ⟨.runtime, "left"⟩]⟩⟩]
    let d : Document := ⟨⟨[.element ⟨"svg", none, []⟩ []], []⟩, none⟩
    let r := ofInstances d instances ""
    let σ := Turns.playOrder [0, 0, 0, 0] r.begun.turns
    let τ := Turns.playOrder [1, 1, 0] r.begun.turns
    (∀ i ∈ instances, i.rule.KeepsOpen) ∧ Turns.MaximalOrder r.begun.turns σ.1 σ.2
      ∧ Turns.MaximalOrder r.begun.turns τ.1 τ.2
      ∧ σ.1.map (·.1) = [0, 1, 1, 0] ∧ τ.1.map (·.1) = [1, 1, 0]
      ∧ (r.endingWith σ.2).diagnostics.map (·.shown) = ["[WARNING] first: ready",
        "[EXCEPTION] second: RuntimeError: left", "[ERROR] first: went"]
      ∧ (r.endingWith τ.2).diagnostics.map (·.shown) = ["[EXCEPTION] second: RuntimeError: left",
        "[WARNING] first: ready", "[ERROR] first: went"]
      ∧ (r.endingWith τ.2).state = .error := by
  intro instances d r σ τ
  have hopen : ∀ i ∈ instances, i.rule.KeepsOpen := by simp [instances, Rule.KeepsOpen]
  have h₁ : Turns.MaximalOrder r.begun.turns σ.1 σ.2 :=
    ⟨Turns.order_playOrder _ _, List.eq_nil_of_length_eq_zero (by decide +kernel)⟩
  have h₂ : Turns.MaximalOrder r.begun.turns τ.1 τ.2 :=
    ⟨Turns.order_playOrder _ _, List.eq_nil_of_length_eq_zero (by decide +kernel)⟩
  obtain ⟨-, -, -, hfound₁, hfound₂, -, -, hstate, -⟩ := endingWith_of_maximalOrder d "" hopen h₁ h₂
  refine ⟨hopen, h₁, h₂, by decide +kernel, by decide +kernel, ?_, ?_, ?_⟩
  · rw [hfound₁]
    decide +kernel
  · rw [hfound₂]
    decide +kernel
  · rw [← hstate]
    decide +kernel

end Run

end VectorLint
