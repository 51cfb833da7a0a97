import Mathlib.Data.List.Basic
import VectorLint.Proofs.Rule.Actions
import VectorLint.Run.Turns

/-!
# What is ahead of those who take turns

Events are only ever set, and how far a player comes depends on nothing but which events are set.
Whoever knows the events that are set in the end knows therefore at any time what each player still
does: its actions up to the first wait for some other event. This is the *outlook* of the player.

Outlooks make the order of turns disappear. A turn takes from the outlook of the one player what it
does, and leaves all others as they are, including those of players that it wakes. The events need
not be known for this from the start: it is enough that none is set beyond those that the outlooks
are about, and this can be read off the outlooks themselves.
-/

namespace VectorLint.Run

/-- What a player still does, and whether it waits forever afterwards. -/
structure Outlook where
  does : List Action := []
  isBlocked : Bool := false

/-- The outlook of a player that does something before. -/
def Outlook.after (ran : List Action) (o : Outlook) : Outlook := { o with does := ran ++ o.does }

theorem Outlook.after_after (xs ys : List Action) (o : Outlook) :
    (o.after ys).after xs = o.after (xs ++ ys) := by
  rw [after, after, after, List.append_assoc]

namespace Turns

/-- The outlook of a player with some actions left, if the events `E` are set in the end. Waits that
come to an end are left out. -/
def outlook (E : List String) : List Action → Outlook
  | [] => {}
  | .wait e :: rest => if e ∈ E then outlook E rest else { isBlocked := true }
  | a :: rest => (outlook E rest).after [a]

/-- The outlooks of all players. -/
def outlooks (E : List String) (s : Turns) : List (Player × Outlook) :=
  s.ready.map (fun t ↦ (t.player, outlook E t.rest))
    ++ s.waiting.map fun w ↦ (w.2.player, outlook E (.wait w.1 :: w.2.rest))

/-! ## One player -/

variable {E : List String}

theorem outlook_cons_of_ne {a : Action} (ha : ∀ e, a ≠ .wait e) (rest : List Action) :
    outlook E (a :: rest) = (outlook E rest).after [a] := by
  cases a with
  | wait e => exact absurd rfl (ha e)
  | _ => rfl

theorem outlook_wait_of_mem {e : String} (he : e ∈ E) (rest : List Action) :
    outlook E (.wait e :: rest) = outlook E rest := if_pos he

theorem outlook_wait_of_notMem {e : String} (he : e ∉ E) (rest : List Action) :
    outlook E (.wait e :: rest) = { isBlocked := true } := if_neg he

theorem mem_of_mem_does_outlook {a : Action} {actions : List Action}
    (h : a ∈ (outlook E actions).does) : a ∈ actions := by
  induction actions with
  | nil => exact h
  | cons b rest ih =>
    by_cases hb : ∃ e, b = .wait e
    · obtain ⟨e, rfl⟩ := hb
      by_cases he : e ∈ E
      · rw [outlook_wait_of_mem he] at h
        exact List.mem_cons_of_mem _ (ih h)
      · rw [outlook_wait_of_notMem he] at h
        cases h
    · rw [outlook_cons_of_ne fun e he ↦ hb ⟨e, he⟩] at h
      exact (List.mem_cons.mp h).elim (fun h ↦ h ▸ List.mem_cons_self)
        fun h ↦ List.mem_cons_of_mem _ (ih h)

theorem outlook_congr {E' : List String} (h : ∀ e, e ∈ E ↔ e ∈ E') (actions : List Action) :
    outlook E actions = outlook E' actions := by
  induction actions with
  | nil => rfl
  | cons a rest ih =>
    by_cases ha : ∃ e, a = .wait e
    · obtain ⟨e, rfl⟩ := ha
      by_cases he : e ∈ E
      · rw [outlook_wait_of_mem he, outlook_wait_of_mem ((h e).mp he), ih]
      · rw [outlook_wait_of_notMem he, outlook_wait_of_notMem fun he' ↦ he ((h e).mpr he')]
    · have hne : ∀ e, a ≠ .wait e := fun e he ↦ ha ⟨e, he⟩
      rw [outlook_cons_of_ne hne, outlook_cons_of_ne hne, ih]

theorem outlooks_congr {E' : List String} (h : ∀ e, e ∈ E ↔ e ∈ E') (s : Turns) :
    outlooks E s = outlooks E' s := by
  simp only [outlooks, outlook_congr h]

/-! ## A turn -/

theorem perm_filter_waiting (s : Turns) (event : String) :
    (s.waiting.filter (·.1 = event) ++ s.waiting.filter (·.1 ≠ event)).Perm s.waiting := by
  have h := List.filter_append_perm (fun w : String × Task ↦ decide (w.1 = event)) s.waiting
  simpa only [decide_not] using h

theorem outlooks_set {event : String} (he : event ∈ E) (s : Turns) :
    (outlooks E (s.set event)).Perm (outlooks E s) := by
  rw [outlooks, set, List.map_append, List.append_assoc, outlooks]
  refine List.Perm.append_left _ ?_
  have hwoken : ((s.waiting.filter (·.1 = event)).map (·.2)).map
      (fun t ↦ (t.player, outlook E t.rest))
      = (s.waiting.filter (·.1 = event)).map
        fun w ↦ (w.2.player, outlook E (.wait w.1 :: w.2.rest)) := by
    rw [List.map_map]
    refine List.map_congr_left fun w hw ↦ ?_
    obtain rfl : w.1 = event := of_decide_eq_true (List.mem_filter.mp hw).2
    rw [outlook_wait_of_mem he]
    rfl
  rw [hwoken, ← List.map_append]
  exact (perm_filter_waiting s event).map _

theorem events_subset_play (p : Player) (actions : List Action) (s : Turns) :
    s.events ⊆ (play p actions s).events := by
  fun_induction play p actions s with
  | case1 s => exact List.Subset.refl _
  | case2 rest s => exact List.Subset.refl _
  | case3 e rest s _ ih => exact ih
  | case4 e rest s => exact List.Subset.refl _
  | case5 e rest s ih => exact fun x hx ↦ ih (List.mem_cons_of_mem _ hx)
  | case6 a rest s _ _ _ ih => exact ih

/-- Those who wait do so for events that are not set. -/
def WaitsForUnset (s : Turns) : Prop := ∀ w ∈ s.waiting, w.1 ∉ s.events

theorem WaitsForUnset.play {s : Turns} (h : s.WaitsForUnset) (p : Player) (actions : List Action) :
    (play p actions s).WaitsForUnset := by
  fun_induction Turns.play p actions s with
  | case1 s => exact h
  | case2 rest s => exact h
  | case3 e rest s _ ih => exact ih h
  | case4 e rest s he =>
    intro w hw
    rcases List.mem_append.mp hw with hw | hw
    · exact h w hw
    · rw [List.mem_singleton.mp hw]
      exact he
  | case5 e rest s ih =>
    refine ih fun w hw ↦ ?_
    obtain ⟨hw, hne⟩ := List.mem_filter.mp hw
    exact List.not_mem_cons_of_ne_of_not_mem (of_decide_eq_true hne) (h w hw)
  | case6 a rest s _ _ _ ih => exact ih h

/-- What a turn of `p` with the actions `L` does in the end, seen from the events `E`: it plays the
actions `ran`, and leaves `p` with the outlook `tail`, or with none if `p` has finished. -/
structure Played (E : List String) (p : Player) (L : List Action) (s s' : Turns)
    (ran : List Action) (tail : Option Outlook) : Prop where
  report_eq : s'.report = ran.foldl (Action.perform p.view) s.report
  mem_events : ∀ e, .set e ∈ ran → e ∈ s'.events
  outlook_eq : outlook E L = (tail.getD {}).after ran
  outlooks_perm : (outlooks E s').Perm (tail.toList.map (fun o ↦ (p, o)) ++ outlooks E s)

/-- **A turn.** It is told by what it plays and what it leaves. -/
theorem exists_played (p : Player) (L : List Action) (s : Turns)
    (hE : (play p L s).events ⊆ E) : ∃ ran tail, Played E p L s (play p L s) ran tail := by
  fun_induction play p L s with
  | case1 s => exact ⟨[], none, rfl, fun _ h ↦ absurd h List.not_mem_nil, rfl, List.Perm.refl _⟩
  | case2 rest s =>
    refine ⟨[.yield], some (outlook E rest), rfl, fun e h ↦ ?_, rfl, ?_⟩
    · cases List.mem_singleton.mp h
    · rw [outlooks, List.map_append, List.append_assoc]
      exact List.perm_middle
  | case3 e rest s he ih =>
    obtain ⟨ran, tail, h⟩ := ih hE
    -- the event is set now, so it is among those that are set in the end
    have he' : e ∈ E := hE (events_subset_play p rest s he)
    exact ⟨ran, tail, h.report_eq, h.mem_events, (outlook_wait_of_mem he' rest).trans h.outlook_eq,
      h.outlooks_perm⟩
  | case4 e rest s he =>
    -- whether the event is set later is not known here, so the wait itself is left ahead
    refine ⟨[], some (outlook E (.wait e :: rest)), rfl, fun _ h ↦ absurd h List.not_mem_nil, rfl,
      ?_⟩
    rw [outlooks, List.map_append, ← List.append_assoc]
    exact List.perm_append_singleton _ _
  | case5 e rest s ih =>
    obtain ⟨ran, tail, h⟩ := ih hE
    have he : e ∈ (play p rest (s.set e)).events :=
      events_subset_play p rest (s.set e) List.mem_cons_self
    refine ⟨.set e :: ran, tail, h.report_eq, fun e' he' ↦ ?_, ?_, ?_⟩
    · rcases List.mem_cons.mp he' with heq | he'
      · cases heq
        exact he
      · exact h.mem_events e' he'
    · rw [outlook_cons_of_ne (by simp), h.outlook_eq, Outlook.after_after]
      rfl
    · exact h.outlooks_perm.trans ((outlooks_set (hE he) s).append_left _)
  | case6 a rest s _ hwait hset ih =>
    obtain ⟨ran, tail, h⟩ := ih hE
    refine ⟨a :: ran, tail, h.report_eq, fun e he ↦ ?_, ?_, h.outlooks_perm⟩
    · rcases List.mem_cons.mp he with heq | he
      · exact (hset e heq.symm).elim
      · exact h.mem_events e he
    · rw [outlook_cons_of_ne hwait, h.outlook_eq, Outlook.after_after]
      rfl

/-! ## Which events are ever set -/

/-- Whether the events `E` are all that is ever set: those that are set already are among them, and
so are those that are set by what is ahead of the players. -/
def Foresees (E : List String) (s : Turns) : Prop :=
  s.events ⊆ E ∧ ∀ x ∈ outlooks E s, ∀ e, .set e ∈ x.2.does → e ∈ E

theorem Foresees.play {s : Turns} (h : Foresees E s) (p : Player) {L : List Action}
    (hL : ∀ e, .set e ∈ (outlook E L).does → e ∈ E) : Foresees E (play p L s) := by
  fun_induction Turns.play p L s with
  | case1 s => exact h
  | case2 rest s =>
    refine ⟨h.1, fun x hx ↦ ?_⟩
    rw [outlooks, List.map_append, List.append_assoc] at hx
    rcases List.mem_cons.mp (List.perm_middle.mem_iff.mp hx) with rfl | hx
    · exact fun e he ↦ hL e (List.mem_cons_of_mem _ he)
    · exact h.2 x hx
  | case3 e rest s he ih =>
    rw [outlook_wait_of_mem (h.1 he)] at hL
    exact ih h hL
  | case4 e rest s he =>
    refine ⟨h.1, fun x hx ↦ ?_⟩
    rw [outlooks, List.map_append, ← List.append_assoc] at hx
    rcases List.mem_append.mp hx with hx | hx
    · exact h.2 x hx
    · rw [List.mem_singleton.mp hx]
      exact hL
  | case5 e rest s ih =>
    have he : e ∈ E := hL e List.mem_cons_self
    refine ih ⟨List.cons_subset.mpr ⟨he, h.1⟩, fun x hx ↦ ?_⟩
      fun e' he' ↦ hL e' (List.mem_cons_of_mem _ he')
    exact h.2 x ((outlooks_set he s).mem_iff.mp hx)
  | case6 a rest s _ hwait _ ih =>
    rw [outlook_cons_of_ne hwait] at hL
    exact ih h fun e he ↦ hL e (List.mem_cons_of_mem _ he)

end Turns

end VectorLint.Run
