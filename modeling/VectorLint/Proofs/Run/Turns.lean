import Mathlib.Data.List.Basic
import VectorLint.Run.Turns

/-!
# Turns and rounds

As long as nobody waits, a turn goes up to the first yield, and events wake nobody. Who is ready
then has turns in rounds: each has one, in the order of the queue, and who yields goes behind all
who have yet to take their turn in the round, and behind those who have yielded before. Who has
nothing left to do drops out, and the others keep their order.
-/

namespace VectorLint

/-- Whether an action gives up the turn to whoever is next. -/
def Action.isYield : Action → Bool
  | .yield => true
  | _ => false

theorem Action.isYield_eq_false {a : Action} (ha : a ≠ .yield) : a.isYield = false := by
  cases a with
  | yield => exact absurd rfl ha
  | _ => rfl

namespace Run.Turns

/-! ## A turn -/

/-- The actions of a turn: those before the first yield. -/
def turn (actions : List Action) : List Action := actions.takeWhile (!·.isYield)

/-- What is left behind the first yield, if there is one. -/
def afterTurn (actions : List Action) : Option (List Action) :=
  (actions.dropWhile (!·.isYield)).tail?

/-- A task when it has had a turn, unless it has finished. -/
def next? (t : Task) : Option Task := (afterTurn t.rest).map (⟨t.player, ·⟩)

variable {a : Action} {rest : List Action}

theorem turn_cons_of_ne (ha : a ≠ .yield) : turn (a :: rest) = a :: turn rest := by
  rw [turn, List.takeWhile_cons, Action.isYield_eq_false ha]
  rfl

theorem afterTurn_cons_of_ne (ha : a ≠ .yield) : afterTurn (a :: rest) = afterTurn rest := by
  rw [afterTurn, List.dropWhile_cons, Action.isYield_eq_false ha]
  rfl

theorem turn_of_notMem (h : .yield ∉ rest) : turn rest = rest ∧ afterTurn rest = none := by
  induction rest with
  | nil => exact ⟨rfl, rfl⟩
  | cons a rest ih =>
    rw [List.mem_cons, not_or] at h
    obtain ⟨hne, hrest⟩ := h
    rw [turn_cons_of_ne (Ne.symm hne), afterTurn_cons_of_ne (Ne.symm hne)]
    exact ⟨congrArg _ (ih hrest).1, (ih hrest).2⟩

theorem play_of_yielding (p : Player) {rest : List Action} (hw : ∀ e, .wait e ∉ rest) {s : Turns}
    (hs : s.waiting = []) :
    (play p rest s).ready = s.ready ++ (next? ⟨p, rest⟩).toList ∧ (play p rest s).waiting = []
      ∧ (play p rest s).report = (turn rest).foldl (Action.perform p.view) s.report := by
  fun_induction play p rest s with
  | case1 s => exact ⟨(List.append_nil _).symm, hs, rfl⟩
  | case2 rest s => exact ⟨rfl, hs, rfl⟩
  | case3 e rest s _ ih => exact absurd List.mem_cons_self (hw e)
  | case4 e rest s => exact absurd List.mem_cons_self (hw e)
  | case5 e rest s ih =>
    have hset : (s.set e).ready = s.ready ∧ (s.set e).waiting = [] := by simp [set, hs]
    obtain ⟨h₁, h₂, h₃⟩ := ih (fun e' h ↦ hw e' (List.mem_cons_of_mem _ h)) hset.2
    exact ⟨h₁.trans (congrArg (· ++ _) hset.1), h₂, h₃⟩
  | case6 a rest s hy _ _ ih =>
    rw [next?, afterTurn_cons_of_ne hy, turn_cons_of_ne hy]
    exact ih (fun e h ↦ hw e (List.mem_cons_of_mem _ h)) hs

/-! ## A round -/

/-- The task of a turn alone. -/
def now (t : Task) : Task := ⟨t.player, turn t.rest⟩

/-- **A round.** Who is ready has a turn, one after the other, and whoever has not finished stands
in this order behind those who were added before. -/
theorem exists_playAll_round {round : List Task} (h : ∀ t ∈ round, ∀ e, .wait e ∉ t.rest)
    {added : List Task} {s : Turns} (hr : s.ready = round ++ added) (hs : s.waiting = [])
    (fuel : Nat) :
    ∃ s' : Turns, playAll (round.length + fuel) s = playAll fuel s'
      ∧ s'.ready = added ++ round.filterMap next? ∧ s'.waiting = []
      ∧ s'.report = (round.map now).foldl
          (fun r t ↦ t.rest.foldl (Action.perform t.player.view) r) s.report := by
  induction round generalizing added s with
  | nil => exact ⟨s, by rw [List.length_nil, Nat.zero_add], by simpa using hr, hs, rfl⟩
  | cons t round ih =>
    obtain ⟨h₁, h₂, h₃⟩ := play_of_yielding t.player (h t List.mem_cons_self)
      (s := { s with ready := round ++ added }) hs
    rw [List.append_assoc] at h₁
    obtain ⟨s', hplay, hready, hwaiting, hreport⟩ :=
      ih (fun t ht ↦ h t (List.mem_cons_of_mem _ ht)) h₁ h₂
    refine ⟨s', ?_, ?_, hwaiting, ?_⟩
    · rw [List.length_cons, Nat.add_right_comm, playAll, hr]
      exact hplay
    · rw [hready, List.append_assoc, List.filterMap_cons]
      congr 1
      cases next? t <;> rfl
    · rw [hreport, h₃]
      rfl

/-- When nobody is ready, nothing happens. -/
theorem playAll_of_ready_eq_nil {s : Turns} (h : s.ready = []) (fuel : Nat) :
    playAll fuel s = s := by
  cases fuel with
  | zero => rfl
  | succ fuel => rw [playAll, h]

theorem suffix_of_afterTurn {actions rest : List Action} (h : afterTurn actions = some rest) :
    ∃ a, a :: rest <:+ actions := by
  have hsuffix : actions.dropWhile (!·.isYield) <:+ actions := List.dropWhile_suffix _
  rw [afterTurn] at h
  cases hdrop : actions.dropWhile (!·.isYield) with
  | nil =>
    rw [hdrop] at h
    cases h
  | cons a more =>
    rw [hdrop] at h hsuffix
    exact ⟨a, Option.some.inj h ▸ hsuffix⟩

theorem load_next {t t' : Task} (h : next? t = some t') : t'.load < t.load := by
  obtain ⟨rest, hrest, rfl⟩ := Option.map_eq_some_iff.mp h
  obtain ⟨a, hsuffix⟩ := suffix_of_afterTurn hrest
  exact Nat.succ_lt_succ hsuffix.length_le

theorem rest_subset_of_next {t t' : Task} (h : next? t = some t') : t'.rest ⊆ t.rest := by
  obtain ⟨rest, hrest, rfl⟩ := Option.map_eq_some_iff.mp h
  obtain ⟨a, hsuffix⟩ := suffix_of_afterTurn hrest
  exact fun b hb ↦ hsuffix.subset (List.mem_cons_of_mem a hb)

/-- A round takes something away from every task. -/
theorem total_next_add_length_le (round : List Task) :
    Task.total (round.filterMap next?) + round.length ≤ Task.total round := by
  induction round with
  | nil => exact Nat.le_refl _
  | cons t round ih =>
    rw [List.filterMap_cons, List.length_cons, Task.total]
    cases ht : next? t with
    | none =>
      have hload : 1 ≤ t.load := Nat.le_add_left _ _
      simp only
      omega
    | some t' =>
      have hload := load_next ht
      simp only [Task.total]
      omega

end Run.Turns

end VectorLint
