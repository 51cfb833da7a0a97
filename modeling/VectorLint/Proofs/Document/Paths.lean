import VectorLint.Proofs.Document.Places
import VectorLint.Proofs.Document.RoundTrip

/-!
# Paths as addresses

A path is a text, and it is read by its signs: a slash begins a step, and a step is a name with a
number in brackets. The steps of an element lead from the document to the element. So a path leads
there too, if its steps can be told from its text, and they can if no name on the way holds a slash.
-/

namespace VectorLint

namespace Path

/-- A step as it is written, without the slash. -/
def writeStep (step : String × Nat) : List Char :=
  step.1.toList ++ '[' :: Nat.toDigits 10 step.2 ++ [']']

/-- A step from its text: a name, and a number in brackets. -/
def readStep? (cs : List Char) : Option (String × Nat) :=
  match cs.reverse with
  | ']' :: rest =>
    match rest.dropWhile Char.isDigit with
    | '[' :: name =>
      some (String.ofList name.reverse,
        Nat.ofDigitChars 10 (rest.takeWhile Char.isDigit).reverse 0)
    | _ => none
  | _ => none

/-- The steps of a path. -/
def read? (path : String) : Option (List (String × Nat)) :=
  match path.toList.splitOn '/' with
  | [] :: parts => parts.mapM readStep?
  | _ => none

theorem readStep?_writeStep (step : String × Nat) : readStep? (writeStep step) = some step := by
  obtain ⟨name, number⟩ := step
  have hdigits : ∀ c ∈ (Nat.toDigits 10 number).reverse, c.isDigit = true := fun c hc ↦
    Nat.isDigit_of_mem_toDigits (by decide) (by decide) (List.mem_reverse.mp hc)
  have hdrop : ((Nat.toDigits 10 number).reverse ++ '[' :: name.toList.reverse).dropWhile
      Char.isDigit = '[' :: name.toList.reverse := by
    rw [List.dropWhile_append_of_pos hdigits]
    rfl
  have htake : ((Nat.toDigits 10 number).reverse ++ '[' :: name.toList.reverse).takeWhile
      Char.isDigit = (Nat.toDigits 10 number).reverse := by
    rw [List.takeWhile_append_of_pos hdigits]
    exact List.append_nil _
  have hreverse : (writeStep (name, number)).reverse
      = ']' :: ((Nat.toDigits 10 number).reverse ++ '[' :: name.toList.reverse) := by
    simp [writeStep]
  rw [readStep?, hreverse]
  simp only [hdrop, htake, List.reverse_reverse, String.ofList_toList,
    Nat.ofDigitChars_toDigits (by decide : 1 < 10) (by decide : 10 ≤ 10)]

theorem intercalate_cons {α : Type} (x : α) (l : List α) (ls : List (List α)) :
    [x].intercalate (l :: ls) = l ++ ls.flatMap (x :: ·) := by
  induction ls generalizing l with
  | nil => simp
  | cons l' ls ih => simp [List.intercalate_cons_cons, ih]

theorem read?_written {steps : List (String × Nat)} (h : ∀ s ∈ steps, '/' ∉ s.1.toList) :
    read? (String.join (steps.map fun (name, number) ↦
      "/" ++ name ++ "[" ++ toString number ++ "]")) = some steps := by
  have htext : (String.join (steps.map fun (name, number) ↦
      "/" ++ name ++ "[" ++ toString number ++ "]")).toList
        = ['/'].intercalate ([] :: steps.map writeStep) := by
    rw [intercalate_cons, String.toList_join, List.flatMap_map, List.flatMap_map, List.nil_append]
    refine List.flatMap_congr fun s _ ↦ ?_
    simp [writeStep]
  have hslash : ∀ l ∈ [] :: steps.map writeStep, '/' ∉ l := by
    refine List.forall_mem_cons.mpr ⟨List.not_mem_nil, List.forall_mem_map.mpr fun s hs ↦ ?_⟩
    have hdigits : '/' ∉ Nat.toDigits 10 s.2 := fun hc ↦
      absurd (Nat.isDigit_of_mem_toDigits (by decide) (by decide) hc) (by decide)
    simp [writeStep, h s hs, hdigits]
  rw [read?, htext, List.splitOn_intercalate '/' hslash (List.cons_ne_nil _ _)]
  clear h htext hslash
  change (steps.map writeStep).mapM readStep? = some steps
  induction steps with
  | nil => rfl
  | cons s steps ih =>
    rw [List.map_cons, List.mapM_cons, readStep?_writeStep, ih]
    rfl

end Path

namespace Place

/-- **The steps of an element lead to it.** -/
theorem follow_steps {p : Place} (h : p.Fits) : p.top.follow p.steps = some p := by
  induction p with
  | document nodes => rfl
  | child p before t cs after ih =>
    rw [steps, follow_append, top, ih h.1, Option.bind_some, follow, child?_of_fits h]
    rfl

theorem slash_notMem_steps {p : Place} (h : ∀ q ∈ p :: p.ancestors, '/' ∉ q.tag.name.toList) :
    ∀ s ∈ p.steps, '/' ∉ s.1.toList := by
  induction p with
  | document nodes => exact fun s hs ↦ absurd hs List.not_mem_nil
  | child p before t cs after ih =>
    rw [List.forall_mem_cons] at h
    intro s hs
    rcases List.mem_append.mp hs with hs | hs
    · exact ih h.2 s hs
    · rw [List.mem_singleton.mp hs]
      exact h.1

/-- The path of a place in a tree tells its steps, if no name on the way holds a slash. -/
theorem read?_path {p : Place} (h : ∀ q ∈ p :: p.ancestors, '/' ∉ q.tag.name.toList) :
    Path.read? p.path = some p.steps := by
  rw [← path_entry]
  exact Path.read?_written (slash_notMem_steps h)

end Place

end VectorLint
