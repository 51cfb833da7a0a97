import VectorLint.Rule.Action

/-!
# Allowed and disallowed elements

A clause of a rule allows some elements and disallows others. An element that some clause allows is
allowed, whatever other clauses say about it; what is disallowed without being about an element
always stands. Elements of one document are told apart by their numbers, so two elements that look
the same are two elements.
-/

namespace VectorLint

/-- What a clause says about an element, or about the lack of one. -/
structure Finding where
  element : Option Element
  message : String := ""

/-- What a clause allows and what it disallows. -/
structure Outcome where
  allowed : List Finding := []
  disallowed : List Finding := []

namespace Outcome

/-- The numbers of the elements that outcomes allow. -/
def allowedIndexes (outcomes : List Outcome) : List Nat :=
  outcomes.flatMap fun o ↦ o.allowed.filterMap fun f ↦ f.element.map (·.index)

/-- Whether a disallowed finding stands when the elements with the given numbers are allowed. -/
def stands (allowed : List Nat) (f : Finding) : Bool :=
  match f.element with
  | none => true
  | some e => !allowed.contains e.index

/-- The disallowed findings that stand: those about no element, and those about an element that no
outcome allows. -/
def standing (outcomes : List Outcome) : List Finding :=
  (outcomes.flatMap (·.disallowed)).filter (stands (allowedIndexes outcomes))

/-- The report of each disallowed finding that stands, as an error. -/
def reports (outcomes : List Outcome) : List Action :=
  (standing outcomes).map fun f ↦ .report .error (.text f.message) f.element

/-- What is logged about an outcome of a selector. -/
def note (logger selector : String) (o : Outcome) : Action :=
  .note .debug (some logger)
    ("'" ++ selector ++ "': " ++ toString o.allowed.length ++ " allowed, "
      ++ toString o.disallowed.length ++ " disallowed")

end Outcome

end VectorLint
