import VectorLint.Document.Query
import VectorLint.Rule.Finding
import VectorLint.Value.Limits

/-!
# The attribute rule

The rule constrains the attributes of the elements that a selector matches. Its configuration gives
names of attributes a requirement: true asks for the attribute, false forbids it, a text asks for
that value, and a list of texts for one of these values. Two names are not attributes but settings:
the selector, which matches every element unless it is given, and whether the attributes that are
not named are forbidden. An attribute whose requirement cannot be read still counts as named. But a
value that is refused and cannot be written in the text of the refusal ends the configuration.
-/

namespace VectorLint

namespace AttributeRule

/-- What is asked of one attribute. -/
inductive Requirement where
  | present
  | absent
  | equals (value : String)
  | oneOf (values : List String)
  deriving DecidableEq, Repr

/-- The name of the setting that holds the selector. -/
def selectorKey : String := "rule::selector"

/-- The name of the setting that forbids attributes without a requirement. -/
def whitelistKey : String := "rule::whitelist"

/-- Whether a name is a setting of the rule, and not an attribute. -/
def isSetting (name : String) : Bool := name = selectorKey || name = whitelistKey

/-- The logger of the rule as such. -/
def logger : String := "svglint.rules.attr"

/-- The requirement that a value stands for. -/
def Requirement.ofValue (limits : Limits) (name : String) (v : Value) :
    Except Failure Requirement :=
  match v with
  | .bool true => .ok .present
  | .bool false => .ok .absent
  | .text s => .ok (.equals s)
  | v =>
    match v.texts? with
    | some values => .ok (.oneOf values)
    | none => v.refused limits .json fun text ↦
      "Unknown config type '" ++ v.kindName ++ "' for attribute '" ++ name ++ "' (" ++ text ++ ")"

/-- What is wrong with the value of an attribute, or with its absence. -/
def Requirement.fault? (name : String) (value : Option String) : Requirement → Option String
  | .absent => value.map fun _ ↦ "Attribute '" ++ name ++ "' is disallowed"
  | requirement =>
    match value with
    | none => some ("Expected attribute '" ++ name ++ "', didn't find it")
    | some value =>
      match requirement with
      | .equals expected =>
        if value = expected then none
        else some ("Expected attribute '" ++ name ++ "' to be '" ++ expected ++ "', was '" ++ value
          ++ "'")
      | .oneOf values =>
        if values.contains value then none
        else some ("Expected attribute '" ++ name ++ "' to be one of " ++ Value.shownTexts values
          ++ ", was '" ++ value ++ "'")
      | _ => none

end AttributeRule

/-- An attribute rule. Under a whitelist, attributes without a requirement are forbidden unless they
are `expected`. -/
structure AttributeRule where
  selector : String
  requirements : List (String × AttributeRule.Requirement)
  whitelist : Bool
  expected : List String := []
  faults : List Failure := []

namespace AttributeRule

/-- What is wrong with an element: first what the requirements say, then the attributes that are not
expected. -/
def failures (r : AttributeRule) (e : Element) : List String :=
  let required := r.requirements.filterMap fun (name, q) ↦ q.fault? name (e.get? name)
  let unexpected :=
    if r.whitelist then
      (e.attributes.filter fun a ↦
          !r.expected.contains a.name && !(r.requirements.map (·.1)).contains a.name).map
        fun a ↦ "Found unexpected attribute '" ++ a.name ++ "'"
    else []
  required ++ unexpected

/-- What the rule says about elements: one without a failure is allowed, and any other is disallowed
once for each failure. -/
def judge (r : AttributeRule) (elements : List Element) : Outcome where
  allowed := (elements.filter fun e ↦ (r.failures e).isEmpty).map fun e ↦ ⟨some e, ""⟩
  disallowed := elements.flatMap fun e ↦ (r.failures e).map fun message ↦ ⟨some e, message⟩

/-- What the rule says about the elements of a document that its selector matches. -/
def outcome (r : AttributeRule) (d : Document) : Except Failure Outcome := do
  return r.judge (← d.find r.selector)

/-- The rule that a configuration describes. -/
def ofConfig (limits : Limits) (config : Value) : Except Failure AttributeRule := do
  let some fields := config.fields?
    | throw ⟨.configuration, "attr config must be a mapping, got '" ++ config.kindName ++ "'"⟩
  let selector ← match (Fields.get? fields selectorKey).getD (.text "*") with
    | .text s => pure s
    | v => v.refused limits .shown fun text ↦
      "'" ++ selectorKey ++ "' must be a string, got " ++ text
  let whitelist ← match (Fields.get? fields whitelistKey).getD (.bool false) with
    | .bool b => pure b
    | v => v.refused limits .shown fun text ↦
      "'" ++ whitelistKey ++ "' must be a boolean, got " ++ text
  let named := fields.filter fun (name, _) ↦ !isSetting name
  let read ← named.mapM fun (name, v) ↦
    (Failure.kept (Requirement.ofValue limits name v)).map fun q ↦ (name, q)
  return {
    selector, whitelist
    requirements := read.filterMap fun (name, q) ↦ q.toOption.map fun q ↦ (name, q)
    expected := named.map (·.1)
    faults := read.filterMap fun (_, q) ↦ match q with
      | .ok _ => none
      | .error f => some f }

/-- What the rule does on a document. -/
def conduct (r : AttributeRule) (d : Document) : Conduct where
  actions :=
    .debug ("Called on '" ++ r.selector ++ "' with " ++ toString r.requirements.length
        ++ " attributes")
      :: r.faults.map .exception
      ++ match r.outcome d with
        | .ok o => o.note logger r.selector :: Outcome.reports [o]
        | .error f =>
          [.debug ("Selector '" ++ r.selector ++ "' failed: " ++ f.shown), .exception f]

end AttributeRule

end VectorLint
