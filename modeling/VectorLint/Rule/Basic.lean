import VectorLint.Rule.Attributes
import VectorLint.Rule.Elements
import VectorLint.Rule.Notice
import VectorLint.Rule.Script.Conduct

/-!
# Rules

There are four kinds of rule. Configured rules get instances: one for each configuration, so a list
of configurations gives one instance for each item. An instance of a kind that is not known, or of
a configuration that its kind does not accept, is an instance like any other; it fails when it runs,
so that a mistake in one rule is reported and the others still run. This holds as long as the
mistake can be told: a configuration whose refusal cannot be written leaves all rules without
instances.
-/

namespace VectorLint

/-- The kinds of rule. -/
inductive Rule.Kind where
  | attributes
  | elements
  | notice
  | custom
  deriving DecidableEq, Repr

/-- A rule that is ready to run. -/
inductive Rule where
  | attributes (r : AttributeRule)
  | elements (r : ElementRule)
  | notice (n : Notice)
  | script (s : Script)
  /-- A configuration that the kind of rule does not accept. -/
  | rejected (f : Failure)
  /-- A kind of rule that is not known. -/
  | unknown (name : String)

namespace Rule

/-- The names of the kinds, as configurations give them. -/
def Kind.names : List (String × Kind) :=
  [("attr", .attributes), ("elm", .elements), ("identity", .notice), ("custom", .custom)]

/-- The kind with a given name. -/
def Kind.ofName? (name : String) : Option Kind := names.lookup name

/-- The rule of a kind that a configuration describes. -/
def Kind.generate (limits : Limits) (config : Value) : Kind → Except Failure Rule
  | .attributes => (AttributeRule.ofConfig limits config).map .attributes
  | .elements => (ElementRule.ofConfig limits config).map .elements
  | .notice => (Notice.ofConfig limits config).map .notice
  | .custom =>
    match config with
    | .script s _ => .ok (.script s)
    | v => .error ⟨.configuration, "custom rule must be callable, got '" ++ v.kindName ++ "'"⟩

/-- The rule of the kind with a given name that a configuration describes. -/
def generate (limits : Limits) (name : String) (config : Value) : Except Failure Rule :=
  match Kind.ofName? name with
  | some kind => kind.generate limits config
  | none => .error ⟨.key, name⟩

/-- The rule that stands for a name and a configuration, whether they are right or not. -/
def ofConfig (limits : Limits) (name : String) (config : Value) : Except Failure Rule :=
  match Kind.ofName? name with
  | none => .ok (.unknown name)
  | some kind => do
    match ← Failure.kept (kind.generate limits config) with
    | .ok rule => return rule
    | .error f => return .rejected f

/-- What a rule does on a document. -/
def conduct (rule : Rule) (d : Document) : Conduct :=
  match rule with
  | .attributes r => r.conduct d
  | .elements r => r.conduct d
  | .notice n => n.conduct
  | .script s => s.conduct d
  | .rejected f => .failing f
  | .unknown name => .failing ⟨.configuration, "Unknown rule '" ++ name ++ "'"⟩

/-- One configuration of a rule: the only one, or an item of a list with its number. -/
structure Occurrence where
  rule : String
  number : Option Nat
  config : Value

/-- One configured occurrence of a rule. -/
structure Instance where
  name : String
  rule : Rule

namespace Occurrence

/-- The name of the instance: that of the rule, with the number in brackets if there is one. -/
def name (o : Occurrence) : String :=
  o.rule ++ o.number.elim "" fun i ↦ "[" ++ toString i ++ "]"

/-- The configurations that one value gives: those of its items if it is a list, in their order, or
else the value itself. -/
def ofEntry (rule : String) : Value → List Occurrence
  | .list items => items.zipIdx.map fun c ↦ ⟨rule, some c.2, c.1⟩
  | config => [⟨rule, none, config⟩]

/-- The configurations of all rules, in their order. -/
def ofRules (rules : List (String × Value)) : List Occurrence :=
  rules.flatMap fun r ↦ ofEntry r.1 r.2

/-- The instance of a configuration. -/
def build (limits : Limits) (o : Occurrence) : Except Failure Instance :=
  (Rule.ofConfig limits o.rule o.config).map fun rule ↦ ⟨o.name, rule⟩

end Occurrence

namespace Instance

/-- The instances of configured rules, in the order of the configuration. -/
def ofConfigs (limits : Limits) (rules : List (String × Value)) : Except Failure (List Instance) :=
  (Occurrence.ofRules rules).mapM (Occurrence.build limits)

/-- What is logged about an instance whose configuration was not accepted. -/
def rejection? (i : Instance) : Option Log.Record :=
  match i.rule with
  | .rejected f =>
    some (.debug "svglint.rules" ("Rule " ++ i.name ++ " rejected its config: " ++ f.shown))
  | _ => none

/-- What is logged about the configurations that were not accepted, up to one that ends the
building. -/
def rejections (limits : Limits) (rules : List (String × Value)) : List Log.Record :=
  (((Occurrence.ofRules rules).map (Occurrence.build limits)).takeWhile (·.isOk)).filterMap
    fun built ↦ built.toOption.bind rejection?

end Instance

end Rule

end VectorLint
