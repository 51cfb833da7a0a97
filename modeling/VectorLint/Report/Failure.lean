import VectorLint.Text.Quoted

/-!
# Failures

What a rule, a query or a configuration can fail with: a kind and a text. A failure that reaches
a report is shown as the name of its kind, a colon and its text. Missing keys are the one kind
whose text is shown quoted, since the text is then the key itself.
-/

namespace VectorLint

/-- The kinds of failure. -/
inductive Failure.Kind where
  /-- A rule or clause is configured with an unsupported shape. -/
  | configuration
  /-- A selector does not follow the selector grammar. -/
  | selector
  /-- A selector uses a part of the grammar that is recognised but has no meaning here. -/
  | notImplemented
  /-- Markup cannot be turned into a document. -/
  | document
  /-- A configuration does not have the form of one. -/
  | validation
  | value
  | runtime
  | key
  | type
  | index
  | lookup
  | overflow
  | recursion
  | unicode
  | decoding
  | fileNotFound
  | isADirectory
  | notADirectory
  | os
  | markup
  deriving DecidableEq, Repr

/-- The name of a kind, as reports show it. -/
def Failure.Kind.name : Failure.Kind → String
  | .configuration => "ConfigurationError"
  | .selector => "SelectorSyntaxError"
  | .notImplemented => "NotImplementedError"
  | .document => "DocumentError"
  | .validation => "ValidationError"
  | .value => "ValueError"
  | .runtime => "RuntimeError"
  | .key => "KeyError"
  | .type => "TypeError"
  | .index => "IndexError"
  | .lookup => "LookupError"
  | .overflow => "OverflowError"
  | .recursion => "RecursionError"
  | .unicode => "UnicodeError"
  | .decoding => "UnicodeDecodeError"
  | .fileNotFound => "FileNotFoundError"
  | .isADirectory => "IsADirectoryError"
  | .notADirectory => "NotADirectoryError"
  | .os => "OSError"
  | .markup => "MarkupError"

/-- The kind with a given name. -/
def Failure.Kind.ofName? (name : String) : Option Failure.Kind :=
  [.configuration, .selector, .notImplemented, .value, .runtime, .key, .type, .index].find?
    fun k ↦ k.name == name

/-- A failure. -/
structure Failure where
  kind : Failure.Kind
  text : String
  deriving DecidableEq, Repr

/-- The text of a failure on its own. -/
def Failure.shown (f : Failure) : String :=
  if f.kind = .key then Text.quoted f.text else f.text

/-- A failure as a report shows it. -/
def Failure.message (f : Failure) : String := f.kind.name ++ ": " ++ f.shown

/-- An attempt to configure something. That it fails to be configured is kept as what came of it; it
fails itself with any other failure. -/
def Failure.kept {α : Type} : Except Failure α → Except Failure (Except Failure α)
  | .ok a => .ok (.ok a)
  | .error f => if f.kind = .configuration then .ok (.error f) else .error f

end VectorLint
