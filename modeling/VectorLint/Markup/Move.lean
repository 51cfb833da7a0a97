/-!
# Reading by characters

Markup is read one character at a time. What has been read of a token so far is a state, and the
next character either leads to another state, completes the token, or cannot stand there. Since
nothing else happens between two characters, reading a text is a fold, and reading two texts one
after the other is reading them joined.
-/

namespace VectorLint.Markup

/-- What the next character does to a token that is being read. -/
inductive Move (σ α : Type) where
  /-- More characters belong to the token. -/
  | more (state : σ)
  /-- The character completes the token. -/
  | done (token : α)
  /-- The character cannot stand here. -/
  | invalid
  deriving DecidableEq, Repr

end VectorLint.Markup
