import VectorLint.Document.Basic
import VectorLint.Proofs.Markup.Prolog

/-!
# Declarations of entities

Markup whose document type declares entities is to be refused, so that nothing is ever expanded. The
check refuses a declaration where it reads it, and the grammar lets none through that it reads. Two
kinds of declarations it does not read: those of the five predefined entities, which may be declared
once more, and those behind a reference to a parameter entity, unless the document is declared to
stand alone. Markup with declarations of these kinds alone has a document.
-/

namespace VectorLint.Document

open Markup (Source Decoded)
open Markup.Doctype (Token namesPredefined isStandalone)

/-- What the check reads of markup that has a document. -/
theorem exists_of_ofSource {source : Source} {name : Option String} {d : Document}
    (h : ofSource source name = .ok d) :
    ∃ text events, source.forCheck = .ok text ∧ text.read = .ok events
      ∧ check source name = .ok events ∧ d = { tree := build source, name } := by
  cases hcheck : check source name with
  | error e => rw [ofSource, hcheck] at h; cases h
  | ok events =>
    have hd : d = { tree := build source, name } := by
      rw [ofSource, hcheck] at h
      exact (Except.ok.inj h).symm
    rw [check] at hcheck
    split at hcheck
    · cases hcheck
    · rename_i text htext
      split at hcheck
      · cases hcheck
      · rename_i events' hread
        exact ⟨text, events, htext, Except.ok.inj hcheck ▸ hread, rfl, hd⟩

/-- **Entities.** In markup that has a document, each declaration of an entity declares a predefined
one, or stands behind a reference to a parameter entity in markup that is not declared to stand
alone. -/
theorem overlooked_of_ofSource {source : Source} {name : Option String} {d : Document}
    (h : ofSource source name = .ok d) :
    ∃ text, source.forCheck = .ok text ∧
      ∀ front behind, text.prolog = front ++ .opening "ENTITY" :: behind →
        namesPredefined behind = true
          ∨ .parameterReference ∈ front ∧ isStandalone text.prolog = false := by
  obtain ⟨text, events, htext, hread, -⟩ := exists_of_ofSource h
  obtain ⟨d', g, c, rest, -, haccept, hend, -⟩ := Decoded.exists_of_read hread
  refine ⟨text, htext, fun front behind hprolog ↦ ?_⟩
  rw [hprolog] at haccept ⊢
  exact Markup.Doctype.overlooked_of_acceptAll haccept hend

/-- Both kinds of declarations at once: two entities are declared, and there is a document. -/
theorem overlooked_of_ofSource_both :
    let source : Source :=
      .text "<!DOCTYPE a [<!ENTITY lt \"&#38;#60;\">%p;<!ENTITY x SYSTEM \"f\">]><a/>"
    ∃ d, ofSource source none = .ok d
      ∧ (source.seen.prolog.filter (· = .opening "ENTITY")).length = 2
      ∧ ∃ text, source.forCheck = .ok text ∧
        ∀ front behind, text.prolog = front ++ .opening "ENTITY" :: behind →
          namesPredefined behind = true
            ∨ .parameterReference ∈ front ∧ isStandalone text.prolog = false := by
  intro source
  have hok : (ofSource source none).isOk = true := by decide +kernel
  cases h : ofSource source none with
  | error e => rw [h] at hok; cases hok
  | ok d => exact ⟨d, rfl, by decide +kernel, overlooked_of_ofSource h⟩

/-- An entity is declared behind a reference to a parameter entity, and nothing is refused. -/
theorem isOk_of_declared_entity :
    let source : Source := .text "<!DOCTYPE a [%p;<!ENTITY x \"y\">]><a/>"
    (ofSource source none).isOk = true ∧ .opening "ENTITY" ∈ source.seen.prolog := by
  decide +kernel

end VectorLint.Document
