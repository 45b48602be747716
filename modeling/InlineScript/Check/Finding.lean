import InlineScript.Text.Span

/-!
What an engine says about a script, in spans of the script.
-/

namespace InlineScript

open Text (Span)

inductive Category where
  | error
  | warning
  | suggestion
  | message
deriving DecidableEq, Repr

/-- A problem in a script. -/
structure Finding where
  span : Span
  category : Category
  code : Nat
  message : String
deriving DecidableEq, Repr

/-- What is known about the symbol at a place. -/
structure QuickInfo where
  span : Span
  /-- The symbol's declaration in short. -/
  display : String
  documentation : Option String
deriving DecidableEq, Repr

namespace Finding

def error (span : Span) (code : Nat) (message : String) : Finding where
  span := span
  category := .error
  code := code
  message := message

/-- Findings by their start; those with the same start keep their order. -/
def sort (findings : List Finding) : List Finding :=
  findings.mergeSort (fun first second => first.span.start ≤ second.span.start)

end Finding

end InlineScript
