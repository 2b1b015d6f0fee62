import Conformance.Data

/-!
# Outcomes

* `Outcome` : the verdict of one check and its explanation.
-/

namespace Conformance

/-- The verdict of one check. -/
structure Outcome where
  /-- Whether the check holds. -/
  passed : Bool
  /-- What was expected and what was found. -/
  message : String
  deriving DecidableEq, Repr

namespace Outcome

/-- A verdict against. -/
def fail (message : String) : Outcome := ⟨false, message⟩

/-- The document form. -/
def toData (o : Outcome) : Data :=
  .record [("passed", .bool o.passed), ("message", .text o.message)]

/-- An outcome from its document form: a mapping, or its two fields in order. -/
def ofData? : Data → Option Outcome
  | .map entries => do
    return ⟨← (← Data.field? entries "passed").bool?, ← (← Data.field? entries "message").text?⟩
  | .list [passed, message] => do return ⟨← passed.bool?, ← message.text?⟩
  | _ => none

end Outcome

end Conformance
