import Conformance.Check.Verdict
import Conformance.Report

/-!
# Test cases

* `Assertion` : a check, or any other judgement of a finished run; it may break down instead of
  reaching a verdict;
* `TestCase` : a plan, its assertions, and where and how long it may run;
* `TestCase.evaluate` : the outcomes on a given result; every assertion is judged, and one that
  breaks down counts as failed.
-/

namespace Conformance

/-- What is known of an assertion that broke down. -/
inductive Breakdown where
  /-- A text was left. -/
  | text (reason : String)
  /-- Something else was left. -/
  | other
  deriving DecidableEq, Repr

/-- The words for a breakdown. -/
def Breakdown.reason : Breakdown → String
  | .text reason => reason
  | .other => "unknown panic"

/-- A judgement of a finished run. -/
structure Assertion where
  /-- The assertion in a few words. -/
  describe : String
  /-- The verdict on a result, with its workspace. -/
  judge : FileView → RunResult → Path → Except Breakdown Outcome

/-- A check as an assertion. -/
def Check.toAssertion (c : Check) : Assertion :=
  ⟨c.describe, fun view result workspace => .ok (c.evaluate view result workspace)⟩

/-- The outcome of an assertion, a breakdown included. -/
def Assertion.outcome (a : Assertion) (view : FileView) (result : RunResult) (workspace : Path) :
    Outcome :=
  match a.judge view result workspace with
  | .ok outcome => outcome
  | .error b => .fail s!"{a.describe}: assertion panicked: {b.reason}"

/-- One case of a suite. -/
structure TestCase where
  /-- The name of the case. -/
  name : String
  /-- The compiler call. -/
  plan : Plan
  /-- What is expected of it, in order. -/
  assertions : List Assertion := []
  /-- The systems that the case is for; all, if absent. -/
  platforms : Option (List Os) := none
  /-- The time limit of the case, in place of the runner's. -/
  timeout : Option Duration := none

namespace TestCase

/-- Whether the case is for the system of a platform. -/
def appliesTo (c : TestCase) (p : Platform) : Bool :=
  match c.platforms with
  | some systems => systems.contains p.os
  | none => true

/-- The outcome that a run without a normal end starts with. -/
def runFailure (result : RunResult) : List Outcome :=
  match result.termination with
  | .launchFailed => [.fail s!"run: could not launch subject: {Text.trim result.stderr}"]
  | .timedOut afterMs => [.fail s!"run: timed out after {afterMs} ms; process terminated"]
  | _ => []

/-- The outcomes of a case on a result. -/
def evaluate (c : TestCase) (view : FileView) (result : RunResult) (workspace : Path) :
    List Outcome :=
  runFailure result ++ c.assertions.map fun a => a.outcome view result workspace

end TestCase

end Conformance
