import Conformance.Cause

/-!
# Errors of the harness

Only what stops the harness itself: whatever happens while a case runs is an outcome instead.

* `HarnessError` : what stopped it, with the cause where there is one;
* `HarnessError.message`, `HarnessError.code`, `HarnessError.help` : the wording.
-/

namespace Conformance

/-- What stopped the harness. -/
inductive HarnessError where
  | missingExecutable (path : Path)
  | missingFixture (path : Path)
  | workspace (root : Path) (cause : Cause)
  | scenarioRead (path : Path) (cause : Cause)
  | scenarioParse (path : Path)
  | discovery (root : Path) (cause : Cause)
  | noScenarios (root : Path)
  | inspect (path : Path) (cause : Cause)
  | reportWrite (cause : Cause)
  deriving DecidableEq, Repr

namespace HarnessError

/-- The wording of an error. -/
def message : HarnessError → String
  | .missingExecutable path => s!"compiler executable not found: {path.text}"
  | .missingFixture path => s!"fixture not found: {path.text}"
  | .workspace root _ => s!"failed to prepare workspace under {root.text}"
  | .scenarioRead path _ => s!"failed to read scenario file {path.text}"
  | .scenarioParse path => s!"invalid scenario file {path.text}"
  | .discovery root _ => s!"failed to walk {root.text}"
  | .noScenarios root => s!"no scenario files found under {root.text}"
  | .inspect path _ => s!"failed to read artifact {path.text}"
  | .reportWrite _ => "failed to write report"

/-- The stable name of an error. -/
def code : HarnessError → String
  | .missingExecutable _ => "driverprobe::missing_executable"
  | .missingFixture _ => "driverprobe::missing_fixture"
  | .workspace _ _ => "driverprobe::workspace"
  | .scenarioRead _ _ => "driverprobe::scenario_read"
  | .scenarioParse _ => "driverprobe::scenario_parse"
  | .discovery _ _ => "driverprobe::discovery"
  | .noScenarios _ => "driverprobe::no_scenarios"
  | .inspect _ _ => "driverprobe::inspect"
  | .reportWrite _ => "driverprobe::report_write"

/-- Advice, for errors that have any. -/
def help : HarnessError → Option String
  | .missingExecutable _ => some "build the compiler first or pass its location with --compiler"
  | .missingFixture _ =>
    some "fixtures are resolved against the scenario's fixtures_dir or --fixtures"
  | .scenarioParse _ =>
    some "each case needs a name and an `expect` list of \x7b check: ... \x7d entries"
  | _ => none

/-- The cause of an error, where it has one. -/
def cause : HarnessError → Option Cause
  | .workspace _ cause => some cause
  | .scenarioRead _ cause => some cause
  | .discovery _ cause => some cause
  | .inspect _ cause => some cause
  | .reportWrite cause => some cause
  | _ => none

/-- The exit status for an error, apart from that of failed cases. -/
def exitStatus : HarnessError → Nat := fun _ => 2

end HarnessError

end Conformance
