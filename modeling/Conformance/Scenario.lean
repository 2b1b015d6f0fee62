import Conformance.Suite

/-!
# Scenarios

A scenario file declares one suite: its fixtures and its cases, each a plan with checks.

* `CaseSpec`, `ScenarioFile` : what a scenario file says;
* `Scenario` : a scenario file and where it comes from;
* `Scenario.name`, `Scenario.fixturesRoot`, `Scenario.toSuite` : what follows from both.
-/

namespace Conformance

/-- What a scenario file says about a case. -/
structure CaseSpec where
  /-- The name of the case and of its plan. -/
  name : String
  sources : List Path := []
  out : Option Path := none
  args : List String := []
  /-- The systems that the case is for; all, if absent. -/
  platforms : Option (List Os) := none
  /-- The time limit in seconds. -/
  timeoutSecs : Option Nat := none
  expect : List Check := []
  deriving DecidableEq, Repr

namespace CaseSpec

/-- The plan of a case. -/
def plan (c : CaseSpec) : Plan := ⟨c.name, c.sources, c.out, c.args⟩

/-- The test case. -/
def toCase (c : CaseSpec) : TestCase :=
  { name := c.name
    plan := c.plan
    assertions := c.expect.map Check.toAssertion
    platforms := c.platforms
    timeout := c.timeoutSecs.map .ofSecs }

end CaseSpec

/-- What a scenario file says. -/
structure ScenarioFile where
  /-- The name of the suite, if it is given. -/
  suite : Option String := none
  /-- The directory of the fixtures, if it is given. -/
  fixturesDir : Option Path := none
  fixtures : List Path := []
  cases : List CaseSpec := []
  deriving DecidableEq, Repr

/-- A scenario file and where it comes from. -/
structure Scenario where
  /-- Where it comes from. -/
  path : Path
  /-- What it says. -/
  file : ScenarioFile
  deriving DecidableEq, Repr

namespace Scenario

/-- The name of the suite: as given, or that of the file without its extension. -/
def name (s : Scenario) : String := s.file.suite.getD (s.path.stem?.getD "suite")

/-- The directory that fixtures are found in. One that is given from outside wins; any other is
relative to the scenario file. -/
def fixturesRoot (s : Scenario) (outside : Option Path) : Path :=
  match outside with
  | some dir => dir
  | none =>
    let base := s.path.parent?.getD ⟨"."⟩
    match s.file.fixturesDir with
    | some dir => base.join dir
    | none => base

/-- The suite of a scenario. -/
def toSuite (s : Scenario) (outside : Option Path) : Suite :=
  { name := s.name
    cases := s.file.cases.map CaseSpec.toCase
    fixtures := s.file.fixtures.map (s.fixturesRoot outside).join }

end Scenario

end Conformance
