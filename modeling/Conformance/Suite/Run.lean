import Conformance.Runner
import Conformance.Suite
import Conformance.Suite.Pool
import Conformance.Text.Lowercase
import Conformance.Workspace

/-!
# Running suites

* `Suite.skipReason` : why a case does not run;
* `TestCase.run` : the report of a case in a workspace;
* `runParallel` : the reports of cases that several workers run;
* `Suite.runIsolated` : the report of a case in a workspace of its own, which is removed;
* `Suite.runCase` : the report of a case that may be skipped;
* `Suite.run` : the report of a suite, one case after another or several at a time;
* `SuiteReport.progress` : what is told while a suite runs.
-/

namespace Conformance

variable {σ : Type}

/-- The report of a case in a workspace. The case's own limit wins. -/
def TestCase.run (c : TestCase) (env : Environment σ) (config : RunnerConfig) (workspace : Path) :
    StateM σ Report := do
  let result ← execute env config c.plan workspace (c.timeout <|> config.timeout)
  let outcomes := c.evaluate (env.view (← get)) result workspace
  return .ofOutcomes c.name outcomes (some (.ofResult result))

/-- The report of a case whose workspace could not be prepared. -/
def TestCase.setupFailure (c : TestCase) (e : HarnessError) : Report :=
  let detail := match e.cause with
    | some cause => s!"{e.message}: {cause.message}"
    | none => e.message
  .ofOutcomes c.name [.fail s!"setup: {detail}"] none

/-- How a suite is run. -/
structure SuiteOptions where
  /-- The directory of the workspaces. -/
  workRoot : Path
  /-- A text that the name of a case has to contain, in any case of letters. -/
  filter : Option String := none
  /-- How many cases run at a time. -/
  jobs : Nat := 1
  deriving DecidableEq, Repr

/-- The report of a case that no worker reported on. -/
def TestCase.unreported (c : TestCase) : Report :=
  .ofOutcomes c.name [.fail "run: no report was produced"] none

/-- The reports that workers left in the slots of the cases. -/
def collectReports (cases : List TestCase) (slots : List (Option Report)) : List Report :=
  slots.zipWith (fun slot c => slot.getD c.unreported) cases

/-- The reports of cases that several workers run, who take turns as `turns` says. -/
def runParallel (cases : List TestCase) (workers : Nat) (runOne : TestCase → StateM σ Report)
    (turns : Nat → Nat) : StateM σ (List Report) := do
  return collectReports cases (← Pool.runAll cases workers runOne turns)

namespace Suite

/-- Why a case does not run, if it does not. -/
def skipReason (c : TestCase) (p : Platform) (filter : Option String) : Option String :=
  if !c.appliesTo p then some s!"not applicable on {p.os.name}"
  else
    match filter with
    | some part =>
      if Text.containsIgnoringCase c.name part then none
      else some s!"filtered out by substring: {part}"
    | none => none

/-- The report of a case in a workspace of its own. The workspace is removed in any case; after a
run it is a failure if it cannot be. -/
def runIsolated (s : Suite) (env : Environment σ) (config : RunnerConfig) (workRoot : Path)
    (c : TestCase) : StateM σ Report := do
  match ← (Workspace.create env workRoot s!"{s.name}_{c.name}").run with
  | .error e => return c.setupFailure e
  | .ok ws =>
    match ← (ws.copyFixtures env s.fixtures).run with
    | .error e =>
      ws.drop env
      return c.setupFailure e
    | .ok () =>
      let report ← c.run env config ws.path
      match ← (ws.close env).run with
      | .ok () => return report
      | .error e =>
        return report.addFailure s!"workspace: failed to remove {ws.path.text}: {e.message}"

/-- The report of a case, run or skipped. -/
def runCase (s : Suite) (env : Environment σ) (config : RunnerConfig) (options : SuiteOptions)
    (c : TestCase) : StateM σ Report := do
  match skipReason c config.platform options.filter with
  | some reason => return .skip c.name reason
  | none => s.runIsolated env config options.workRoot c

/-- How many cases run at a time: at least one, and no more than there are. -/
def workerCount (s : Suite) (options : SuiteOptions) : Nat :=
  min (max options.jobs 1) (max s.cases.length 1)

/-- The report of a suite. With several workers, too, each case is run in one step, without a pause: cases
that overlap, operation by operation, are courses of a relation (`Interleaved`), and a run is one of these
courses (`Suite.run_interleaving`). -/
def run (s : Suite) (env : Environment σ) (config : RunnerConfig) (options : SuiteOptions)
    (turns : Nat → Nat) : StateM σ SuiteReport := do
  let runOne := s.runCase env config options
  let jobs := s.workerCount options
  if jobs = 1 then return ⟨s.name, ← s.cases.mapM runOne⟩
  return ⟨s.name, ← runParallel s.cases jobs runOne turns⟩

end Suite

/-- What is told of a case while a suite runs, once the case has run. -/
def Report.progress (suite : String) (r : Report) : String :=
  let verdict := if r.passed then "ok" else "FAILED"
  let took := (r.run.map RunSummary.durationMs).getD 0
  s!"RUN  {suite}::{r.case} ... {verdict} ({took} ms)\n"

/-- What is told while a suite runs. -/
def SuiteReport.progress (s : SuiteReport) : String :=
  String.join ((s.reports.filter fun r => !r.isSkipped).map (Report.progress s.suite))

end Conformance
