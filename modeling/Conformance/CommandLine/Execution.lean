import Conformance.CommandLine.Console
import Conformance.CommandLine.Request
import Conformance.Inspection
import Conformance.Report.Reporter
import Conformance.Scenario.Discovery
import Conformance.Scenario.Listing
import Conformance.Suite.Preflight
import Conformance.Suite.Run

/-!
# Carrying out requests

* `Site` : the host that requests are carried out on;
* `runScenarios`, `listScenarios`, `inspectFiles` : what each request does, in this order. Everything that
  a run needs is checked before its first case runs, and results are written in the end;
* `Request.deliver` : what a request does. The answer is an exit status.
-/

namespace Conformance.CommandLine

/-- Where requests are carried out. -/
structure Site where
  platform : Platform
  /-- The directory and the variables of the harness. -/
  setting : Setting
  /-- What starting a command does. -/
  subject : Subject
  /-- The order in which workers take turns. -/
  turns : Nat → Nat

/-- The directory of workspaces if none is given. -/
def defaultWorkRoot (setting : Setting) : Path :=
  (Path.mk ((setting.bindings.lookup "TMPDIR").getD "/tmp")).join ⟨"driverprobe-work"⟩

variable {ω : Type}

/-- The scenarios below paths. -/
def scenariosBelow (site : Site) (paths : List Path) : Attempt ω (List Scenario) :=
  .look fun host => loadAll host.files site.setting.directory paths

/-- Runs the cases of scenarios. -/
def runScenarios (site : Site) (console : Console ω) (compiler : Path) (options : RunOptions)
    (paths : List Path) : Attempt ω Nat := do
  let suites := (← scenariosBelow site paths).map fun s => s.toSuite options.fixtures
  let env := Host.environment site.setting site.subject
  suites.forM fun s => .look fun host => s.preflight (env.view host) env.searchPath compiler
  let config : RunnerConfig :=
    { executable := compiler
      timeout := some (.ofSecs options.timeoutSecs)
      platform := site.platform }
  let suiteOptions : SuiteOptions :=
    { workRoot := options.workRoot.getD (defaultWorkRoot site.setting)
      filter := options.filter
      jobs := options.jobs }
  let reports ← suites.mapM fun s => do
    let report ← Attempt.act (s.run env config suiteOptions site.turns)
    if options.verbose then Attempt.tell console report.progress
    return report
  let rendered := match options.format with
    | .console => renderConsole reports
    | .json => renderJson reports
  Attempt.write console rendered.output
  return rendered.exitStatus

/-- Lists the cases of scenarios. -/
def listScenarios (site : Site) (console : Console ω) (paths : List Path) : Attempt ω Nat := do
  let scenarios ← scenariosBelow site paths
  Attempt.write console (listing scenarios site.platform)
  return 0

/-- Tells the format of files. -/
def inspectFiles (site : Site) (console : Console ω) (files : List Path) (format : Format) :
    Attempt ω Nat := do
  let inspections ← files.mapM fun p => .look fun host =>
    match (host.files.view site.setting.directory).summarize p with
    | .ok summary => .ok (Inspection.ofSummary p summary site.platform)
    | .error e => .error (.inspect p e)
  Attempt.write console <| match format with
    | .console => inspections.flatMap Inspection.console
    | .json => [.text (inspectionsJson inspections)]
  return 0

/-- What a request does. The answer is the exit status. -/
def Request.deliver (request : Request) (site : Site) (console : Console ω) : Attempt ω Nat :=
  match request with
  | .run compiler options paths => runScenarios site console compiler options paths
  | .list paths => listScenarios site console paths
  | .inspect files format => inspectFiles site console files format

end Conformance.CommandLine
