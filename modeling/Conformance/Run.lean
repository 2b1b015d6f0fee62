import Conformance.Duration
import Conformance.Plan

/-!
# Finished runs

* `Termination` : how a process ended;
* `RunResult` : everything observed of one run;
* `RunSummary` : the part of it that a report keeps.
-/

namespace Conformance

/-- How a process ended. -/
inductive Termination where
  /-- By itself, with an exit code. -/
  | exited (code : Int)
  /-- By a signal. -/
  | signaled (signal : Int)
  /-- It was ended after its time was up. -/
  | timedOut (afterMs : Nat)
  /-- It was never started, or could not be waited for. -/
  | launchFailed
  deriving DecidableEq, Repr

namespace Termination

/-- The document form. -/
def toData : Termination → Data
  | .exited code => .record [("status", .text "exited"), ("code", .int code)]
  | .signaled signal => .record [("status", .text "signaled"), ("signal", .int signal)]
  | .timedOut afterMs => .record [("status", .text "timed_out"), ("after_ms", .int afterMs)]
  | .launchFailed => .record [("status", .text "launch_failed")]

/-- A termination from its document form. -/
def ofData? (d : Data) : Option Termination := do
  match ← (← d.get? "status").text? with
  | "exited" => return .exited (← (← d.get? "code").int32?)
  | "signaled" => return .signaled (← (← d.get? "signal").int32?)
  | "timed_out" => return .timedOut (← (← d.get? "after_ms").word64?)
  | "launch_failed" => return .launchFailed
  | _ => none

end Termination

/-- Everything observed of one run. -/
structure RunResult where
  /-- The plan that was carried out. -/
  plan : Plan
  /-- The executable and the arguments of the plan. -/
  argv : List String
  /-- The exit code, real or made up for a run without one. -/
  exitCode : Int
  /-- What was written to standard output. -/
  stdout : String
  /-- What was written to standard error. -/
  stderr : String
  /-- The directory that the run happened in. -/
  workspace : Path
  /-- How long it took. -/
  duration : Duration
  termination : Termination
  /-- The platform that output names and native formats follow. -/
  platform : Platform
  deriving DecidableEq, Repr

namespace RunResult

/-- How long the run took, in whole milliseconds. -/
def durationMs (r : RunResult) : Nat := r.duration.wholeMs

/-- Whether the run was ended because its time was up. -/
def timedOut (r : RunResult) : Bool :=
  match r.termination with
  | .timedOut _ => true
  | _ => false

/-- Whether the run was started and waited for. -/
def launched (r : RunResult) : Bool :=
  match r.termination with
  | .launchFailed => false
  | _ => true

/-- Where the driver writes its output, relative to the workspace. -/
def expectedOutput? (r : RunResult) : Option Path :=
  r.plan.expectedOutput? (NamingRules.forPlatform r.platform)

/-- The document form. -/
def toData (r : RunResult) : Data :=
  .record [("plan", r.plan.toData), ("argv", .texts r.argv), ("exit_code", .int r.exitCode),
    ("stdout", .text r.stdout), ("stderr", .text r.stderr), ("workspace", .text r.workspace.text),
    ("duration_ms", .int r.duration.ms64), ("termination", r.termination.toData),
    ("platform", r.platform.toData)]

end RunResult

/-- What a report keeps of a run. -/
structure RunSummary where
  argv : List String
  exitCode : Int
  termination : Termination
  /-- How long it took, in milliseconds. -/
  durationMs : Nat
  deriving DecidableEq, Repr

namespace RunSummary

/-- The summary of a run. -/
def ofResult (r : RunResult) : RunSummary := ⟨r.argv, r.exitCode, r.termination, r.duration.ms64⟩

/-- The document form. -/
def toData (s : RunSummary) : Data :=
  .record [("argv", .texts s.argv), ("exit_code", .int s.exitCode),
    ("termination", s.termination.toData), ("duration_ms", .int s.durationMs)]

/-- A summary from its document form. -/
def ofData? (d : Data) : Option RunSummary := do
  let argv ← (← d.get? "argv").listOf? Data.text?
  let exitCode ← (← d.get? "exit_code").int32?
  let termination ← Termination.ofData? (← d.get? "termination")
  let durationMs ← (← d.get? "duration_ms").word64?
  return ⟨argv, exitCode, termination, durationMs⟩

end RunSummary

end Conformance
