import Conformance.Environment
import Conformance.Run

/-!
# Running a compiler

A compiler is started once, in a workspace, and observed until it ends or its time is up. There are
no errors: a compiler that cannot be started has a result of its own.

* `RunnerConfig` : which compiler, and how long it may take;
* `Process.await` : waiting with and without a limit;
* `execute` : the result of carrying out a plan.
-/

namespace Conformance

/-- The exit code of a run that could not be started. -/
def launchFailureCode : Int := 127

/-- The exit code of a run whose time was up. -/
def timeoutCode : Int := 124

/-- How much time passes at least between two polls of a process. -/
def pollInterval : Duration := .ofMs 5

/-- How to run a compiler. -/
structure RunnerConfig where
  executable : Path
  /-- How long a run may take; no limit, if absent. -/
  timeout : Option Duration := none
  /-- Variables that the compiler gets besides those of the harness. -/
  bindings : List (String × String) := []
  /-- The platform for native formats and output names. -/
  platform : Platform
  deriving DecidableEq, Repr

/-- The program that is started for an executable. A relative path of several components means the
working directory of the harness, not the one the program starts in; a bare name is searched for. -/
def launchPath (workingDirectory executable : Path) : Path :=
  if executable.isAbsolute || executable.components.length = 1 then executable
  else workingDirectory.join executable

namespace Process

variable {σ : Type}

/-- Polls a process from the poll of number `k` on, at most `more` further times. -/
def awaitWithin (p : Process σ) (limit : Duration) : Nat → Nat → Except Cause Waited
  | more, k =>
    match p.poll k with
    | .error e => .error e
    | .ok (some status) => .ok (.ended status)
    | .ok none =>
      match more with
      | 0 => .ok (.timedOut (p.elapsed k))
      | more + 1 =>
        if limit ≤ p.elapsed k then .ok (.timedOut (p.elapsed k))
        else p.awaitWithin limit more (k + 1)

/-- Waits for a process. With a limit it is polled; by the poll after the limit's number of
intervals the time is up in any case. -/
def await (p : Process σ) (limit : Option Duration) : Except Cause Waited :=
  match limit with
  | none => p.wait.map .ended
  | some limit => p.awaitWithin limit (limit.nanoseconds / pollInterval.nanoseconds + 1) 0

end Process

/-- The exit code and the termination of an ended process. -/
def ExitStatus.decode : ExitStatus → Int × Termination
  | .code c => (c, .exited c)
  | .signal s => (128 + s, .signaled s)

/-- A limit as a result tells it: its whole milliseconds, in sixty-four bits. -/
def reportedMs (limit : Option Duration) : Nat := (limit.map Duration.ms64).getD 0

/-- What a result says on standard error of a process that could not be waited for. -/
def waitFailureText (stderr : String) (program : Path) (e : Cause) : String :=
  let stderr :=
    if stderr.isEmpty || stderr.toList.getLast? == some '\n' then stderr else stderr ++ "\n"
  stderr ++ s!"failed to wait for {program.text}: {e.message}"

/-- The result of carrying out a plan in a workspace within a limit. -/
def execute {σ : Type} (env : Environment σ) (config : RunnerConfig) (plan : Plan)
    (workspace : Path) (limit : Option Duration) : StateM σ RunResult := do
  let program := launchPath env.workingDirectory config.executable
  let unstarted : RunResult :=
    { plan
      argv := config.executable.text :: plan.argv
      exitCode := launchFailureCode
      stdout := ""
      stderr := ""
      workspace
      duration := .zero
      termination := .launchFailed
      platform := config.platform }
  match ← (env.spawn ⟨program, plan.argv, workspace, config.bindings⟩).run with
  | .error e =>
    return { unstarted with
      stderr := s!"failed to launch {program.text}: {e.message}"
      duration := env.refusedAfter (← get) }
  | .ok process =>
    let waited := process.await limit
    let captured ← process.settle waited
    let observed :=
      { unstarted with
        stdout := captured.stdout.toText
        stderr := captured.stderr.toText
        duration := captured.duration }
    match waited with
    | .ok (.ended status) =>
      let (exitCode, termination) := status.decode
      return { observed with exitCode, termination }
    | .ok (.timedOut _) =>
      return { observed with
        exitCode := timeoutCode
        termination := .timedOut (reportedMs limit) }
    | .error e =>
      return { observed with stderr := waitFailureText observed.stderr program e }

end Conformance
