import Conformance.Duration
import Conformance.FileView

/-!
# The environment of the harness

What the harness asks of the system that it runs on, whose state is of type `σ`. Nothing is said
about how the system answers.

* `Action` : an operation that may fail;
* `Command` : what is started, and how;
* `Process` : a started process, as far as it can be observed;
* `Environment` : the operations.
-/

namespace Conformance

/-- An operation that changes the state of a system and may fail. -/
abbrev Action (σ : Type) := ExceptT Cause (StateM σ)

/-- Runs an action whose failure is of no interest. -/
def Action.attempt {σ : Type} (a : Action σ Unit) : StateM σ Unit := do
  let _ ← a.run

/-- What is started, and how. Its standard input is empty, its output is captured, and it leads a
group of processes of its own. -/
structure Command where
  program : Path
  args : List String
  /-- The directory that it is started in. -/
  directory : Path
  /-- Variables that it gets besides those of the harness. -/
  bindings : List (String × String)
  deriving DecidableEq, Repr

/-- How a process ended that was waited for. -/
inductive ExitStatus where
  /-- By itself, with an exit code. -/
  | code (c : Int)
  /-- By a signal. -/
  | signal (s : Int)
  deriving DecidableEq, Repr

/-- What came of waiting for a process. -/
inductive Waited where
  /-- The process ended. -/
  | ended (status : ExitStatus)
  /-- Its time was up after a while, and it is killed. -/
  | timedOut (elapsed : Duration)
  deriving DecidableEq, Repr

/-- What is left of a process whose group was killed. -/
structure Captured where
  /-- What was written to standard output. -/
  stdout : Bytes
  /-- What was written to standard error. -/
  stderr : Bytes
  /-- How long the process ran, until its output was collected. -/
  duration : Duration
  deriving DecidableEq, Repr

/-- A started process, as far as it can be observed. -/
structure Process (σ : Type) where
  /-- How it ends, if it is waited for without a limit. -/
  wait : Except Cause ExitStatus
  /-- What the poll of the given number answers. -/
  poll : Nat → Except Cause (Option ExitStatus)
  /-- How much time has passed at the poll of the given number. -/
  elapsed : Nat → Duration
  /-- Kills what is left of the group, and collects the output. -/
  settle : Except Cause Waited → StateM σ Captured

/-- The operations of a system. -/
structure Environment (σ : Type) where
  /-- The working directory of the harness. -/
  workingDirectory : Path
  /-- The directories in which programs are searched for, if any are set. -/
  searchPath : Option String
  /-- What stands at each path. -/
  view : σ → FileView
  /-- Makes a directory and all its missing parents. -/
  makeDirectories : Path → Action σ Unit
  /-- Makes a new directory in another one, with a name that starts as given; its path is
  absolute. -/
  makeFresh : Path → String → Action σ Path
  /-- Copies a regular file. -/
  copyFile : Path → Path → Action σ Unit
  /-- Removes a directory and all below it. -/
  removeTree : Path → Action σ Unit
  /-- Starts a process. -/
  spawn : Command → Action σ (Process σ)
  /-- How long it has taken to refuse the process that was to be started last. -/
  refusedAfter : σ → Duration

end Conformance
