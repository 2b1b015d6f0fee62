import Conformance.Host.Shell.Integer
import Conformance.Host.Shell.Machine

/-!
# Signals

* `signal?` : the signal of a number or a name;
* `killArguments` : the signal and the processes that arguments ask for;
* `Machine.afterSignal` : the state after a command was ended by a signal.
-/

namespace Conformance.Shell

/-- The numbers of signals by name. -/
def signalNames : List (String × Nat) :=
  [("HUP", 1), ("INT", 2), ("QUIT", 3), ("ILL", 4), ("TRAP", 5), ("ABRT", 6), ("BUS", 7),
    ("FPE", 8), ("KILL", 9), ("USR1", 10), ("SEGV", 11), ("USR2", 12), ("PIPE", 13), ("ALRM", 14),
    ("TERM", 15), ("STKFLT", 16), ("CHLD", 17), ("CONT", 18), ("STOP", 19), ("TSTP", 20),
    ("TTIN", 21), ("TTOU", 22), ("URG", 23), ("XCPU", 24), ("XFSZ", 25), ("VTALRM", 26),
    ("PROF", 27), ("WINCH", 28), ("POLL", 29), ("PWR", 30), ("SYS", 31)]

/-- The number of a signal, given by number or name, in small or capital letters. -/
def signal? (s : String) : Option Nat :=
  match s.toNat? with
  | some n => if n < 65 then some n else none
  | none => signalNames.lookup s.toUpper

/-- Signals that a process goes on after. -/
def harmlessSignals : List Nat := [0, 17, 18, 23, 28]

/-- Signals that a process stops at; it does not go on by itself. -/
def stopSignals : List Nat := [19, 20, 21, 22]

/-- How `kill` is used. -/
def killUsage : String :=
  "Usage: kill [-s sigspec | -signum | -sigspec] [pid | job]... or\nkill -l [exitstatus]"

/-- The numbers of processes. -/
def killTargets (targets : List String) : Except String (List Int) :=
  if targets.isEmpty then .error killUsage
  else targets.mapM fun t =>
    match integer? t with
    | some n => .ok n
    | none => .error s!"Illegal number: {t}"

/-- The signal and the processes that the arguments of `kill` ask for. -/
def killArguments (args : List String) : Except String (Nat × List Int) :=
  match args with
  | ["-s"] => .error "No arg for -s option"
  | "-s" :: name :: targets =>
    match signal? name with
    | some n => (killTargets targets).map fun ts => (n, ts)
    | none => .error s!"invalid signal number or name: {name}"
  | arg :: targets =>
    match arg.toList with
    | '-' :: c :: cs =>
      match signal? (String.ofList (c :: cs)) with
      | some n => (killTargets targets).map fun ts => (n, ts)
      | none => .error s!"Illegal option -{c}"
    | _ => (killTargets args).map fun ts => (15, ts)
  | [] => .error killUsage

/-- What is written when a command was ended by a signal. -/
def signalText : Nat → Option String
  | 1 => some "Hangup"
  | 3 => some "Quit"
  | 4 => some "Illegal instruction"
  | 5 => some "Trace/breakpoint trap"
  | 6 => some "Aborted"
  | 7 => some "Bus error"
  | 8 => some "Floating point exception"
  | 9 => some "Killed"
  | 10 => some "User defined signal 1"
  | 11 => some "Segmentation fault"
  | 12 => some "User defined signal 2"
  | 14 => some "Alarm clock"
  | 15 => some "Terminated"
  | 16 => some "Stack fault"
  | 24 => some "CPU time limit exceeded"
  | 25 => some "File size limit exceeded"
  | 26 => some "Virtual timer expired"
  | 27 => some "Profiling timer expired"
  | 29 => some "I/O possible"
  | 30 => some "Power failure"
  | 31 => some "Bad system call"
  | _ => none

/-- The state after a command was ended by a signal. -/
def Machine.afterSignal (m : Machine) (signal : Nat) : Machine :=
  let m := m.setStatus (128 + signal)
  match signalText signal with
  | some text => m.complain text
  | none => m

end Conformance.Shell
