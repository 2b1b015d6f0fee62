import Conformance.Host.Program
import Conformance.Host.Shell.Commands

/-!
# Control of a shell

* `Machine.located`, `sleepTime?` : where a program is, and how long it is asked to wait;
* `Machine.capture`, `Machine.direct`, `Machine.restore` : streams and frames;
* `Machine.testing`, `Machine.inLoop`, `Machine.onward` : what a failure leads to.
-/

namespace Conformance.Shell

/-! ## Programs -/

/-- The path of a command that is a file: its name, if that is a path, or else the first file of
that name in the directories in which programs are searched for. -/
def Machine.located (m : Machine) (name : String) : Except OsError String :=
  if name.contains '/' then .ok name
  else
    let dirs := splitOnChar ':' ((m.get? "PATH").getD "").toList
    let paths := dirs.map fun cs => if cs.isEmpty then name else String.ofList cs ++ "/" ++ name
    match paths.find? fun path => (Host.startable m.files m.frame.directory path).toBool with
    | some path => .ok path
    | none => .error .notFound

/-- The text of a script that is run by the shell itself. A bare name is searched for. -/
def Machine.sourced (m : Machine) (file : String) : Except String String :=
  let read := fun (path : String) => m.readFile (Host.pathOf path) none
  if file.contains '/' then (read file).mapError fun _ => s!"cannot open {file}: No such file"
  else
    let dirs := splitOnChar ':' ((m.get? "PATH").getD "").toList
    let paths := dirs.map fun cs => if cs.isEmpty then file else String.ofList cs ++ "/" ++ file
    match paths.findSome? fun path => (read path).toOption with
    | some text => .ok text
    | none => .error s!"{file}: not found"

/-- How long `sleep` takes, in microseconds. -/
def sleepTime? (s : String) : Option Nat :=
  let (unit, cs) := match s.toList.reverse with
    | 's' :: cs => (1, cs.reverse)
    | 'm' :: cs => (60, cs.reverse)
    | 'h' :: cs => (3600, cs.reverse)
    | _ => (1, s.toList)
  let whole := cs.takeWhile Char.isDigit
  let fraction := match cs.drop whole.length with
    | '.' :: rest => some rest
    | [] => some []
    | _ => none
  match fraction with
  | some digits =>
    if digits.all Char.isDigit && !(whole.isEmpty && digits.isEmpty) then
      let micros := Nat.ofDigitChars 10 ((digits ++ List.replicate 6 '0').take 6) 0
      some ((Nat.ofDigitChars 10 whole 0 * 1000000 + micros) * unit)
    else none
  | none => none

/-! ## Streams and frames -/

/-- The state with a frame of its own taken back. -/
def Machine.restore (m : Machine) (frame : Frame) : Machine :=
  { m with frame := { frame with status := m.frame.status } }

/-- The state with a new buffer for standard output, and the number of the buffer. -/
def Machine.capture (m : Machine) : Machine × Nat :=
  let n := m.buffers.size
  let streams := (1, Target.buffer n) :: m.frame.streams.filter fun e => e.1 ≠ 1
  ({ m with buffers := m.buffers.push "", frame := { m.frame with streams } }, n)

/-- The state with a stream that goes somewhere else. -/
def Machine.direct (m : Machine) (stream : Nat) (t : Target) : Machine :=
  let streams := (stream, t) :: m.frame.streams.filter fun e => e.1 ≠ stream
  { m with frame := { m.frame with streams } }

/-- The state with a stream that goes nowhere and cannot be written to. -/
def Machine.close (m : Machine) (stream : Nat) : Machine :=
  { m with frame := { m.frame with streams := m.frame.streams.filter fun e => e.1 ≠ stream } }

/-- Variables that a shell sets when it is started. -/
def shellVariables : List (String × String) :=
  [("IFS", " \t\n"), ("PS1", "# "), ("PS2", "> "), ("PS4", "+ "), ("OPTIND", "1"),
    ("PPID", toString (firstNumber - 1))]

/-! ## The flow -/

/-- What remains of the flow of a subshell for the shell around it. -/
def Flow.outside : Flow → Flow
  | .killed shell signal => .killed shell signal
  | .late => .late
  | _ => .next

/-- A command that may fail: the state before it. -/
def Machine.testing (m : Machine) : Machine := { m with frame := { m.frame with tested := true } }

/-- The state after a command that might fail, where the state before it was another. -/
def Machine.testedAs (m before : Machine) : Machine :=
  { m with frame := { m.frame with tested := before.frame.tested } }

/-- The line that tells what a command is about to do. -/
def Machine.trace (m : Machine) (streams : List (Nat × Target)) (words : List String) : Machine :=
  if m.has 'x' then
    let own := m.frame.streams
    let m := { m with frame := { m.frame with streams } }
    let m := m.complain ((m.get? "PS4").getD "" ++ String.intercalate " " words)
    { m with frame := { m.frame with streams := own } }
  else m

/-- The state inside one more loop. -/
def Machine.inLoop (m : Machine) : Machine :=
  { m with frame := { m.frame with loops := m.frame.loops + 1 } }

/-- The state after a loop, where the state before it was another. -/
def Machine.loopsAs (m before : Machine) : Machine :=
  { m with frame := { m.frame with loops := before.frame.loops } }

/-- The flow after a command that has ended: a strict shell ends if it failed. -/
def Machine.onward (m : Machine) : Flow × Machine :=
  (if m.has 'e' && !m.frame.tested && m.frame.status ≠ 0 then .exit else .next, m)

end Conformance.Shell
