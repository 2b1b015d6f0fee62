import Conformance.Host
import Conformance.Host.Shell.Run
import Conformance.Host.Standard
import Conformance.Runner

/-!
# Starting programs

How a host in memory starts a command: its program is found and loaded, and the shell tells the
course that it takes.

* `find` : the program of a command;
* `Program.course`, `Program.process` : what it does until it ends or is killed;
* `launch` : all together.

Names, arguments and variables of a loaded program are strings of octets.
-/

namespace Conformance.Host

open Shell

/-! ## Finding -/

/-- Where programs are searched for, if no variable says it. -/
def standardSearchPath : String := "/bin:/usr/bin"

/-- The program of a command: the file of a path, or a bare name that is searched for. -/
def find (files : FileStore) (cwd : Location) (bindings : List (String × String))
    (command : Command) : Except OsError Program :=
  let name := encoded command.program.text
  let args := command.args.map encoded
  if name.contains '/' then loadAs name files cwd false name args
  else if name.length > FileStore.nameLimit then .error .nameTooLong
  else
    let lenient := command.bindings.any fun v => v.1 = "PATH"
    let dirs := splitOnChar ':' ((bindings.lookup "PATH").getD standardSearchPath).toList
    search (fun path => loadAs name files cwd lenient path args) name .notFound
      (dirs.map fun cs => encoded (String.ofList cs))

/-! ## Running -/

/-- The variables of a process: its own, of one name the last, and those it inherits. -/
def inherited (setting : Setting) (own : List (String × String)) : List (String × String) :=
  own.foldl (fun vs v => v :: vs.filter fun w => w.1 ≠ v.1) setting.bindings

/-- The state that a program starts in. -/
def initial (files : FileStore) (cwd : Location) (bindings : List (String × String)) : Machine :=
  let given := bindings.filter fun v => isName v.1.toList
  { files
    buffers := #["", ""]
    frame :=
      { name := "sh"
        arguments := []
        directory := cwd
        bindings := given.map fun v => ⟨v.1, encoded v.2, true⟩
        streams := [(1, .buffer 0), (2, .buffer 1)]
        number := firstNumber } }

/-- Bounds the number of steps of a program. -/
def stepLimit : Nat := 200000

/-- What a program does until it ends, or until a deadline: how it ended, and the state after it.
What it started without waiting for it goes on until then. -/
def Program.course (p : Program) (m : Machine) (deadline : Option Nat) :
    Option ExitStatus × Machine :=
  match { m with deadline }.pass startTime with
  | (.next, m) =>
    let (flow, m) := runNative stepLimit p m
    let ended := match flow with
      | .late => none
      | .killed _ signal => some (.signal signal)
      | _ => some (.code m.frame.status)
    (ended, (runJobs stepLimit (some m.clock) m).2)
  | (_, m) => (none, m)

/-- A program in a state as a process. It can be seen to have ended once its time has passed. -/
def Program.process (p : Program) (m : Machine) : Process Host :=
  let (ended, after) := p.course m none
  let elapsed := pollInterval.times
  { wait := .ok (ended.getD (.code 0))
    poll := fun k => .ok (if .ofUs after.clock ≤ elapsed k then ended else none)
    elapsed
    settle := fun waited => do
      let m := match waited with
        | .ok (.timedOut time) => (p.course m (some time.wholeUs)).2
        | _ => after
      modify fun host => { host with files := m.files }
      return ⟨octets (m.buffers.getD 0 ""), octets (m.buffers.getD 1 ""), .ofUs m.clock⟩ }

/-- The directory that a process starts in. -/
def enter (files : FileStore) (cwd : Location) (p : Path) : Except Cause Location := do
  let loc ← files.resolve cwd true p
  if files.isDirectoryAt loc then return loc else throw (.os .notDirectory)

/-- Whether a part of a command holds a NUL character. -/
def hasNul (c : Command) : Bool :=
  let texts := [c.program.text, c.directory.text] ++ c.args ++
    c.bindings.flatMap fun v => [v.1, v.2]
  texts.any fun s => s.toList.contains '\x00'

/-- Starts a command. -/
def launch : Subject := fun setting command => do
  let host ← getThe Host
  if hasNul command then throw .nulInArgument
  let cwd ← ExceptT.mk (pure (enter host.files setting.directory command.directory))
  let bindings := inherited setting command.bindings
  let program ← ExceptT.mk (pure ((find host.files cwd bindings command).mapError Cause.os))
  return program.process (initial host.files cwd bindings)

end Conformance.Host
