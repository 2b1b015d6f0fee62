import Conformance.Host.Octets
import Conformance.Host.Shell.Script

/-!
# The state of a shell

* `Target` : where a stream goes to;
* `Frame` : what a shell has of its own; a subshell has a copy;
* `Machine` : the frame and all that is shared;
* `Machine.emit`, `Machine.readFile`, `Machine.writeFile` : output and files.
-/

namespace Conformance.Shell

open Host

/-- Where a stream goes to. -/
inductive Target where
  /-- Into a buffer. -/
  | buffer (n : Nat)
  /-- To the end of a file. -/
  | file (loc : Location)
  /-- Nowhere. -/
  | nothing
  deriving DecidableEq, Repr

/-- A variable. -/
structure Variable where
  name : String
  value : String
  /-- Whether commands get it. -/
  exported : Bool

/-- What a shell has of its own. -/
structure Frame where
  name : String
  arguments : List String
  directory : Location
  /-- The variables, each name once. -/
  bindings : List Variable
  /-- The status of the last command. -/
  status : Nat := 0
  /-- Where each stream goes to. -/
  streams : List (Nat × Target)
  /-- What is left of the input. -/
  input : String := ""
  /-- The line of the command that runs. -/
  line : Nat := 1
  /-- Its number as a process; a subshell has the number of the shell around it. -/
  number : Nat
  /-- The number of the last job. -/
  lastJob : Option Nat := none
  /-- Commands that were defined. -/
  functions : List (String × Script) := []
  /-- What is done on a signal; zero stands for the end of the shell. -/
  traps : List (Nat × String) := []
  /-- The options that are set, by letter. -/
  options : List Char := []
  /-- Variables that cannot be set any more. -/
  fixed : List String := []
  /-- In a command that was defined: the variables, as they were, that it sets for itself. -/
  saved : Option (List (String × Option Variable)) := none
  /-- The permissions that new files do not get. -/
  mask : Nat := 18
  /-- How much of an argument was read as options. -/
  optionOffset : Option Nat := none
  /-- The status of the last script whose output was taken. -/
  substituted : Nat := 0
  /-- Whether the command is one that may fail. -/
  tested : Bool := false
  /-- How many loops the command is in. -/
  loops : Nat := 0

/-- A script that was started without waiting for it. -/
structure Job where
  /-- Its number as a process. -/
  number : Nat
  /-- When it was started, in microseconds. -/
  start : Nat
  /-- What it runs. -/
  body : Script
  /-- The shell that it was started from. -/
  frame : Frame

/-- The state of a shell. -/
structure Machine where
  files : FileStore
  /-- What was written to each buffer. -/
  buffers : Array String
  /-- How much time has passed, in microseconds. -/
  clock : Nat := 0
  /-- When everything is killed. -/
  deadline : Option Nat := none
  /-- How many processes were started. -/
  started : Nat := 0
  /-- The jobs that nobody has waited for, in order. -/
  jobs : List Job := []
  /-- The status of each job that has ended. -/
  ended : List (Nat × Nat) := []
  /-- Jobs that were ended by a signal, as long as nobody has waited for them. -/
  struck : List (Nat × Nat) := []
  /-- What the shell has of its own. -/
  frame : Frame

/-- How a command went on. -/
inductive Flow where
  /-- To the next one. -/
  | next
  /-- Out of some loops. -/
  | leave (loops : Nat)
  /-- To the next round of a loop, out of the loops inside of it. -/
  | again (loops : Nat)
  /-- To the end of a command that was defined. -/
  | back
  /-- To the end of the shell. -/
  | exit
  /-- The shell of a number was ended by a signal. -/
  | killed (shell signal : Nat)
  /-- The time was up. -/
  | late
  deriving DecidableEq, Repr

/-- The number of the first process. -/
def firstNumber : Nat := 4000

namespace Machine

/-- The number of the next process. -/
def nextNumber (m : Machine) : Nat := firstNumber + m.started + 1

/-- Adds to the end of the file at a location. -/
def append (m : Machine) (loc : Location) (s : String) : Machine :=
  match m.files.entry? loc with
  | some (.file content executable) =>
    { m with files := m.files.put loc (.file (content ++ octets s) executable) }
  | _ => m

/-- Writes to a stream. -/
def emit (m : Machine) (stream : Nat) (s : String) : Machine :=
  match m.frame.streams.lookup stream with
  | some (.buffer n) => { m with buffers := m.buffers.modify n (· ++ s) }
  | some (.file loc) => m.append loc s
  | _ => m

/-- Writes to standard output. -/
def say (m : Machine) (s : String) : Machine := m.emit 1 s

/-- Writes a line to standard error. -/
def complain (m : Machine) (s : String) : Machine := m.emit 2 (s ++ "\n")

/-- Writes a line to standard error that names the script and the line of the command. -/
def complainHere (m : Machine) (s : String) : Machine :=
  m.complain s!"{m.frame.name}: {m.frame.line}: {s}"

/-- Lets time pass. It is an end if the time is up. -/
def pass (m : Machine) (us : Nat) : Flow × Machine :=
  let clock := m.clock + us
  match m.deadline with
  | some d => if d ≤ clock then (.late, { m with clock := d }) else (.next, { m with clock })
  | none => (.next, { m with clock })

/-- Sets the status of the last command. -/
def setStatus (m : Machine) (status : Nat) : Machine :=
  { m with frame := { m.frame with status } }

/-! ## Variables -/

/-- The value of a variable. -/
def get? (m : Machine) (name : String) : Option String :=
  (m.frame.bindings.find? fun v => v.name = name).map Variable.value

/-- Whether an option is set. -/
def has (m : Machine) (option : Char) : Bool := m.frame.options.contains option

/-- Sets a variable. -/
def assign (m : Machine) (name value : String) : Machine :=
  let old := m.frame.bindings.find? fun v => v.name = name
  let bindings := m.frame.bindings.filter fun v => v.name ≠ name
  let v := ⟨name, value, (old.map Variable.exported).getD false⟩
  { m with frame := { m.frame with bindings := v :: bindings } }

/-- Removes a variable. -/
def unassign (m : Machine) (name : String) : Machine :=
  let bindings := m.frame.bindings.filter fun v => v.name ≠ name
  { m with frame := { m.frame with bindings } }

/-- Takes a variable back to what it was. -/
def takeBack (m : Machine) (name : String) (old : Option Variable) : Machine :=
  let m := m.unassign name
  { m with frame := { m.frame with bindings := old.toList ++ m.frame.bindings } }

/-- Gives a variable to commands. -/
def giveOut (m : Machine) (name : String) : Machine :=
  let m := if (m.get? name).isSome then m else m.assign name ""
  let bindings := m.frame.bindings.map fun v =>
    if v.name = name then { v with exported := true } else v
  { m with frame := { m.frame with bindings } }

/-! ## Files -/

/-- The working directory as a string of octets. -/
def currentPath (m : Machine) : String :=
  "/" ++ encoded (String.intercalate "/" m.frame.directory)

/-- The location of the device from which zeros are read without an end. -/
def zeroLocation : Location := ["dev", "zero"]

/-- The entry at a path. -/
def look (m : Machine) (p : Path) : Except Cause Entry := m.files.find m.frame.directory p

/-- The content of a file, of which at most `limit` octets are needed. -/
def readFile (m : Machine) (p : Path) (limit : Option Nat) : Except Cause String := do
  let loc ← m.files.resolve m.frame.directory true p
  if loc = zeroLocation then return String.ofList (List.replicate (limit.getD 0) '\x00')
  return ofOctets (← m.files.read m.frame.directory p)

/-- Files that stand for streams. -/
def streamFiles : List (String × Nat) :=
  [("/dev/stdout", 1), ("/dev/stderr", 2), ("/dev/fd/1", 1), ("/dev/fd/2", 2)]

/-- Opens a file for writing, with an empty content unless it is kept. -/
def openFile (m : Machine) (p : Path) (keep : Bool) : Except Cause (Machine × Target) := do
  match streamFiles.lookup p.text with
  | some stream => return (m, (m.frame.streams.lookup stream).getD .nothing)
  | none => pure ()
  let dir := m.frame.directory
  let (content, executable) :=
    match m.look p with
    | .ok (.file content executable) => (if keep then content else [], executable)
    | _ => ([], false)
  let files ← m.files.write dir p content executable
  let m := { m with files }
  return (m, .file (← m.files.resolve dir true p))

/-- Changes the files as an operation says; its cause is reported by `what`. -/
def changeFiles (m : Machine) (what : String) (f : FileStore → Except Cause FileStore) :
    Bool × Machine :=
  match f m.files with
  | .ok files => (true, { m with files })
  | .error (.os e) => (false, m.complain s!"{what}: {e.description}")
  | .error e => (false, m.complain s!"{what}: {e.message}")

end Machine

end Conformance.Shell
