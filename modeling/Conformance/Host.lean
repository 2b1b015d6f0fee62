import Conformance.Environment
import Conformance.FileStore

/-!
# A host in memory

* `Host` : files, and how many fresh names were given out;
* `Setting` : the directory and the variables of a process;
* `Subject` : what starting a command does;
* `Host.environment` : the environment that a host gives to the harness.
-/

namespace Conformance

/-- A computer in memory. -/
structure Host where
  files : FileStore
  /-- How many fresh names were given out. -/
  fresh : Nat := 0
  deriving DecidableEq, Repr

/-- The directory and the variables of a process. -/
structure Setting where
  directory : Location
  /-- The variables. Of two of one name the first counts. -/
  bindings : List (String × String)
  deriving DecidableEq, Repr

/-- What starting a command from a setting does. -/
abbrev Subject := Setting → Command → Action Host (Process Host)

/-- A location as an absolute path. -/
def Location.toPath (loc : Location) : Path := ⟨"/" ++ String.intercalate "/" loc⟩

/-- A cause that names the path at which the operating system refused. -/
def Cause.at (c : Cause) (p : Path) : Cause :=
  match c with
  | .os e => .osAt e p
  | c => c

namespace Host

/-- Changes the files of a host. -/
def change (f : FileStore → Except Cause FileStore) : Action Host Unit := fun host =>
  match f host.files with
  | .ok files => (.ok (), { host with files })
  | .error e => (.error e, host)

/-! ## Fresh names -/

/-- The characters of a fresh ending. -/
def freshChars : List Char :=
  "ABCDEFGHIJKLMNOPQRSTUVWXYZabcdefghijklmnopqrstuvwxyz0123456789".toList

/-- How many characters a fresh ending has. -/
def freshLength : Nat := 6

/-- The last `length` digits of a number, written with the characters of fresh endings. -/
def freshDigits : Nat → Nat → List Char
  | 0, _ => []
  | length + 1, n =>
    let base := freshChars.length
    freshDigits length (n / base) ++ [freshChars.getD (n % base) 'A']

/-- The ending of a number. -/
def freshEnding (n : Nat) : String := String.ofList (freshDigits freshLength n)

/-- Makes a directory whose name no entry has yet. Endings are tried in order, at most `tries` of
them. -/
def makeFreshFrom (cwd : Location) (base : Path) (start : String) : Nat → Action Host Path
  | 0, host => (.error ((Cause.os .alreadyExists).at base), host)
  | tries + 1, host =>
    let path := base.join ⟨start ++ freshEnding host.fresh⟩
    let host := { host with fresh := host.fresh + 1 }
    match host.files.makeDirectory cwd path with
    | .ok files => (.ok path, { host with files })
    | .error (.os .alreadyExists) => makeFreshFrom cwd base start tries host
    | .error e => (.error (e.at path), host)

/-- Makes a directory with a fresh name in another one. -/
def makeFresh (setting : Setting) (parent : Path) (start : String) : Action Host Path := fun host =>
  let base := setting.directory.toPath.join parent
  makeFreshFrom setting.directory base start (host.files.entries.length + 1) host

/-! ## The environment -/

/-- The environment that a host gives to a harness in a setting. -/
def environment (setting : Setting) (subject : Subject) : Environment Host where
  workingDirectory := setting.directory.toPath
  searchPath := setting.bindings.lookup "PATH"
  view := fun host => host.files.view setting.directory
  makeDirectories := fun p => change fun files => files.makeDirectories setting.directory p
  makeFresh := makeFresh setting
  copyFile := fun source target => change fun files => files.copy setting.directory source target
  removeTree := fun p => change fun files =>
    (files.removeTree setting.directory p).mapError fun e => e.at p
  spawn := subject setting
  refusedAfter := fun _ => .zero

end Host

end Conformance
