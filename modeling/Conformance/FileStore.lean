import Conformance.Cause
import Conformance.Text.Utf8

/-!
# Files and directories

A file store says what stands at which location; a location is the list of names from the root.

* `Entry` : a regular file, a directory, a symbolic link or a device;
* `FileStore.entry?`, `FileStore.put`, `FileStore.erase` : the entry at a location;
* `FileStore.namesBelow`, `FileStore.entriesBelow` : what a directory holds;
* `FileStore.resolve` : the location that a path leads to, through links;
* `FileStore.find` : the file or directory at a path;
* `FileStore.read`, `FileStore.write`, `FileStore.copy` : contents of regular files;
* `FileStore.makeDirectory`, `FileStore.makeDirectories`, `FileStore.removeTree` : directories.
-/

namespace Conformance

/-- The names from the root down to an entry. -/
abbrev Location := List String

/-- What stands at a location. -/
inductive Entry where
  /-- A regular file, and whether it may be executed. -/
  | file (content : Bytes) (executable : Bool)
  /-- A directory, and whether its names can be read. -/
  | directory (readable : Bool)
  /-- A symbolic link. -/
  | link (target : Path)
  /-- A device that has nothing to read and loses what is written to it. -/
  | device
  deriving DecidableEq, Repr

/-- A store of files: an entry for each location below the root that has one. -/
structure FileStore where
  /-- The entries, each location once. -/
  entries : List (Location × Entry)
  deriving DecidableEq, Repr

namespace FileStore

/-- A store with nothing but the root. -/
def empty : FileStore := ⟨[]⟩

/-- What stands at a location; the root is a directory. -/
def entry? (store : FileStore) (loc : Location) : Option Entry :=
  if loc.isEmpty then some (.directory true)
  else (store.entries.find? fun e => e.1 = loc).map (·.2)

/-- The store without the entry at a location. -/
def erase (store : FileStore) (loc : Location) : FileStore :=
  ⟨store.entries.filter fun e => e.1 ≠ loc⟩

/-- The store with an entry put at a location. -/
def put (store : FileStore) (loc : Location) (entry : Entry) : FileStore :=
  ⟨(loc, entry) :: (store.erase loc).entries⟩

/-- The store without a location and all below it. -/
def eraseTree (store : FileStore) (loc : Location) : FileStore :=
  ⟨store.entries.filter fun e => !loc.isPrefixOf e.1⟩

/-- Whether a directory stands at a location. -/
def isDirectoryAt (store : FileStore) (loc : Location) : Bool :=
  match store.entry? loc with
  | some (.directory _) => true
  | _ => false

/-- The names directly below a location. -/
def namesBelow (store : FileStore) (loc : Location) : List String :=
  store.entries.filterMap fun e =>
    if e.1.dropLast = loc then e.1.getLast? else none

/-- The entries below a location, each with the names that lead there from the location. -/
def entriesBelow (store : FileStore) (loc : Location) : List (List String × Entry) :=
  store.entries.filterMap fun e =>
    if loc.isPrefixOf e.1 && e.1.length > loc.length then some (e.1.drop loc.length, e.2) else none

/-! ## From paths to locations -/

/-- The longest name that a directory holds, in bytes. -/
def nameLimit : Nat := 255

/-- The longest path that the operating system takes, in bytes. -/
def pathLimit : Nat := 4095

/-- How many links are followed on the way. -/
def linkLimit : Nat := 40

/-- The steps that a path asks for: names, `.` and `..`; a separator at the end asks for a
directory, which a `.` does as well. -/
def steps (p : Path) : List String :=
  let segs := p.segments
  segs.filter (· ≠ "") ++ if segs.getLast? = some "" then ["."] else []

/-- Takes steps from a location. Links on the way are followed, at most `budget` of them; a link
at the end is followed if `follow` says so. -/
def walk (store : FileStore) (follow : Bool) (budget : Nat) (here : Location)
    (todo : List String) : Except OsError Location :=
  match todo with
  | [] => .ok here
  | step :: rest =>
    if !store.isDirectoryAt here then
      .error (if (store.entry? here).isSome then .notDirectory else .notFound)
    else if step = "." then store.walk follow budget here rest
    else if step = ".." then store.walk follow budget here.dropLast rest
    else if step.utf8ByteSize > nameLimit then .error .nameTooLong
    else
      let there := here ++ [step]
      match store.entry? there with
      | none => .error .notFound
      | some (.link target) =>
        if rest.isEmpty && !follow then .ok there
        else
          match budget with
          | 0 => .error .tooManyLinks
          | budget + 1 =>
            let start := if target.isAbsolute then [] else here
            store.walk follow budget start (steps target ++ rest)
      | some _ => store.walk follow budget there rest
  termination_by (budget, todo.length)

/-- The location that a path leads to from the directory at `cwd`. -/
def resolve (store : FileStore) (cwd : Location) (follow : Bool) (p : Path) :
    Except Cause Location :=
  if p.text.toList.contains '\x00' then .error .nulInPath
  else if p.text.isEmpty then .error (.os .notFound)
  else if p.text.utf8ByteSize > pathLimit then .error (.os .nameTooLong)
  else (store.walk follow linkLimit (if p.isAbsolute then [] else cwd) (steps p)).mapError .os

/-- The directory that would hold the last name of a path, and that name. Paths that end in `.`
or `..` have none. -/
def resolveParent (store : FileStore) (cwd : Location) (p : Path) :
    Except Cause (Location × String) :=
  if p.text.toList.contains '\x00' then .error .nulInPath
  else if p.text.isEmpty then .error (.os .notFound)
  else if p.text.utf8ByteSize > pathLimit then .error (.os .nameTooLong)
  else
    let names := p.segments.filter (· ≠ "")
    match names.getLast? with
    | none => .error (.os .alreadyExists)
    | some last =>
      match store.walk true linkLimit (if p.isAbsolute then [] else cwd) names.dropLast with
      | .error e => .error (.os e)
      | .ok dir =>
        if !store.isDirectoryAt dir then
          .error (.os (if (store.entry? dir).isSome then .notDirectory else .notFound))
        else if last = "." ∨ last = ".." then .error (.os .alreadyExists)
        else if last.utf8ByteSize > nameLimit then .error (.os .nameTooLong)
        else .ok (dir, last)

/-! ## Reading -/

/-- The file or directory at a path. -/
def find (store : FileStore) (cwd : Location) (p : Path) : Except Cause Entry := do
  let loc ← store.resolve cwd true p
  match store.entry? loc with
  | some entry => .ok entry
  | none => .error (.os .notFound)

/-- What can be read at a path. -/
def read (store : FileStore) (cwd : Location) (p : Path) : Except Cause Bytes := do
  match ← store.find cwd p with
  | .file content _ => .ok content
  | .device => .ok []
  | _ => .error (.os .isDirectory)

/-! ## Writing -/

/-- Puts a regular file where writing to a path leads: at the path itself, or where links lead
from there, even if nothing stands there yet. -/
def putFile (store : FileStore) (content : Bytes) (executable : Bool) :
    Nat → Location → Path → Except Cause FileStore
  | 0, _, _ => .error (.os .tooManyLinks)
  | budget + 1, cwd, p =>
    match store.resolve cwd true p with
    | .ok loc =>
      match store.entry? loc with
      | some (.file _ _) => .ok (store.put loc (.file content executable))
      | some .device => .ok store
      | _ => .error (.os .isDirectory)
    | .error (.os .notFound) => do
      let (dir, last) ← store.resolveParent cwd p
      match store.entry? (dir ++ [last]) with
      | some (.link target) => store.putFile content executable budget dir target
      | _ =>
        if p.text.toList.getLast? == some '/' then .error (.os .isDirectory)
        else .ok (store.put (dir ++ [last]) (.file content executable))
    | .error e => .error e

/-- The store with a regular file written at a path. -/
def write (store : FileStore) (cwd : Location) (p : Path) (content : Bytes) (executable : Bool) :
    Except Cause FileStore :=
  store.putFile content executable linkLimit cwd p

/-- The store with the regular file at `source` copied to `target`, permissions included. -/
def copy (store : FileStore) (cwd : Location) (source target : Path) : Except Cause FileStore := do
  match ← store.find cwd source with
  | .file content executable => store.write cwd target content executable
  | _ => .error .notRegular

/-- The store with a directory made at a path. -/
def makeDirectory (store : FileStore) (cwd : Location) (p : Path) : Except Cause FileStore := do
  let (dir, last) ← store.resolveParent cwd p
  let loc := dir ++ [last]
  match store.entry? loc with
  | some _ => .error (.os .alreadyExists)
  | none => .ok (store.put loc (.directory true))

/-- Whether a directory stands at a path. -/
def isDirectory (store : FileStore) (cwd : Location) (p : Path) : Bool :=
  match store.find cwd p with
  | .ok (.directory _) => true
  | _ => false

/-- Makes the directory at a path, and before it at most `depth` missing parents. -/
def makeUpTo (store : FileStore) (cwd : Location) : Nat → Path → Except Cause FileStore
  | depth, p =>
    if p.text.isEmpty then .ok store
    else
      match store.makeDirectory cwd p with
      | .ok store => .ok store
      | .error e =>
        if store.isDirectory cwd p then .ok store
        else if e ≠ .os .notFound then .error e
        else
          match depth, p.parent? with
          | depth + 1, some parent =>
            match store.makeUpTo cwd depth parent with
            | .error e => .error e
            | .ok store =>
              match store.makeDirectory cwd p with
              | .ok store => .ok store
              | .error e => if store.isDirectory cwd p then .ok store else .error e
          | _, _ => .error e

/-- The store with a directory at a path and all its missing parents. -/
def makeDirectories (store : FileStore) (cwd : Location) (p : Path) : Except Cause FileStore :=
  store.makeUpTo cwd p.components.length p

/-- The store without the directory at a path and all below it; a link is removed itself. -/
def removeTree (store : FileStore) (cwd : Location) (p : Path) : Except Cause FileStore := do
  let loc ← store.resolve cwd false p
  match store.entry? loc with
  | some (.file _ _) => .error (.os .notDirectory)
  | some .device => .error (.os .notDirectory)
  | _ => .ok (store.eraseTree loc)

end FileStore

end Conformance
