import Conformance.FileView
import Conformance.Scenario.Reader

/-!
# Finding scenario files

* `isScenarioPath` : whether a path has the extension of a scenario file;
* `discover` : the scenario files below a directory, in the order of paths;
* `Scenario.load`, `loadAll` : the scenarios of a file, and of several directories.
-/

namespace Conformance

/-- The extensions of scenario files. -/
def scenarioExtensions : List String := ["yaml", "yml"]

/-- Whether a path has the extension of a scenario file. -/
def isScenarioPath (p : Path) : Bool :=
  match p.extension? with
  | some ext => scenarioExtensions.contains ext
  | none => false

/-- The path of an entry, given by the names that lead there from a directory. -/
def Path.below (root : Path) (names : List String) : Path :=
  root.join ⟨String.intercalate "/" names⟩

/-- The paths of the entries at or below a location that fulfil a condition, in the order of
paths; `root` is the path of the location. -/
def FileStore.pathsWhere (store : FileStore) (root : Path) (loc : Location)
    (cond : Path → Entry → Bool) : List Path :=
  let here := (store.entry? loc).toList.map fun e => (root, e)
  let below := (store.entriesBelow loc).map fun e => (root.below e.1, e.2)
  (((here ++ below).filter fun e => cond e.1 e.2).map Prod.fst).mergeSort Path.le

/-- Whether an entry is a regular file with the path of a scenario file. -/
def isScenarioEntry (p : Path) : Entry → Bool
  | .file _ _ => isScenarioPath p
  | _ => false

/-- Whether an entry is a directory whose names cannot be read at a path. -/
def isClosedEntry (p : Path) : Entry → Bool
  | .directory readable => !readable || p.text.utf8ByteSize > FileStore.pathLimit
  | _ => false

/-- Why the names of such a directory cannot be read. -/
def closedCause (p : Path) : Cause :=
  .walk (.os (if p.text.utf8ByteSize > FileStore.pathLimit then .nameTooLong else .permissionDenied)) p

/-- The scenario files below a path, in the order of paths; the path of a file stands for itself.
Links below the path are not followed. -/
def discover (store : FileStore) (cwd : Location) (root : Path) :
    Except HarnessError (List Path) :=
  if (store.view cwd).isFile root then .ok [root]
  else
    match store.resolve cwd true root with
    | .error e => .error (.discovery root (.walk e root))
    | .ok loc =>
      match store.pathsWhere root loc isClosedEntry with
      | closed :: _ => .error (.discovery root (closedCause closed))
      | [] =>
        match store.pathsWhere root loc isScenarioEntry with
        | [] => .error (.noScenarios root)
        | found => .ok found

/-- The scenario of a file. -/
def Scenario.load (view : FileView) (path : Path) : Except HarnessError Scenario :=
  match view.readText path with
  | .error e => .error (.scenarioRead path e)
  | .ok text => Scenario.parse path text

/-- The scenarios below several paths, in order. The first error ends the search. -/
def loadAll (store : FileStore) (cwd : Location) (roots : List Path) :
    Except HarnessError (List Scenario) := do
  let found ← roots.mapM fun root => do
    (← discover store cwd root).mapM (Scenario.load (store.view cwd))
  return found.flatten

end Conformance
