import Conformance.Environment
import Conformance.HarnessError

/-!
# Workspaces

Every case runs in a fresh directory of its own, into which the fixtures are copied.

* `portableName` : a case name with nothing in it that a file name cannot hold;
* `Workspace.create`, `Workspace.copyFixtures`, `Workspace.close`, `Workspace.drop` : from the fresh
  directory to its removal.
-/

namespace Conformance

/-- Whether a character can stand in any file name. -/
def isPortable (c : Char) : Bool := c.isAlphanum || c = '-' || c = '_'

/-- A name with an underline for each character that cannot stand in any file name. -/
def portableName (name : String) : String :=
  if name.isEmpty then "case"
  else String.ofList (name.toList.map fun c => if isPortable c then c else '_')

/-- A fresh directory. -/
structure Workspace where
  path : Path
  deriving DecidableEq, Repr

namespace Workspace

variable {σ : Type}

/-- How the name of a workspace starts. -/
def nameStart (caseName : String) : String := portableName caseName ++ "_"

/-- Makes a fresh directory under `parent`, named after the case. -/
def create (env : Environment σ) (parent : Path) (caseName : String) :
    ExceptT HarnessError (StateM σ) Workspace :=
  ExceptT.adapt (HarnessError.workspace parent) do
    env.makeDirectories parent
    return ⟨← env.makeFresh parent (nameStart caseName)⟩

/-- Copies a fixture into the workspace under its file name; the result is the path of the copy. -/
def copyFixture (env : Environment σ) (ws : Workspace) (fixture : Path) : Action σ Path := do
  match fixture.fileName? with
  | none => throw (.noFileName fixture)
  | some name =>
    let target := ws.path.join ⟨name⟩
    env.copyFile fixture target
    return target

/-- Copies fixtures into the workspace, up to the first that cannot be copied. -/
def copyFixtures (env : Environment σ) (ws : Workspace) (fixtures : List Path) :
    ExceptT HarnessError (StateM σ) Unit :=
  ExceptT.adapt (HarnessError.workspace ws.path) do
    fixtures.forM fun f => do
      let _ ← ws.copyFixture env f

/-- Removes the workspace. -/
def close (env : Environment σ) (ws : Workspace) : Action σ Unit := env.removeTree ws.path

/-- Removes the workspace as far as possible. -/
def drop (env : Environment σ) (ws : Workspace) : StateM σ Unit := (env.removeTree ws.path).attempt

end Workspace

end Conformance
