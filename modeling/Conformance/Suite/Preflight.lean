import Conformance.HarnessError
import Conformance.Environment
import Conformance.Suite

/-!
# Checks before a suite runs

* `executableAvailable` : whether the compiler is there;
* `Suite.preflight` : whether the compiler and all fixtures are there.
-/

namespace Conformance

/-- The directories of a search path. -/
def searchDirectories (searchPath : String) : List Path :=
  (splitOnChar ':' searchPath.toList).map fun cs => ⟨String.ofList cs⟩

/-- Whether the compiler is there. A bare name is searched for. -/
def executableAvailable (view : FileView) (searchPath : Option String) (executable : Path) : Bool :=
  if executable.components.length > 1 || executable.isAbsolute then view.isFile executable
  else
    match searchPath with
    | none => view.isFile executable
    | some dirs => (searchDirectories dirs).any fun dir => view.isFile (dir.join executable)

/-- Checks that the compiler and all fixtures are there. -/
def Suite.preflight (s : Suite) (view : FileView) (searchPath : Option String)
    (executable : Path) : Except HarnessError Unit :=
  if !executableAvailable view searchPath executable then .error (.missingExecutable executable)
  else
    match s.fixtures.find? fun f => !view.isFile f with
    | some f => .error (.missingFixture f)
    | none => .ok ()

end Conformance
