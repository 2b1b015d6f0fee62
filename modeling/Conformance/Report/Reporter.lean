import Conformance.Report.Console
import Conformance.Report.Document

/-!
# Reporters

* `Rendered` : what a reporter writes, and the exit status that it returns;
* `renderConsole`, `renderJson` : the reporters.
-/

namespace Conformance

open Styled

/-- What a reporter writes, and the exit status that it returns. -/
structure Rendered where
  output : List Piece
  exitStatus : Nat

/-- Lines for a reader. -/
def renderConsole (suites : List SuiteReport) : Rendered := ⟨consoleReport suites, exitStatus suites⟩

/-- A document, whose verdict is told by the exit status. -/
def renderJson (suites : List SuiteReport) : Rendered :=
  ⟨[.text (jsonReport suites)], exitStatus suites⟩

end Conformance
