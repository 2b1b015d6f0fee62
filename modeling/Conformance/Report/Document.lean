import Conformance.Data.JsonText
import Conformance.Report

/-!
# Report documents

* `reportData` : all suites and the overall verdict as one document;
* `jsonReport` : the document as text, with a line end.
-/

namespace Conformance

/-- All suites and the overall verdict. -/
def reportData (suites : List SuiteReport) : Data :=
  .record [("passed", .bool (exitStatus suites = 0)),
    ("suites", .list (suites.map SuiteReport.toData))]

/-- The report document as text. -/
def jsonReport (suites : List SuiteReport) : String := (reportData suites).pretty ++ "\n"

end Conformance
