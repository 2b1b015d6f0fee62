import Conformance.Report
import Conformance.Report.Styled

/-!
# Console reports

* `Report.entry` : the lines of one case: its verdict, and for a failed case every failing outcome
  and the arguments that were run;
* `SuiteReport.summary` : the counts of a suite, and the names of its failed cases;
* `consoleReport` : all suites, separated by an empty line.
-/

namespace Conformance

open Styled

/-- The lines of one case. -/
def Report.entry (r : Report) : List Piece :=
  match r.skipped with
  | some reason => styled .yellow true "SKIP" ++ [.text s!": {r.case} ({reason})\n"]
  | none =>
    if r.passed then styled .green true "PASS" ++ [.text s!": {r.case}\n"]
    else
      styled .red true "FAIL" ++ [.text s!": {r.case}\n"] ++
        r.failures.map (fun o => .text s!"  - {o.message}\n") ++
        match r.run with
        | some s => [.text ("    argv: " ++ String.intercalate " " s.argv ++ "\n")]
        | none => []

/-- The lines below the cases of a suite. -/
def SuiteReport.summary (s : SuiteReport) : List Piece :=
  [.text (s!"\nSuite {s.suite}: total {s.reports.length}, passed {s.passedCount}, " ++
      s!"failed {s.failedCount}, skipped {s.skippedCount}\n")] ++
    if s.failedCount > 0 then
      .text "Failed cases:\n" ::
        (s.reports.filter Report.isFailed).map fun r => .text s!"  - {r.case}\n"
    else []

/-- The lines of a suite. -/
def SuiteReport.console (s : SuiteReport) : List Piece :=
  s.reports.flatMap Report.entry ++ s.summary

/-- The lines of all suites. -/
def consoleReport : List SuiteReport → List Piece
  | [] => []
  | s :: rest => s.console ++ rest.flatMap fun t => .text "\n" :: t.console

end Conformance
