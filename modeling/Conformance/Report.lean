import Conformance.Outcome
import Conformance.Run

/-!
# Reports

* `Report` : the outcomes of one case; a skipped case has a reason and no outcomes;
* `SuiteReport` : the reports of a suite, in suite order;
* `SuiteReport.counts` : how many cases passed, failed and were skipped;
* `exitStatus` : zero exactly when no case failed.
-/

namespace Conformance

/-- The result of one case. -/
structure Report where
  case : String
  /-- Every outcome, in order. -/
  outcomes : List Outcome
  /-- Whether every outcome passed. -/
  passed : Bool
  /-- Why the case was not run. -/
  skipped : Option String
  run : Option RunSummary
  deriving DecidableEq, Repr

namespace Report

/-- The report of a case that was run, or could not be set up. -/
def ofOutcomes (case : String) (outcomes : List Outcome) (run : Option RunSummary) : Report :=
  ⟨case, outcomes, outcomes.all Outcome.passed, none, run⟩

/-- The report of a case that was not run. -/
def skip (case reason : String) : Report := ⟨case, [], true, some reason, none⟩

/-- Whether the case was not run. -/
def isSkipped (r : Report) : Bool := r.skipped.isSome

/-- Whether the case was run and did not pass. -/
def isFailed (r : Report) : Bool := !r.isSkipped && !r.passed

/-- The outcomes that did not pass. -/
def failures (r : Report) : List Outcome := r.outcomes.filter fun o => !o.passed

/-- The report with one more outcome against it. -/
def addFailure (r : Report) (message : String) : Report :=
  { r with outcomes := r.outcomes ++ [.fail message], passed := false }

/-- The document form; an absent reason or run has no entry. -/
def toData (r : Report) : Data :=
  .record ([("case", .text r.case), ("outcomes", .list (r.outcomes.map Outcome.toData)),
      ("passed", .bool r.passed)] ++
    (r.skipped.map fun reason => ("skipped", .text reason)).toList ++
    (r.run.map fun s => ("run", s.toData)).toList)

end Report

/-- The results of one suite. -/
structure SuiteReport where
  suite : String
  /-- One report for each case, in suite order. -/
  reports : List Report
  deriving DecidableEq, Repr

namespace SuiteReport

/-- Whether no case failed. -/
def passed (s : SuiteReport) : Bool := !s.reports.any Report.isFailed

/-- How many cases failed. -/
def failedCount (s : SuiteReport) : Nat := s.reports.countP Report.isFailed

/-- How many cases were not run. -/
def skippedCount (s : SuiteReport) : Nat := s.reports.countP Report.isSkipped

/-- How many cases were run and passed. -/
def passedCount (s : SuiteReport) : Nat := s.reports.length - s.skippedCount - s.failedCount

/-- The document form. -/
def toData (s : SuiteReport) : Data :=
  .record [("suite", .text s.suite), ("reports", .list (s.reports.map Report.toData))]

end SuiteReport

/-- The exit status for a list of suite reports. -/
def exitStatus (suites : List SuiteReport) : Nat := if suites.all SuiteReport.passed then 0 else 1

end Conformance
