import Conformance.Proofs.Report.Sheet
import Conformance.Report.Reporter
import Mathlib.Data.List.Forall2

/-!
# The views of a result

The console, the counts, the document and the exit status say the same about a list of suites.

* `Sheet.Entry.Shows`, `Sheet.Shows` : what the console has to say about a case, and about a suite;
* `consoleReport_eq_layout` : it says so;
* `views_agree` : and so does everything else.
-/

namespace Conformance

open Styled

variable {r : Report} {s : SuiteReport} {suites : List SuiteReport}

/-! ## Counts -/

theorem Report.isFailed_iff (r : Report) :
    r.isFailed = true ↔ r.isSkipped = false ∧ r.passed = false := by
  simp [Report.isFailed]

namespace SuiteReport

/-- No report is counted twice. -/
theorem counts_le (s : SuiteReport) : s.skippedCount + s.failedCount ≤ s.reports.length := by
  unfold skippedCount failedCount
  induction s.reports with
  | nil => exact Nat.le_refl _
  | cons r reports ih =>
    have hapart : r.isSkipped = true → r.isFailed = false := fun h => by simp [Report.isFailed, h]
    rw [List.countP_cons, List.countP_cons, List.length_cons]
    by_cases h : r.isSkipped = true
    · simp only [h, hapart h, if_true, Bool.false_eq_true, if_false]
      omega
    · simp only [h, if_false, Bool.false_eq_true]
      split <;> omega

theorem counts_sum (s : SuiteReport) :
    s.passedCount + s.failedCount + s.skippedCount = s.reports.length := by
  have := s.counts_le
  unfold passedCount
  omega

end SuiteReport

/-! ## The console -/

namespace Sheet

/-- What the console has to say about a case. -/
structure Entry.Shows (r : Report) (e : Entry) : Prop where
  skip : e.verdict = .skip ↔ r.isSkipped = true
  fail : e.verdict = .fail ↔ r.isFailed = true
  headline : e.headline = r.case ++ (r.skipped.map fun reason => s!" ({reason})").getD ""
  messages : e.messages = if e.verdict = .fail then r.failures.map Outcome.message else []
  command : e.command =
    if e.verdict = .fail then r.run.map fun run => String.intercalate " " run.argv else none

/-- How many cases have a verdict. -/
def count (sheet : Sheet) (v : Verdict) : Nat := sheet.entries.countP fun e => e.verdict = v

/-- The names of the cases that failed. -/
def failedNames (sheet : Sheet) : List String :=
  (sheet.entries.filter fun e => e.verdict = .fail).map Entry.headline

/-- What the console has to say about a suite. -/
structure Shows (s : SuiteReport) (sheet : Sheet) : Prop where
  suite : sheet.suite = s.suite
  entries : List.Forall₂ Entry.Shows s.reports sheet.entries
  total : sheet.total = s.reports.length
  passed : sheet.passed = s.passedCount ∧ s.passedCount = sheet.count .pass
  failed : sheet.failed = s.failedCount ∧ s.failedCount = sheet.count .fail
  skipped : sheet.skipped = s.skippedCount ∧ s.skippedCount = sheet.count .skip
  footer : sheet.footer = if 0 < s.failedCount then some sheet.failedNames else none

end Sheet

/-- The verdict on a report. -/
def Report.verdict (r : Report) : Sheet.Verdict :=
  if r.isSkipped then .skip else if r.passed then .pass else .fail

/-- What the console says about a report. -/
def Report.sheetEntry (r : Report) : Sheet.Entry where
  verdict := r.verdict
  headline := r.case ++ (r.skipped.map fun reason => s!" ({reason})").getD ""
  messages := if r.verdict = .fail then r.failures.map Outcome.message else []
  command := if r.verdict = .fail then r.run.map fun run => String.intercalate " " run.argv else none

/-- What the console says about a suite. -/
def SuiteReport.sheet (s : SuiteReport) : Sheet where
  suite := s.suite
  entries := s.reports.map Report.sheetEntry
  total := s.reports.length
  passed := s.passedCount
  failed := s.failedCount
  skipped := s.skippedCount
  footer := if 0 < s.failedCount then some ((s.reports.filter Report.isFailed).map Report.case) else none

theorem Report.pieces_sheetEntry (r : Report) : r.sheetEntry.pieces = r.entry := by
  obtain ⟨case, outcomes, passed, skipped, run⟩ := r
  cases skipped with
  | some reason =>
    have hline : Sheet.line ": " (case ++ s!" ({reason})") = .text s!": {case} ({reason})\n" := by
      have htext : ∀ s : String, toString s = s := fun _ => rfl
      refine congrArg Piece.text (String.toList_inj.mp ?_)
      simp only [htext, String.toList_append, List.append_assoc]
      rfl
    exact congrArg (fun p => styled .yellow true "SKIP" ++ [p]) hline
  | none =>
    have hline : Sheet.line ": " (case ++ "") = .text s!": {case}\n" := by
      rw [String.append_empty]
      rfl
    cases passed with
    | true => exact congrArg (fun p => styled .green true "PASS" ++ [p]) hline
    | false =>
      have hmessages : ((outcomes.filter fun o => !o.passed).map Outcome.message).map
          (Sheet.line "  - ") =
            (outcomes.filter fun o => !o.passed).map (fun o => .text s!"  - {o.message}\n") := by
        rw [List.map_map]
        rfl
      show styled .red true "FAIL" ++ Sheet.line ": " (case ++ "") ::
        (((outcomes.filter fun o => !o.passed).map Outcome.message).map (Sheet.line "  - ") ++ _) = _
      rw [hline, hmessages]
      cases run <;> rfl

theorem SuiteReport.pieces_sheet (s : SuiteReport) : s.sheet.pieces = s.console := by
  have hentries : (s.reports.map Report.sheetEntry).flatMap Sheet.Entry.pieces =
      s.reports.flatMap Report.entry := by
    rw [List.flatMap_map]
    exact congrArg (s.reports.flatMap ·) (funext Report.pieces_sheetEntry)
  have hsummary : .text s.sheet.figures :: Sheet.footerPieces s.sheet.footer = s.summary := by
    unfold SuiteReport.summary SuiteReport.sheet
    by_cases h : s.failedCount > 0
    · simp only [if_pos h, Sheet.footerPieces, List.map_map]
      rfl
    · simp only [if_neg h]
      rfl
  rw [Sheet.pieces, hsummary]
  exact congrArg (· ++ s.summary) hentries

theorem consoleReport_eq_layout (suites : List SuiteReport) :
    consoleReport suites = Sheet.layout (suites.map SuiteReport.sheet) := by
  cases suites with
  | nil => rfl
  | cons s rest =>
    show _ = s.sheet.pieces ++ (rest.map SuiteReport.sheet).flatMap _
    rw [List.flatMap_map, s.pieces_sheet]
    simp only [SuiteReport.pieces_sheet]
    rfl

/-! ## What the console has to say -/

theorem Report.verdict_eq_skip_iff (r : Report) : r.verdict = .skip ↔ r.isSkipped = true := by
  unfold Report.verdict
  cases r.isSkipped <;> cases r.passed <;> decide

theorem Report.verdict_eq_fail_iff (r : Report) : r.verdict = .fail ↔ r.isFailed = true := by
  unfold Report.verdict Report.isFailed
  cases r.isSkipped <;> cases r.passed <;> decide

theorem Report.shows_sheetEntry (r : Report) : Sheet.Entry.Shows r r.sheetEntry where
  skip := r.verdict_eq_skip_iff
  fail := r.verdict_eq_fail_iff
  headline := rfl
  messages := rfl
  command := rfl

theorem Sheet.count_sum (sheet : Sheet) :
    sheet.count .pass + sheet.count .fail + sheet.count .skip = sheet.entries.length := by
  unfold Sheet.count
  induction sheet.entries with
  | nil => rfl
  | cons e entries ih =>
    simp only [List.countP_cons, List.length_cons, ← ih]
    cases e.verdict <;> simp <;> omega

namespace SuiteReport

theorem count_sheet_fail (s : SuiteReport) : s.sheet.count .fail = s.failedCount := by
  show (s.reports.map Report.sheetEntry).countP _ = s.reports.countP _
  rw [List.countP_map]
  refine List.countP_congr fun r _ => ?_
  rw [Function.comp_apply, decide_eq_true_eq]
  exact r.verdict_eq_fail_iff

theorem count_sheet_skip (s : SuiteReport) : s.sheet.count .skip = s.skippedCount := by
  show (s.reports.map Report.sheetEntry).countP _ = s.reports.countP _
  rw [List.countP_map]
  refine List.countP_congr fun r _ => ?_
  rw [Function.comp_apply, decide_eq_true_eq]
  exact r.verdict_eq_skip_iff

/-- What is left of the cases are those that passed. -/
theorem count_sheet_pass (s : SuiteReport) : s.sheet.count .pass = s.passedCount := by
  have hsheet := s.sheet.count_sum
  have hsum := s.counts_sum
  have hlength : s.sheet.entries.length = s.reports.length := List.length_map _
  rw [count_sheet_fail, count_sheet_skip] at hsheet
  omega

theorem failedNames_sheet (s : SuiteReport) :
    s.sheet.failedNames = (s.reports.filter Report.isFailed).map Report.case := by
  have hheadline : ∀ r ∈ s.reports.filter Report.isFailed, r.sheetEntry.headline = r.case := by
    intro r hmem
    have hskipped := (r.isFailed_iff.mp (List.mem_filter.mp hmem).2).1
    rw [Report.isSkipped, Option.isSome_eq_false_iff, Option.isNone_iff_eq_none] at hskipped
    show r.case ++ (r.skipped.map _).getD "" = r.case
    rw [hskipped]
    exact String.append_empty
  have hfailed : (fun e : Sheet.Entry => decide (e.verdict = .fail)) ∘ Report.sheetEntry =
      Report.isFailed := by
    funext r
    rw [Bool.eq_iff_iff, Function.comp_apply, decide_eq_true_eq]
    exact r.verdict_eq_fail_iff
  show ((s.reports.map Report.sheetEntry).filter _).map Sheet.Entry.headline = _
  rw [List.filter_map, hfailed, List.map_map]
  exact List.map_congr_left hheadline

theorem shows_sheet (s : SuiteReport) : Sheet.Shows s s.sheet where
  suite := rfl
  entries := List.forall₂_map_right_iff.mpr (List.forall₂_same.mpr fun r _ => r.shows_sheetEntry)
  total := rfl
  passed := ⟨rfl, s.count_sheet_pass.symm⟩
  failed := ⟨rfl, s.count_sheet_fail.symm⟩
  skipped := ⟨rfl, s.count_sheet_skip.symm⟩
  footer := by rw [failedNames_sheet]; rfl

theorem passed_iff_sheet (s : SuiteReport) :
    s.passed = true ↔ ∀ e ∈ s.sheet.entries, e.verdict ≠ .fail := by
  have hentries : s.sheet.entries = s.reports.map Report.sheetEntry := rfl
  rw [hentries, List.forall_mem_map, passed, Bool.not_eq_true', List.any_eq_false]
  exact forall₂_congr fun r _ => not_congr r.verdict_eq_fail_iff.symm

end SuiteReport

/-! ## The exit status -/

theorem exitStatus_eq_zero_iff_passed (suites : List SuiteReport) :
    exitStatus suites = 0 ↔ ∀ s ∈ suites, s.passed = true := by
  rw [← List.all_eq_true]
  unfold exitStatus
  split <;> simp_all

theorem passed_reportData (suites : List SuiteReport) :
    (reportData suites).get? "passed" = some (.bool (exitStatus suites = 0)) := rfl

/-- **All views of a result agree.** The counts of a suite add up. What the console says can be read
off it in one way, with a case for each report and the figures and the footer that go with these; no
case failed there exactly if every suite passed, if the document says so, and if the exit status is
zero, whichever way the report is written. -/
theorem views_agree (suites : List SuiteReport) :
    (∀ s ∈ suites, s.skippedCount + s.failedCount ≤ s.reports.length ∧
      s.passedCount + s.failedCount + s.skippedCount = s.reports.length) ∧
    (∃ sheets, (renderConsole suites).output = Sheet.layout sheets ∧
      (∀ others, (renderConsole suites).output = Sheet.layout others → others = sheets) ∧
      List.Forall₂ Sheet.Shows suites sheets ∧
      (exitStatus suites = 0 ↔ ∀ sheet ∈ sheets, ∀ e ∈ sheet.entries, e.verdict ≠ .fail)) ∧
    (exitStatus suites = 0 ↔ ∀ s ∈ suites, s.passed = true) ∧
    ((renderJson suites).output = [.text ((reportData suites).pretty ++ "\n")] ∧
      (exitStatus suites = 0 ↔ (reportData suites).get? "passed" = some (.bool true))) ∧
    (renderConsole suites).exitStatus = exitStatus suites ∧
    (renderJson suites).exitStatus = exitStatus suites := by
  have hlayout : (renderConsole suites).output = Sheet.layout (suites.map SuiteReport.sheet) :=
    consoleReport_eq_layout suites
  refine ⟨fun s _ => ⟨s.counts_le, s.counts_sum⟩, ⟨suites.map SuiteReport.sheet, hlayout, ?_, ?_, ?_⟩,
    exitStatus_eq_zero_iff_passed suites, ⟨rfl, ?_⟩, rfl, rfl⟩
  · exact fun others hothers => Sheet.layout_injective (hothers.symm.trans hlayout)
  · exact List.forall₂_map_right_iff.mpr (List.forall₂_same.mpr fun s _ => s.shows_sheet)
  · rw [exitStatus_eq_zero_iff_passed, List.forall_mem_map]
    exact forall₂_congr fun s _ => s.passed_iff_sheet
  · rw [passed_reportData, Option.some.injEq, Data.bool.injEq, decide_eq_true_eq]

end Conformance
