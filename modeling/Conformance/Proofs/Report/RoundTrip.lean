import Conformance.Proofs.Data.RoundTrip
import Conformance.Proofs.Data.Values
import Conformance.Report.Reporter

/-!
# Reports in documents

* `Report.ofData?`, `SuiteReport.ofData?`, `readReport?` : what a document says;
* `Report.Sized`, `SuiteReport.Sized` : numbers of the sizes of their types;
* `jsonReport_lossless` : the text of a report says what it was written from.
-/

namespace Conformance

open Json

variable {α : Type} {depth : Nat} {r : Report} {s : SuiteReport} {suites : List SuiteReport}

/-! ## Reading reports -/

/-- The value of an entry, which is absent where there is no entry. -/
def Data.absentOr? (read : Data → Option α) (d : Data) (name : String) : Option (Option α) :=
  match d.get? name with
  | some value => (read value).map some
  | none => some none

/-- A report from its document form. -/
def Report.ofData? (d : Data) : Option Report := do
  let case ← (← d.get? "case").text?
  let outcomes ← (← d.get? "outcomes").listOf? Outcome.ofData?
  let passed ← (← d.get? "passed").bool?
  let skipped ← d.absentOr? Data.text? "skipped"
  let run ← d.absentOr? RunSummary.ofData? "run"
  return ⟨case, outcomes, passed, skipped, run⟩

/-- The reports of a suite from their document form. -/
def SuiteReport.ofData? (d : Data) : Option SuiteReport := do
  let suite ← (← d.get? "suite").text?
  let reports ← (← d.get? "reports").listOf? Report.ofData?
  return ⟨suite, reports⟩

/-- The verdict and the suites of a text. -/
def readReport? (text : String) : Option (Bool × List SuiteReport) := do
  let d ← Data.ofJson? text
  let passed ← (← d.get? "passed").bool?
  let suites ← (← d.get? "suites").listOf? SuiteReport.ofData?
  return (passed, suites)

/-! ## Sizes -/

/-- The numbers of a termination have the sizes of their types. -/
def Termination.Sized : Termination → Prop
  | .exited code => Data.int32Min ≤ code ∧ code ≤ Data.int32Max
  | .signaled signal => Data.int32Min ≤ signal ∧ signal ≤ Data.int32Max
  | .timedOut afterMs => afterMs < UInt64.size
  | .launchFailed => True

/-- The numbers of a summary have the sizes of their types. -/
structure RunSummary.Sized (run : RunSummary) : Prop where
  exitCode : Data.int32Min ≤ run.exitCode ∧ run.exitCode ≤ Data.int32Max
  termination : run.termination.Sized
  durationMs : run.durationMs < UInt64.size

/-- The numbers of a report have the sizes of their types. -/
def Report.Sized (r : Report) : Prop := ∀ run, r.run = some run → run.Sized

/-- The numbers of the reports of a suite have the sizes of their types. -/
def SuiteReport.Sized (s : SuiteReport) : Prop := ∀ r ∈ s.reports, r.Sized

/-! ## What is read -/

theorem Termination.ofData?_toData {t : Termination} (h : t.Sized) : ofData? t.toData = some t := by
  cases t with
  | exited code =>
    show ((Data.int code).int32?.bind _) = _
    rw [Data.int32?_int h]
    rfl
  | signaled signal =>
    show ((Data.int signal).int32?.bind _) = _
    rw [Data.int32?_int h]
    rfl
  | timedOut afterMs =>
    show ((Data.int afterMs).word64?.bind _) = _
    rw [Data.word64?_int h]
    rfl
  | launchFailed => rfl

theorem RunSummary.ofData?_toData {run : RunSummary} (h : run.Sized) :
    ofData? run.toData = some run := by
  show ((Data.texts run.argv).listOf? Data.text?).bind (fun argv =>
    ((Data.int run.exitCode).int32?).bind fun exitCode =>
      (Termination.ofData? run.termination.toData).bind fun termination =>
        ((Data.int run.durationMs).word64?).bind fun durationMs =>
          some (RunSummary.mk argv exitCode termination durationMs)) = some run
  rw [Data.listOf?_texts, Data.int32?_int h.exitCode, Termination.ofData?_toData h.termination,
    Data.word64?_int h.durationMs]
  rfl

theorem Report.ofData?_toData (h : r.Sized) : ofData? r.toData = some r := by
  obtain ⟨case, outcomes, passed, skipped, run⟩ := r
  have houtcomes : (Data.list (outcomes.map Outcome.toData)).listOf? Outcome.ofData? = some outcomes :=
    Data.listOf?_map fun _ _ => rfl
  have hskipped : (Report.mk case outcomes passed skipped run).toData.absentOr? Data.text? "skipped" =
      some skipped := by
    cases skipped <;> cases run <;> rfl
  have hrun : (Report.mk case outcomes passed skipped run).toData.absentOr? RunSummary.ofData? "run" =
      some run := by
    cases run with
    | none => cases skipped <;> rfl
    | some run =>
      have hread := congrArg (Option.map some) (RunSummary.ofData?_toData (h run rfl))
      cases skipped <;> exact hread
  show ((Data.list (outcomes.map Outcome.toData)).listOf? Outcome.ofData?).bind _ = _
  rw [houtcomes]
  show (Data.absentOr? Data.text? _ "skipped").bind _ = _
  rw [hskipped]
  show (Data.absentOr? RunSummary.ofData? _ "run").bind _ = _
  rw [hrun]
  rfl

theorem SuiteReport.ofData?_toData (h : s.Sized) : ofData? s.toData = some s := by
  have hreports : (Data.list (s.reports.map Report.toData)).listOf? Report.ofData? = some s.reports :=
    Data.listOf?_map fun r hmem => Report.ofData?_toData (h r hmem)
  show ((Data.list (s.reports.map Report.toData)).listOf? Report.ofData?).bind _ = _
  rw [hreports]
  rfl

/-! ## What is kept -/

theorem Termination.kept_toData {t : Termination} (h : t.Sized) : Kept (depth + 1) t.toData := by
  cases t with
  | exited code =>
    exact kept_record ["status", "code"] (by decide) rfl
      (List.forall_mem_cons.mpr ⟨.text _, List.forall_mem_singleton.mpr (kept_int32 h)⟩)
  | signaled signal =>
    exact kept_record ["status", "signal"] (by decide) rfl
      (List.forall_mem_cons.mpr ⟨.text _, List.forall_mem_singleton.mpr (kept_int32 h)⟩)
  | timedOut afterMs =>
    exact kept_record ["status", "after_ms"] (by decide) rfl
      (List.forall_mem_cons.mpr ⟨.text _, List.forall_mem_singleton.mpr (kept_word64 h)⟩)
  | launchFailed =>
    exact kept_record ["status"] (by decide) rfl (List.forall_mem_singleton.mpr (.text _))

theorem RunSummary.kept_toData {run : RunSummary} (h : run.Sized) : Kept (depth + 2) run.toData := by
  refine kept_record ["argv", "exit_code", "termination", "duration_ms"] (by decide) rfl ?_
  simp only [List.forall_mem_cons]
  exact ⟨kept_list fun _ _ => .text _, kept_int32 h.exitCode, Termination.kept_toData h.termination,
    kept_word64 h.durationMs, fun _ => nofun⟩

theorem Outcome.kept_toData (o : Outcome) : Kept (depth + 1) o.toData :=
  kept_record ["passed", "message"] (by decide) rfl
    (List.forall_mem_cons.mpr ⟨.bool _, List.forall_mem_singleton.mpr (.text _)⟩)

theorem Report.kept_toData (h : r.Sized) : Kept (depth + 3) r.toData := by
  obtain ⟨case, outcomes, passed, skipped, run⟩ := r
  have hfixed : ∀ e ∈ [("case", Data.text case), ("outcomes", .list (outcomes.map Outcome.toData)),
      ("passed", .bool passed)], Kept (depth + 2) e.2 := by
    simp only [List.forall_mem_cons]
    exact ⟨.text _, kept_list fun o _ => o.kept_toData, .bool _, fun _ => nofun⟩
  have hskipped : ∀ e ∈ (skipped.map fun reason => ("skipped", Data.text reason)).toList,
      Kept (depth + 2) e.2 := by
    cases skipped with
    | none => exact fun _ => nofun
    | some reason => exact List.forall_mem_singleton.mpr (.text reason)
  have hrun : ∀ e ∈ (run.map fun s => ("run", s.toData)).toList, Kept (depth + 2) e.2 := by
    cases run with
    | none => exact fun _ => nofun
    | some run => exact List.forall_mem_singleton.mpr (RunSummary.kept_toData (h run rfl))
  -- which names there are depends on the two entries that may be missing
  have hall := List.forall_mem_append.mpr ⟨List.forall_mem_append.mpr ⟨hfixed, hskipped⟩, hrun⟩
  cases skipped with
  | none =>
    cases run with
    | none => exact kept_record ["case", "outcomes", "passed"] (by decide) rfl hall
    | some run => exact kept_record ["case", "outcomes", "passed", "run"] (by decide) rfl hall
  | some reason =>
    cases run with
    | none => exact kept_record ["case", "outcomes", "passed", "skipped"] (by decide) rfl hall
    | some run =>
      exact kept_record ["case", "outcomes", "passed", "skipped", "run"] (by decide) rfl hall

theorem SuiteReport.kept_toData (h : s.Sized) : Kept (depth + 5) s.toData :=
  kept_record ["suite", "reports"] (by decide) rfl (List.forall_mem_cons.mpr ⟨.text _,
    List.forall_mem_singleton.mpr (kept_list fun r hmem => Report.kept_toData (h r hmem))⟩)

theorem kept_reportData (h : ∀ s ∈ suites, s.Sized) : Kept (depth + 7) (reportData suites) :=
  kept_record ["passed", "suites"] (by decide) rfl (List.forall_mem_cons.mpr ⟨.bool _,
    List.forall_mem_singleton.mpr (kept_list fun s hmem => SuiteReport.kept_toData (h s hmem))⟩)

/-! ## Texts -/

theorem readReport?_jsonReport (h : ∀ s ∈ suites, s.Sized) :
    readReport? (jsonReport suites) = some (decide (exitStatus suites = 0), suites) := by
  have hsuites : (Data.list (suites.map SuiteReport.toData)).listOf? SuiteReport.ofData? =
      some suites := Data.listOf?_map fun s hmem => SuiteReport.ofData?_toData (h s hmem)
  rw [readReport?, jsonReport, Data.ofJson?_pretty (kept_reportData h)]
  show ((Data.list (suites.map SuiteReport.toData)).listOf? SuiteReport.ofData?).bind _ = _
  rw [hsuites]
  rfl

/-- **The text of a report loses nothing.** It is one document, from which the verdict and the very
same suites are read, so that it is the text of no others. -/
theorem jsonReport_lossless (suites : List SuiteReport) (h : ∀ s ∈ suites, s.Sized) :
    (renderJson suites).output = [.text (jsonReport suites)] ∧
      Data.ofJson? (jsonReport suites) = some (reportData suites) ∧
      readReport? (jsonReport suites) = some (decide (exitStatus suites = 0), suites) ∧
      ∀ others : List SuiteReport, (∀ s ∈ others, s.Sized) → jsonReport others = jsonReport suites →
        others = suites := by
  refine ⟨rfl, Data.ofJson?_pretty (kept_reportData h), readReport?_jsonReport h, ?_⟩
  intro others hothers heq
  have hread := readReport?_jsonReport hothers
  rw [heq, readReport?_jsonReport h] at hread
  exact (Prod.mk.inj (Option.some.inj hread)).2.symm

/-! ## A report -/

/-- A suite with a case that ran out of time and left a quote, and with a case that was not run. -/
def slowSuite : SuiteReport where
  suite := "smoke"
  reports := [
    { case := "slow"
      outcomes := [.fail "run: timed out after 20 ms;\n\"process\" terminated"]
      passed := false
      skipped := none
      run := some ⟨["clang", "a.c"], -1, .timedOut 20, 21⟩ },
    .skip "other" "not applicable on linux"]

theorem sized_slowSuite : ∀ s ∈ [slowSuite], s.Sized := by
  rw [List.forall_mem_singleton]
  show ∀ r ∈ slowSuite.reports, r.Sized
  refine List.forall_mem_cons.mpr ⟨fun run hrun => ?_, List.forall_mem_singleton.mpr fun run => nofun⟩
  obtain rfl := Option.some.inj hrun
  exact ⟨by decide, (by decide : 20 < UInt64.size), by decide⟩

theorem readReport?_slowSuite : (∀ s ∈ [slowSuite], s.Sized) ∧
    readReport? (jsonReport [slowSuite]) = some (false, [slowSuite]) :=
  ⟨sized_slowSuite, (jsonReport_lossless [slowSuite] sized_slowSuite).2.2.1⟩

end Conformance
