import Conformance.Proofs.Suite.Recorded
import Conformance.Scenario.Listing

/-!
# Listings and runs

What is listed of a scenario is what a run of it does.

* `Listed`, `Listed.layout` : a case as it is listed, and the pieces of a listing;
* `Listed.Started` : the commands for a listed case, by its report;
* `Listed.Matches` : a report is about a listed case, and its tokens are those that were run;
* `Scenario.listing_matches_run` : the listing of a scenario, and the reports and the commands of its suite.
-/

namespace Conformance

open Styled

open scoped List

variable {σ : Type}

/-! ## Listings -/

/-- A case as it is listed: its name, whether it has a mark because it is not for the system, and what
stands behind the compiler. -/
structure Listed where
  name : String
  marked : Bool
  tokens : List String
  deriving DecidableEq, Repr

namespace Listed

/-- The pieces of a case. -/
def pieces (p : Platform) (e : Listed) : List Piece :=
  .text ("  " ++ e.name) ::
    ((if e.marked then styled .yellow false (" [not on " ++ p.os.name ++ "]") else []) ++
      [.text ("\n    argv: <compiler> " ++ String.intercalate " " e.tokens ++ "\n")])

/-- The pieces of a suite. -/
def layout (p : Platform) (suite : String) (path : Path) (cases : List Listed) : List Piece :=
  styled .cyan true suite ++ .text (" (" ++ path.text ++ ")\n") :: cases.flatMap (pieces p)

/-- Why a case is skipped that is not for the system. -/
def notApplicable (p : Platform) : String := "not applicable on " ++ p.os.name

/-- The commands that were started for a listed case with a report: the tokens that are listed, if the
report tells of a run, and nothing else. -/
def Started (env : Environment σ) (config : RunnerConfig) (e : Listed) (r : Report)
    (commands : List Command) : Prop :=
  r.run = none ∧ commands = [] ∨ ∃ run place, r.run = some run ∧
    run.argv = config.executable.text :: e.tokens ∧
    commands = [⟨launchPath env.workingDirectory config.executable, e.tokens, place, config.bindings⟩]

/-- A report on a case is about a listed case. -/
structure Matches (s : Suite) (env : Environment σ) (config : RunnerConfig) (options : SuiteOptions)
    (c : TestCase) (e : Listed) (r : Report) : Prop where
  /-- It has the name that is listed. -/
  name : r.case = e.name
  /-- The case is skipped as not for the system if it has the mark. -/
  mark : r.skipped = some (notApplicable config.platform) ↔ e.marked = true
  /-- A case that is not skipped is run, unless it could not be set up. -/
  ran : r.skipped = none →
    (∃ run, r.run = some run) ∨ r.run = none ∧ ∃ reason : String, r.outcomes = [.fail s!"setup: {reason}"]
  /-- If it is run, then with the tokens that are listed; this is the only command that is started. -/
  started : ∃ before after commands, (s.runCase env config options c).run before = (r, after) ∧
    (∀ log, (s.runCase env.recorded config options c).run (before, log) =
      (r, after, log ++ commands)) ∧ e.Started env config r commands

end Listed

/-- A case as it is listed on a platform. -/
def CaseSpec.listed (c : CaseSpec) (p : Platform) : Listed := ⟨c.name, !c.isFor p, c.plan.argv⟩

theorem CaseSpec.pieces_listed (c : CaseSpec) (p : Platform) :
    (c.listed p).pieces p = c.listing p := by
  unfold CaseSpec.listing CaseSpec.listed Listed.pieces
  cases c.isFor p <;> rfl

theorem Scenario.listing_eq_layout (s : Scenario) (p : Platform) :
    s.listing p = Listed.layout p s.name s.path (s.file.cases.map fun c => c.listed p) := by
  unfold Listed.layout
  rw [List.flatMap_map]
  simp only [CaseSpec.pieces_listed]
  rfl

/-! ## Skipped cases -/

/-- The test of a listing is that of a run. -/
theorem CaseSpec.isFor_eq_appliesTo (c : CaseSpec) (p : Platform) : c.isFor p = c.toCase.appliesTo p := by
  unfold CaseSpec.isFor TestCase.appliesTo CaseSpec.toCase
  cases c.platforms <;> rfl

/-- The two reasons differ in their first letters. -/
theorem filtered_ne_notApplicable (p : Platform) (part : String) :
    s!"filtered out by substring: {part}" ≠ Listed.notApplicable p := by
  have hleft : ("filtered out by substring: " ++ part).toList.head? = some 'f' := by simp
  have hright : ("not applicable on " ++ p.os.name).toList.head? = some 'n' := by simp
  intro heq
  have hletters := (congrArg (fun text => text.toList.head?) heq).symm.trans hleft
  exact absurd (hright.symm.trans hletters) (by decide)

theorem Suite.skipReason_eq_notApplicable_iff (c : TestCase) (p : Platform) (filter : Option String) :
    skipReason c p filter = some (Listed.notApplicable p) ↔ c.appliesTo p = false := by
  unfold skipReason
  cases c.appliesTo p with
  | false => exact iff_of_true rfl rfl
  | true =>
    refine iff_of_false ?_ nofun
    cases filter with
    | none => exact nofun
    | some part =>
      intro heq
      cases hpart : Text.containsIgnoringCase c.name part with
      | true => simp [hpart] at heq
      | false =>
        simp only [hpart, Bool.not_true, Bool.false_eq_true, if_false, Option.some.injEq] at heq
        exact filtered_ne_notApplicable p part heq

theorem Reported.skipped_eq {s : Suite} {env : Environment σ} {config : RunnerConfig}
    {options : SuiteOptions} {c : TestCase} {before after : σ} {r : Report}
    (h : Reported s env config options c before r after) :
    r.skipped = Suite.skipReason c config.platform options.filter := by
  have hrun := h.run
  unfold Suite.runCase at hrun
  cases hreason : Suite.skipReason c config.platform options.filter with
  | some reason =>
    rw [hreason] at hrun
    exact (congrArg Report.skipped (Prod.mk.inj hrun).1).symm
  | none =>
    have hskip := Suite.isSome_skipReason c config.platform options.filter
    rw [hreason, ← h.skipped_iff] at hskip
    have hnot : r.isSkipped = false := by
      cases hskipped : r.isSkipped with
      | false => rfl
      | true => cases hskip.mpr hskipped
    rwa [Report.isSkipped, Option.isSome_eq_false_iff, Option.isNone_iff_eq_none] at hnot

/-! ## Runs -/

/-- A report that tells of a course tells of a run, unless the case could not be set up. -/
theorem Tells.run_or_setup {c : TestCase} {course : Course} {r : Report} (h : Tells c course r) :
    (∃ run, r.run = some run) ∨
      r.run = none ∧ ∃ reason : String, r.outcomes = [.fail s!"setup: {reason}"] := by
  have houtcomes := h.outcomes
  cases course with
  | unmade e => exact .inr ⟨houtcomes.2, houtcomes.1⟩
  | uncopied ws e => exact .inr ⟨houtcomes.2, houtcomes.1⟩
  | handed ws launch result view removal => exact .inl ⟨_, houtcomes.2⟩

theorem Reported.matches {s : Suite} {env : Environment σ} {config : RunnerConfig}
    {options : SuiteOptions} {c : CaseSpec} {before after : σ} {r : Report}
    (h : Reported s env config options c.toCase before r after) :
    Listed.Matches s env config options c.toCase (c.listed config.platform) r where
  name := h.case
  mark := by
    rw [h.skipped_eq, Suite.skipReason_eq_notApplicable_iff, ← CaseSpec.isFor_eq_appliesTo]
    simp [CaseSpec.listed]
  ran := by
    intro hskipped
    obtain ⟨⟨course, htakes⟩, htells⟩ := h.course (by rw [Report.isSkipped, hskipped]; rfl)
    exact (htells course after htakes).run_or_setup
  started := by
    obtain ⟨commands, hran, hrecorded⟩ := s.records_runCase options before
    rw [h.run] at hran hrecorded
    exact ⟨before, after, commands, h.run, hrecorded, hran⟩

/-- **A listing shows what a run does.** It has the name of the suite and its cases in the order of
their reports. A case has a mark if a run skips it as not for the system; if it is run, then with the
tokens that are listed. The commands that a run starts are those of the listed cases that it runs, in the
order in which it runs them; that is the order of the listing for a worker who is alone. -/
theorem Scenario.listing_matches_run (s : Scenario) (outside : Option Path) (env : Environment σ)
    (config : RunnerConfig) (options : SuiteOptions) (turns : Nat → Nat) (st : σ) :
    ∃ (listed : List Listed) (report : SuiteReport),
      (((s.toSuite outside).run env config options turns).run st).1 = report ∧
      s.listing config.platform = Listed.layout config.platform report.suite s.path listed ∧
      listed.length = s.file.cases.length ∧ report.reports.length = s.file.cases.length ∧
      (∀ (i : Nat) (c : CaseSpec) (e : Listed) (r : Report), s.file.cases[i]? = some c →
        listed[i]? = some e → report.reports[i]? = some r →
        Listed.Matches (s.toSuite outside) env config options c.toCase e r) ∧
      ∃ (order : List Nat) (logs : List (List Command)),
        (∀ log, ((s.toSuite outside).run env.recorded config options turns).run (st, log) =
          (report, (((s.toSuite outside).run env config options turns).run st).2, log ++ logs.flatten)) ∧
        order ~ List.range listed.length ∧
        ((s.toSuite outside).workerCount options = 1 → order = List.range listed.length) ∧
        List.Forall₂ (fun i commands => ∃ e r, listed[i]? = some e ∧ report.reports[i]? = some r ∧
          e.Started env config r commands) order logs := by
  obtain ⟨reports, done, st', logs, hrun, hrecorded, hserved, horder, hlogs⟩ :=
    (s.toSuite outside).run_recorded env config options turns st
  have hcases : (s.toSuite outside).cases = s.file.cases.map CaseSpec.toCase := rfl
  have hlength : (s.toSuite outside).cases.length = s.file.cases.length := by rw [hcases, List.length_map]
  -- the case of a number is the one that is listed there
  have hlisted : ∀ (i : Nat) (c : TestCase), (s.toSuite outside).cases[i]? = some c →
      ∃ spec, s.file.cases[i]? = some spec ∧ spec.toCase = c := by
    intro i c hc
    rwa [hcases, List.getElem?_map, Option.map_eq_some_iff] at hc
  refine ⟨s.file.cases.map fun c => c.listed config.platform, ⟨s.name, reports⟩, congrArg Prod.fst hrun,
    s.listing_eq_layout config.platform, List.length_map _, hserved.length.trans hlength, ?_,
    done.map Prod.fst, logs, ?_, ?_, ?_, ?_⟩
  · intro i c e r hc he hr
    rw [List.getElem?_map, hc] at he
    obtain rfl := Option.some.inj he
    obtain ⟨before, after, c', hc', hreported⟩ :=
      hserved.serial.exists_of_mem ((hserved.result_iff i r).mpr hr)
    obtain ⟨spec, hspec, rfl⟩ := hlisted i c' hc'
    obtain rfl := Option.some.inj (hc.symm.trans hspec)
    exact hreported.matches
  · intro log
    rw [hrecorded log, hrun]
    rfl
  · rw [List.length_map, ← hlength]
    exact hserved.once
  · rw [List.length_map, ← hlength]
    exact horder
  · refine hlogs.imp ?_
    rintro i commands ⟨c, r, hc, hr, hran⟩
    obtain ⟨spec, hspec, rfl⟩ := hlisted i c hc
    exact ⟨spec.listed config.platform, r, by rw [List.getElem?_map, hspec]; rfl, hr, hran⟩

end Conformance
