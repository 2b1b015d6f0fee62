import Conformance.Proofs.Suite.Course
import Conformance.Proofs.Suite.Parallel

/-!
# What reports say

A report says what happened to its case: it passed if nothing went wrong, and its outcomes tell what
did.

* `Tells` : what a report says of a course;
* `Takes.exists_report` : the report of a case says what course it took;
* `Reported`, `Suite.runCase_reported` : the same where a case may be skipped;
* `Suite.run_reported` : a run of a suite goes from one such report to the next, and has them in order.
-/

namespace Conformance

variable {σ : Type}

/-! ## Courses -/

/-- The outcomes of a course, and what is kept of its run. What could not be prepared has one outcome.
Otherwise there is one for each assertion in order, after one for a run that did not end by itself, and
before one for a workspace that is left. -/
def Course.Outcomes (c : TestCase) : Course → List Outcome → Option RunSummary → Prop
  | .unmade _, outcomes, run | .uncopied _ _, outcomes, run =>
    (∃ reason : String, outcomes = [.fail s!"setup: {reason}"]) ∧ run = none
  | .handed ws launch result view removal, outcomes, run =>
    (∃ lead, launch.Leads lead ∧ outcomes =
      lead ++ (c.assertions.map fun a => a.outcome view result ws) ++ trailFor ws removal) ∧
    run = some (.ofResult result)

/-- What a report says of a course. -/
structure Tells (c : TestCase) (course : Course) (r : Report) : Prop where
  /-- It is the report of the case. -/
  case : r.case = c.name
  /-- The case was not skipped. -/
  skipped : r.skipped = none
  /-- It passed if nothing went wrong. -/
  passed_iff : r.passed = true ↔ course.Clean c
  /-- It passed if each of its outcomes did. -/
  passed_all : r.passed = r.outcomes.all Outcome.passed
  /-- Its outcomes are those of the course. -/
  outcomes : course.Outcomes c r.outcomes r.run

/-- An assertion that breaks down has not passed. -/
theorem Assertion.outcome_passed (a : Assertion) (view : FileView) (result : RunResult) (ws : Path) :
    (a.outcome view result ws).passed = true ↔
      ∃ o, a.judge view result ws = .ok o ∧ o.passed = true := by
  unfold outcome
  cases a.judge view result ws with
  | ok o => simp
  | error b => simp [Outcome.fail]

/-- A run starts without an outcome against it only if its process ended. -/
theorem Launch.Leads.all_passed {launch : Launch} {lead : List Outcome} (h : launch.Leads lead) :
    lead.all Outcome.passed = true ↔ ∃ status, launch = .waited (.ok (.ended status)) := by
  rcases launch with e | e | status | elapsed
  · obtain ⟨reason, rfl⟩ := h
    simp [Outcome.fail]
  · obtain ⟨reason, rfl⟩ := h
    simp [Outcome.fail]
  · obtain rfl : lead = [] := h
    simp
  · obtain ⟨ms, rfl⟩ := h
    simp [Outcome.fail]

theorem trailFor_all_passed (ws : Path) (removal : Except Cause Unit) :
    (trailFor ws removal).all Outcome.passed = true ↔ removal = .ok () := by
  cases removal <;> simp [trailFor, Outcome.fail]

theorem clean_handed_iff {c : TestCase} {ws : Path} {launch : Launch} {result : RunResult}
    {view : FileView} {removal : Except Cause Unit} :
    (Course.handed ws launch result view removal).Clean c ↔
      (∃ status, launch = .waited (.ok (.ended status))) ∧ removal = .ok () ∧
        ∀ a ∈ c.assertions, ∃ o, a.judge view result ws = .ok o ∧ o.passed = true := by
  rcases launch with e | e | status | elapsed <;> rcases removal with e' | ⟨⟩ <;>
    simp [Course.Clean]

/-- What could not be prepared is told by one outcome. -/
theorem tells_setupFailure {c : TestCase} {course : Course} (e : HarnessError)
    (unclean : ¬ course.Clean c)
    (outcomes : ∀ reason : String, course.Outcomes c [.fail s!"setup: {reason}"] none) :
    Tells c course (c.setupFailure e) where
  case := rfl
  skipped := rfl
  passed_iff := by simp [TestCase.setupFailure, Report.ofOutcomes, Outcome.fail, unclean]
  passed_all := rfl
  outcomes := outcomes _

/-- The report of a plan that was carried out, with the outcome for a workspace that is left. -/
theorem tells_handed {c : TestCase} {ws : Path} {launch : Launch} {result : RunResult}
    {view : FileView} {removal : Except Cause Unit} {r : Report}
    (leads : launch.Leads (TestCase.runFailure result)) (case : r.case = c.name)
    (skipped : r.skipped = none) (passed : r.passed = r.outcomes.all Outcome.passed)
    (outcomes : r.outcomes = c.evaluate view result ws ++ trailFor ws removal)
    (run : r.run = some (.ofResult result)) : Tells c (.handed ws launch result view removal) r where
  case := case
  skipped := skipped
  passed_iff := by
    rw [passed, outcomes, TestCase.evaluate, List.all_append, List.all_append, Bool.and_eq_true,
      Bool.and_eq_true, leads.all_passed, trailFor_all_passed, clean_handed_iff, List.all_map,
      List.all_eq_true]
    simp only [Function.comp_apply, Assertion.outcome_passed]
    exact and_assoc.trans (and_congr_right fun _ => and_comm)
  passed_all := passed
  outcomes := ⟨⟨_, leads, outcomes⟩, run⟩

/-- A case that is run has the report of its result. -/
theorem TestCase.run_eq {c : TestCase} {env : Environment σ} {config : RunnerConfig} {ws : Path}
    {result : RunResult} {st st' : σ}
    (executed : (execute env config c.plan ws (limitFor config c)).run st = (result, st')) :
    (c.run env config ws).run st =
      (.ofOutcomes c.name (c.evaluate (env.view st') result ws) (some (.ofResult result)), st') := by
  unfold run
  rw [run_bind_eq executed]
  rfl

variable {s : Suite} {env : Environment σ} {config : RunnerConfig} {c : TestCase} {st st' : σ}

/-- **The report of a case says what course it took.** -/
theorem Takes.exists_report {workRoot : Path} {course : Course}
    (h : Takes s env config workRoot c st course st') :
    ∃ r, (s.runIsolated env config workRoot c).run st = (r, st') ∧ Tells c course r := by
  unfold Suite.runIsolated
  cases h with
  | unmade making =>
    rw [run_bind_eq making.run_create]
    exact ⟨_, rfl, tells_setupFailure _ id fun _ => ⟨⟨_, rfl⟩, rfl⟩⟩
  | uncopied making copying removing =>
    rename_i st₁ st₂ ws e removal
    have hcopy : ((Workspace.mk ws).copyFixtures env s.fixtures).run.run st₁ =
        (.error (.workspace ws e), st₂) := Copying.run_copyFixtures copying
    have hdrop : ((Workspace.mk ws).drop env).run st₂ = ((), st') := run_bind_eq removing
    rw [run_bind_eq making.run_create]
    simp only [Except.map, Except.mapError]
    rw [run_bind_eq hcopy]
    simp only
    rw [run_bind_eq hdrop]
    exact ⟨_, rfl, tells_setupFailure _ id fun _ => ⟨⟨_, rfl⟩, rfl⟩⟩
  | handed making copying launching executed removing =>
    rename_i st₁ st₂ st₃ ws launch result removal
    have hcopy : ((Workspace.mk ws).copyFixtures env s.fixtures).run.run st₁ = (.ok (), st₂) :=
      Copying.run_copyFixtures copying
    have hclose : ((Workspace.mk ws).close env).run.run st₃ = (removal, st') := removing
    obtain ⟨result', hresult', leads⟩ := launching.exists_result
    obtain rfl : result' = result := congrArg Prod.fst (hresult'.symm.trans executed)
    rw [run_bind_eq making.run_create]
    simp only [Except.map, Except.mapError]
    rw [run_bind_eq hcopy]
    simp only
    rw [run_bind_eq (TestCase.run_eq executed), run_bind_eq hclose]
    cases removal with
    | ok =>
      refine ⟨_, rfl, tells_handed leads rfl rfl rfl ?_ rfl⟩
      exact (List.append_nil _).symm
    | error e =>
      refine ⟨_, rfl, tells_handed leads rfl rfl ?_ rfl rfl⟩
      simp [Report.addFailure, Outcome.fail]

/-! ## Skipped cases -/

/-- A case runs unless it is for other systems or its name does not match. -/
theorem Suite.isSome_skipReason (c : TestCase) (p : Platform) (filter : Option String) :
    (skipReason c p filter).isSome = true ↔
      (∃ systems, c.platforms = some systems ∧ p.os ∉ systems) ∨
        ∃ part, filter = some part ∧ Text.containsIgnoringCase c.name part = false := by
  have happlies : c.appliesTo p = false ↔ ∃ systems, c.platforms = some systems ∧ p.os ∉ systems := by
    unfold TestCase.appliesTo
    cases c.platforms <;> simp
  rw [← happlies]
  unfold skipReason
  cases c.appliesTo p with
  | false => simp
  | true =>
    cases filter with
    | none => simp
    | some part => cases hpart : Text.containsIgnoringCase c.name part <;> simp [hpart]

/-- What a report says of a case that is run or skipped, between the states before and after it. -/
structure Reported (s : Suite) (env : Environment σ) (config : RunnerConfig) (options : SuiteOptions)
    (c : TestCase) (before : σ) (r : Report) (after : σ) : Prop where
  /-- It is what running the case gives. -/
  run : (s.runCase env config options c).run before = (r, after)
  /-- It is the report of the case. -/
  case : r.case = c.name
  /-- The case was skipped if it is for other systems, or its name does not match. -/
  skipped_iff : r.isSkipped = true ↔
    (∃ systems, c.platforms = some systems ∧ config.platform.os ∉ systems) ∨
      ∃ part, options.filter = some part ∧ Text.containsIgnoringCase c.name part = false
  /-- Nothing was done for a skipped case. -/
  skipped : r.isSkipped = true →
    r.outcomes = [] ∧ r.run = none ∧ after = before ∧ s.runCase env config options c = pure r
  /-- Any other case took its course, and its report says which. -/
  course : r.isSkipped = false →
    (∃ course, Takes s env config options.workRoot c before course after) ∧
      ∀ course after', Takes s env config options.workRoot c before course after' → Tells c course r

/-- **Every case is reported on as it went, whatever the system answers.** -/
theorem Suite.runCase_reported (s : Suite) (env : Environment σ) (config : RunnerConfig)
    (options : SuiteOptions) (c : TestCase) {r : Report}
    (h : (s.runCase env config options c).run st = (r, st')) :
    Reported s env config options c st r st' := by
  have hskip := isSome_skipReason c config.platform options.filter
  cases hreason : skipReason c config.platform options.filter with
  | some reason =>
    rw [hreason] at hskip
    have hrun : s.runCase env config options c = pure (.skip c.name reason) := by
      simp only [runCase, hreason]
    rw [hrun] at h
    obtain ⟨rfl, rfl⟩ := Prod.mk.inj h
    refine ⟨by rw [hrun]; rfl, rfl, hskip, fun _ => ⟨rfl, rfl, rfl, hrun⟩, ?_⟩
    intro hno
    cases hno
  | none =>
    rw [hreason] at hskip
    have hrun : s.runCase env config options c = s.runIsolated env config options.workRoot c := by
      simp only [runCase, hreason]
    obtain ⟨course, after, htakes⟩ := exists_takes s env config options.workRoot c st
    obtain ⟨r', hr, htells⟩ := htakes.exists_report
    obtain ⟨rfl, rfl⟩ : r = r' ∧ st' = after := Prod.mk.inj (h.symm.trans (hrun ▸ hr))
    have hnot : r.isSkipped = false := by rw [Report.isSkipped, htells.skipped]; rfl
    refine ⟨h, htells.case, by rw [hnot]; exact hskip, ?_, ?_⟩
    · intro hyes
      rw [hnot] at hyes
      cases hyes
    · refine fun _ => ⟨⟨course, htakes⟩, fun course' after' htakes' => ?_⟩
      -- running the case gives one report only, so it tells of any course from this state
      obtain ⟨r', hr', htells'⟩ := htakes'.exists_report
      obtain rfl : r' = r := congrArg Prod.fst (hr'.symm.trans hr)
      exact htells'

/-- A case of a number was run or skipped between two states, and its report says how that went. -/
def Suite.ReportedAt (s : Suite) (env : Environment σ) (config : RunnerConfig) (options : SuiteOptions)
    (i : Nat) (before : σ) (r : Report) (after : σ) : Prop :=
  ∃ c, s.cases[i]? = some c ∧ Reported s env config options c before r after

/-- The cases of a suite are reported on one after another, up to the last state of the run. -/
theorem Suite.run_served_reported (s : Suite) (env : Environment σ) (config : RunnerConfig)
    (options : SuiteOptions) (turns : Nat → Nat) (st : σ) : ∃ reports done st',
    (s.run env config options turns).run st = (⟨s.name, reports⟩, st') ∧
      Served s.cases.length (s.ReportedAt env config options) st done reports st' ∧
      (s.workerCount options = 1 → done.map Prod.fst = List.range s.cases.length) := by
  obtain ⟨reports, done, st', hrun, hserved, horder⟩ := s.run_served env config options turns st
  refine ⟨reports, done, st', hrun, hserved.imp ?_, horder⟩
  rintro i before r after ⟨c, hc, hanswer⟩
  exact ⟨c, hc, s.runCase_reported env config options c hanswer⟩

/-- The reports of a suite have the names of its cases. -/
theorem Served.names {start : σ} {done : List (Nat × Report)} {reports : List Report} {options : SuiteOptions}
    (h : Served s.cases.length (s.ReportedAt env config options) start done reports st) :
    reports.map Report.case = s.cases.map TestCase.name := by
  rw [eq_comm, ← List.forall₂_eq_eq_eq, List.forall₂_map_left_iff, List.forall₂_map_right_iff]
  refine h.forall₂ ?_
  rintro i c before r after hc ⟨c', hc', hreported⟩
  obtain rfl := Option.some.inj (hc.symm.trans hc')
  exact hreported.case.symm

/-- **A run of a suite is told by its reports.** From the state that it starts in to the one that it leaves,
its cases are run or skipped one after another, each once, and in their order by a worker who is alone.
Each has one report, which says how that went, and the reports are those of the cases in order. -/
theorem Suite.run_reported (s : Suite) (env : Environment σ) (config : RunnerConfig)
    (options : SuiteOptions) (turns : Nat → Nat) (st : σ) : ∃ reports done st',
    (s.run env config options turns).run st = (⟨s.name, reports⟩, st') ∧
      Served s.cases.length (s.ReportedAt env config options) st done reports st' ∧
      (s.workerCount options = 1 → done.map Prod.fst = List.range s.cases.length) ∧
      reports.map Report.case = s.cases.map TestCase.name := by
  obtain ⟨reports, done, st', hrun, hserved, horder⟩ := s.run_served_reported env config options turns st
  exact ⟨reports, done, st', hrun, hserved, horder, hserved.names⟩

end Conformance
