import Conformance.Proofs.Pool.Serial
import Conformance.Proofs.Pool.Turns
import Conformance.Suite.Run
import Mathlib.Data.List.Nodup

/-!
# Cases that run at the same time

However the steps of the workers are interleaved, the reports are those of running each case once.

* `Delivered`, `Pool.Runs.delivered` : what is known of the slots after all workers have left;
* `runParallel_eq_iff` : parallel runs are the interleavings to their ends;
* `Suite.run_served` : each case of a suite is run once, one after another, up to the last state of the run;
* `Answered`, `Suite.run_answered` : each report of a suite is one that its case was run for;
* `Suite.run_interleaved` : no interleaving loses a report or swaps two, and if each case has only one
  report to give, then it does not matter how many run at a time.
-/

namespace Conformance

open scoped List

variable {σ : Type} {cases : List TestCase} {runOne : TestCase → StateM σ Report}

/-! ## The slots in the end -/

/-- What is known of events and slots after all workers have left. -/
structure Delivered (cases : List TestCase) (runOne : TestCase → StateM σ Report)
    (tr : List (Pool.Event Report)) (slots : List (Option Report)) : Prop where
  /-- Each case was run once. -/
  calls_once : (Pool.calls tr).map Prod.fst ~ List.range cases.length
  /-- No slot was written twice. -/
  writes_once : ((Pool.writes tr).map Prod.fst).Nodup
  /-- No case is left without a report. -/
  filled : none ∉ slots
  /-- There are as many reports as cases. -/
  length_reports : (collectReports cases slots).length = cases.length
  /-- The report of each case is what its call answered. -/
  reports : ∀ i c, cases[i]? = some c → ∃ r before after, (i, r) ∈ Pool.calls tr ∧
    (runOne c).run before = (r, after) ∧ (collectReports cases slots)[i]? = some r

theorem getElem?_collectReports {slots : List (Option Report)} {i : Nat} {c : TestCase} {r : Report}
    (hcase : cases[i]? = some c) (hslot : slots[i]? = some (some r)) :
    (collectReports cases slots)[i]? = some r := by
  simp only [collectReports, List.getElem?_zipWith, hcase, hslot, Option.getD_some]

namespace Pool

variable {tr : List (Event Report)} {p : Pool Report} {st st' : σ} {workers : Nat}

/-- A pool that started with workers still has them. -/
theorem Runs.workers_ne_nil (run : Runs cases runOne (start workers cases.length, st) tr (p, st'))
    (some_worker : 0 < workers) : p.workers ≠ [] := by
  have hlength : p.workers.length = workers := by
    rw [run.length_workers, start, List.length_replicate]
  exact List.ne_nil_of_length_pos (hlength ▸ some_worker)

/-- **Interleavings to the end deliver each report to its slot.** -/
theorem Runs.delivered (run : Runs cases runOne (start workers cases.length, st) tr (p, st'))
    (some_worker : 0 < workers) (gone : p.AllGone) : Delivered cases runOne tr p.slots := by
  have haccounts : Accounts cases runOne tr p := run.accounts
  have hne := run.workers_ne_nil some_worker
  obtain ⟨hcalls, hwrites⟩ := haccounts.calls_perm_range hne gone
  have hslots := haccounts.length_slots
  constructor
  case calls_once => exact hcalls
  case writes_once => exact (hwrites.map Prod.fst).nodup_iff.mp haccounts.nodup_calls
  case filled =>
    intro hnone
    obtain ⟨i, hi⟩ := List.mem_iff_getElem?.mp hnone
    have hlt : i < cases.length := hslots ▸ (List.getElem?_eq_some_iff.mp hi).1
    obtain ⟨r, -, -, -, -, hr⟩ :=
      haccounts.exists_slot hne gone (List.getElem?_eq_getElem hlt)
    rw [hi] at hr
    cases hr
  case length_reports => rw [collectReports, List.length_zipWith, hslots, Nat.min_self]
  case reports =>
    intro i c hc
    obtain ⟨r, before, after, hcall, hanswer, hslot⟩ := haccounts.exists_slot hne gone hc
    exact ⟨r, before, after, hcall, hanswer, getElem?_collectReports hc hslot⟩

/-- Interleavings to the end do one case after another, each once. -/
theorem Runs.served (run : Runs cases runOne (start workers cases.length, st) tr (p, st'))
    (some_worker : 0 < workers) (gone : p.AllGone) :
    Served cases.length (Does cases runOne) st (calls tr) (collectReports cases p.slots) st' := by
  have hdelivered := run.delivered some_worker gone
  have hnodup : ((calls tr).map Prod.fst).Nodup :=
    hdelivered.calls_once.nodup_iff.mpr List.nodup_range
  refine ⟨run.serial, hdelivered.calls_once, hdelivered.length_reports, fun i r => ?_⟩
  constructor
  · intro hcall
    have hlt : i < cases.length :=
      List.mem_range.mp (hdelivered.calls_once.mem_iff.mp (List.mem_map_of_mem hcall))
    obtain ⟨r', -, -, hcall', -, hr'⟩ := hdelivered.reports i _ (List.getElem?_eq_getElem hlt)
    have hsame : ((i, r) : Nat × Report) = (i, r') := List.inj_on_of_nodup_map hnodup hcall hcall' rfl
    rwa [(Prod.mk.inj hsame).2]
  · intro hr
    have hlt : i < cases.length :=
      hdelivered.length_reports ▸ (List.getElem?_eq_some_iff.mp hr).1
    obtain ⟨r', -, -, hcall, -, hr'⟩ := hdelivered.reports i _ (List.getElem?_eq_getElem hlt)
    rwa [Option.some.inj (hr.symm.trans hr')]

end Pool

/-- **Parallel runs are the interleavings to their ends.** -/
theorem runParallel_eq_iff {workers : Nat} {st st' : σ} {reports : List Report} :
    (∃ turns, (runParallel cases workers runOne turns).run st = (reports, st')) ↔
      ∃ tr p, Pool.Runs cases runOne (Pool.start workers cases.length, st) tr (p, st') ∧
        p.AllGone ∧ reports = collectReports cases p.slots := by
  have hrun : ∀ turns, (runParallel cases workers runOne turns).run st =
      (collectReports cases ((Pool.runAll cases workers runOne turns).run st).1,
        ((Pool.runAll cases workers runOne turns).run st).2) := fun _ => rfl
  constructor
  · rintro ⟨turns, hturns⟩
    have hexists : ∃ tr c, Pool.Runs cases runOne (Pool.start workers cases.length, st) tr c ∧
        c.1.AllGone ∧ (Pool.runAll cases workers runOne turns).run st = (c.1.slots, c.2) :=
      Pool.exists_runs_runAll workers turns st
    obtain ⟨tr, ⟨p, st''⟩, hruns, hgone, hall⟩ := hexists
    rw [hrun, hall] at hturns
    cases hturns
    exact ⟨tr, p, hruns, hgone, rfl⟩
  · rintro ⟨tr, p, hruns, hgone, rfl⟩
    obtain ⟨turns, hall⟩ := hruns.exists_runAll hgone
    refine ⟨turns, ?_⟩
    rw [hrun, hall]

/-! ## The reports of a suite -/

/-- Reports for cases in order, each of which its case was run for. -/
def Answered (runOne : TestCase → StateM σ Report) : List TestCase → List Report → Prop :=
  List.Forall₂ fun c r => ∃ before after, (runOne c).run before = (r, after)

theorem Answered.unique (same : ∀ c ∈ cases, ∀ st st', ((runOne c).run st).1 = ((runOne c).run st').1)
    {reports reports' : List Report} (h : Answered runOne cases reports)
    (h' : Answered runOne cases reports') : reports = reports' := by
  induction h generalizing reports' with
  | nil =>
    cases h'
    rfl
  | cons hfirst _ ih =>
    cases h' with
    | cons hfirst' hrest' =>
      obtain ⟨before, after, hr⟩ := hfirst
      obtain ⟨before', after', hr'⟩ := hfirst'
      have heq := same _ List.mem_cons_self before before'
      rw [hr, hr'] at heq
      exact congrArg₂ List.cons heq (ih (fun c hc => same c (List.mem_cons_of_mem _ hc)) hrest')

namespace Suite

variable (s : Suite) (env : Environment σ) (config : RunnerConfig) (options : SuiteOptions)

theorem workerCount_pos : 0 < s.workerCount options := by
  rw [workerCount]
  omega

/-- **A run is the runs of its cases, one after another.** Each case is run once, and has the report of
that. A worker who is alone takes them in their order. -/
theorem run_served (turns : Nat → Nat) (st : σ) : ∃ reports done st',
    (s.run env config options turns).run st = (⟨s.name, reports⟩, st') ∧
      Served s.cases.length (Does s.cases (s.runCase env config options)) st done reports st' ∧
      (s.workerCount options = 1 → done.map Prod.fst = List.range s.cases.length) := by
  by_cases hone : s.workerCount options = 1
  · obtain ⟨reports, st', hrun⟩ :
      ∃ reports st', (s.cases.mapM (s.runCase env config options)).run st = (reports, st') := ⟨_, _, rfl⟩
    obtain ⟨done, hserved, horder⟩ := served_mapM hrun
    refine ⟨reports, done, st', ?_, hserved, fun _ => horder⟩
    simp only [run, if_pos hone, StateT.run_bind, hrun]
    rfl
  · obtain ⟨reports, st', hparallel⟩ : ∃ reports st', (runParallel s.cases (s.workerCount options)
      (s.runCase env config options) turns).run st = (reports, st') := ⟨_, _, rfl⟩
    obtain ⟨tr, p, hruns, hgone, rfl⟩ := runParallel_eq_iff.mp ⟨turns, hparallel⟩
    refine ⟨_, _, st', ?_, hruns.served (s.workerCount_pos options) hgone, fun h => absurd h hone⟩
    simp only [run, if_neg hone, StateT.run_bind, hparallel]
    rfl

/-- One report is answered for each case, however many cases run at a time. -/
theorem run_answered (turns : Nat → Nat) (st : σ) :
    ∃ reports, ((s.run env config options turns).run st).1 = ⟨s.name, reports⟩ ∧
      Answered (s.runCase env config options) s.cases reports := by
  obtain ⟨reports, done, st', hrun, hserved, -⟩ := s.run_served env config options turns st
  refine ⟨reports, by rw [hrun], hserved.forall₂ fun i c before r after hc hdoes => ?_⟩
  obtain ⟨c', hc', hanswer⟩ := hdoes
  obtain rfl := Option.some.inj (hc.symm.trans hc')
  exact ⟨before, after, hanswer⟩

/-- **No interleaving of workers loses a report or swaps two.** Parallel runs are the interleavings
to their ends, and each of these gives every case the report of its only call. So if each case has but
one report to give, it does not matter how many run at a time. -/
theorem run_interleaved :
    (∀ (cases : List TestCase) (runOne : TestCase → StateM σ Report) (workers : Nat) (st : σ),
      0 < workers →
        (∀ reports st', (∃ turns, (runParallel cases workers runOne turns).run st = (reports, st')) ↔
          ∃ tr p, Pool.Runs cases runOne (Pool.start workers cases.length, st) tr (p, st') ∧
            p.AllGone ∧ reports = collectReports cases p.slots) ∧
        ∀ tr p st', Pool.Runs cases runOne (Pool.start workers cases.length, st) tr (p, st') →
          p.AllGone → Delivered cases runOne tr p.slots) ∧
    ((∀ c ∈ s.cases, ∀ st st', ((s.runCase env config options c).run st).1 =
        ((s.runCase env config options c).run st').1) →
      ∀ jobs turns turns' st st',
        ((s.run env config { options with jobs } turns).run st).1 =
          ((s.run env config { options with jobs := 1 } turns').run st').1) := by
  constructor
  · intro cases runOne workers st some_worker
    exact ⟨fun _ _ => runParallel_eq_iff, fun _ _ _ run gone => run.delivered some_worker gone⟩
  · intro same jobs turns turns' st st'
    obtain ⟨reports, hrun, hanswered⟩ := s.run_answered env config { options with jobs } turns st
    obtain ⟨reports', hrun', hanswered'⟩ :=
      s.run_answered env config { options with jobs := 1 } turns' st'
    rw [hrun, hrun', Answered.unique same hanswered hanswered']

/-- A system on which everything works, and which counts what is asked of it. -/
def tally : Environment Nat where
  workingDirectory := ⟨"/"⟩
  searchPath := none
  view := fun _ => ⟨fun _ => .error (.os .notFound)⟩
  makeDirectories := fun _ => modify (· + 1)
  makeFresh := fun parent _ => do
    modify (· + 1)
    return parent
  copyFile := fun _ _ => modify (· + 1)
  removeTree := fun _ => modify (· + 1)
  spawn := fun _ => do
    modify (· + 1)
    return ⟨.ok (.code 0), fun _ => .ok (some (.code 0)), .ofMs, fun _ => return ⟨[], [], .zero⟩⟩
  refusedAfter := fun _ => .zero

/-- Two cases that call a compiler alike. -/
def twins : Suite :=
  ⟨"twins", [{ name := "a", plan := default }, { name := "b", plan := default }], []⟩

/-- The runner for `twins`. -/
def twinsConfig : RunnerConfig := { executable := ⟨"cc"⟩, platform := .host }

/-- Both cases give the same reports whatever was counted before, so seven at a time do as well as one
after another; and two workers do deliver the reports. -/
theorem run_interleaved_twins :
    (∀ c ∈ twins.cases, ∀ st st', ((twins.runCase tally twinsConfig ⟨⟨"/w"⟩, none, 1⟩ c).run st).1 =
        ((twins.runCase tally twinsConfig ⟨⟨"/w"⟩, none, 1⟩ c).run st').1) ∧
      ((twins.run tally twinsConfig ⟨⟨"/w"⟩, none, 7⟩ id).run 0).1 =
        ((twins.run tally twinsConfig ⟨⟨"/w"⟩, none, 1⟩ id).run 0).1 ∧
      0 < 2 ∧ ∃ tr p st', Pool.Runs twins.cases (twins.runCase tally twinsConfig ⟨⟨"/w"⟩, none, 1⟩)
        (Pool.start 2 twins.cases.length, 0) tr (p, st') ∧ p.AllGone ∧
        Delivered twins.cases (twins.runCase tally twinsConfig ⟨⟨"/w"⟩, none, 1⟩) tr p.slots := by
  have hsame : ∀ c ∈ twins.cases, ∀ st st',
      ((twins.runCase tally twinsConfig ⟨⟨"/w"⟩, none, 1⟩ c).run st).1 =
        ((twins.runCase tally twinsConfig ⟨⟨"/w"⟩, none, 1⟩ c).run st').1 := by
    intro c hc st st'
    simp only [twins, List.mem_cons, List.not_mem_nil, or_false] at hc
    rcases hc with rfl | rfl <;> rfl
  obtain ⟨hany, hsuite⟩ := run_interleaved twins tally twinsConfig ⟨⟨"/w"⟩, none, 1⟩
  obtain ⟨hiff, hdelivered⟩ := hany twins.cases _ 2 0 (by decide)
  obtain ⟨tr, p, hruns, hgone, -⟩ := (hiff _ _).mp ⟨id, rfl⟩
  exact ⟨hsame, hsuite hsame 7 id id 0 0, by decide, tr, p, _, hruns, hgone,
    hdelivered tr p _ hruns hgone⟩

end Suite

end Conformance
