import Conformance.CommandLine.Execution
import Conformance.Proofs.Suite.Preflight
import Conformance.Proofs.Suite.Reports

/-!
# Faults of requests

A request that needs something that is missing or cannot be read fails before it does anything.

* `Flaw` : what can be wrong with a request, wherever it stands;
* `run_forM_look`, `run_mapM_look` : finding out about the host changes nothing, however often;
* `runReports`, `Request.settles_run` : a run as its checks, and the reports of all suites after them;
* `Request.settles` : a request fails exactly if something is wrong with it, and then the host and the
  streams stay as they are;
* `Request.deliver_faults` : so nothing is written, and the exit status of a run tells whether all cases
  were skipped or passed.
-/

namespace Conformance.CommandLine

open Styled

variable {ω α β : Type} {request : Request} {site : Site} {store : FileStore} {cwd : Location}
  {e : HarnessError} {here : Host × ω} {console : Console ω} {p : Path}

/-! ## What can be wrong -/

/-- The paths that a request takes scenarios from. -/
def Request.roots : Request → List Path
  | .run _ _ paths => paths
  | .list paths => paths
  | .inspect _ _ => []

/-- What can be wrong with a request on a site with given files, and the error that tells it. -/
inductive Flaw (site : Site) (store : FileStore) : Request → HarnessError → Prop where
  /-- A path cannot be searched, or has no scenarios below it. -/
  | root {request : Request} {root : Path} {e : HarnessError} : root ∈ request.roots →
    discover store site.setting.directory root = .error e → Flaw site store request e
  /-- A scenario file cannot be read, or holds no scenario. -/
  | scenario {request : Request} {root path : Path} {found : List Path} {e : HarnessError} :
    root ∈ request.roots → discover store site.setting.directory root = .ok found → path ∈ found →
    Scenario.load (store.view site.setting.directory) path = .error e → Flaw site store request e
  /-- There are suites to run, and the compiler is not there. -/
  | compiler {compiler : Path} {options : RunOptions} {paths : List Path} {scenarios : List Scenario} :
    loadAll store site.setting.directory paths = .ok scenarios → scenarios ≠ [] →
    executableAvailable (store.view site.setting.directory) (site.setting.bindings.lookup "PATH")
      compiler = false →
    Flaw site store (.run compiler options paths) (.missingExecutable compiler)
  /-- A fixture of a suite is not there. -/
  | fixture {compiler : Path} {options : RunOptions} {paths : List Path} {scenarios : List Scenario}
    {s : Scenario} {f : Path} :
    loadAll store site.setting.directory paths = .ok scenarios → s ∈ scenarios →
    f ∈ (s.toSuite options.fixtures).fixtures →
    (store.view site.setting.directory).isFile f = false →
    Flaw site store (.run compiler options paths) (.missingFixture f)
  /-- A file to inspect cannot be read. -/
  | file {files : List Path} {format : Format} {p : Path} {cause : Cause} : p ∈ files →
    (store.view site.setting.directory).summarize p = .error cause →
    Flaw site store (.inspect files format) (.inspect p cause)

theorem discover_ne_reportWrite (store : FileStore) (cwd : Location) (root : Path) (cause : Cause) :
    discover store cwd root ≠ .error (.reportWrite cause) := by
  unfold discover
  split
  · nofun
  · split
    · nofun
    · split
      · nofun
      · split <;> nofun

theorem load_ne_reportWrite (view : FileView) (path : Path) (cause : Cause) :
    Scenario.load view path ≠ .error (.reportWrite cause) := by
  unfold Scenario.load Scenario.parse
  split
  · nofun
  · split <;> nofun

theorem Flaw.ne_reportWrite (h : Flaw site store request e) (cause : Cause) :
    e ≠ .reportWrite cause := by
  rintro rfl
  cases h with
  | root _ h => exact discover_ne_reportWrite _ _ _ _ h
  | scenario _ _ _ h => exact load_ne_reportWrite _ _ _ h

/-! ## Lists of checks -/

theorem bind_eq_ok {x : Except HarnessError α} {f : α → Except HarnessError β} {r : β} :
    (x >>= f) = .ok r ↔ ∃ a, x = .ok a ∧ f a = .ok r := by
  cases x <;> simp [bind, Except.bind]

theorem bind_eq_error {x : Except HarnessError α} {f : α → Except HarnessError β} :
    (x >>= f) = .error e ↔ x = .error e ∨ ∃ a, x = .ok a ∧ f a = .error e := by
  cases x <;> simp [bind, Except.bind]

theorem exists_of_mapM_error {f : α → Except HarnessError β} {xs : List α} (h : xs.mapM f = .error e) :
    ∃ x ∈ xs, f x = .error e := by
  induction xs with
  | nil => cases h
  | cons x xs ih =>
    rw [List.mapM_cons] at h
    rcases bind_eq_error.mp h with hx | ⟨y, -, h⟩
    · exact ⟨x, List.mem_cons_self, hx⟩
    · rcases bind_eq_error.mp h with hxs | ⟨ys, -, h⟩
      · obtain ⟨x', hmem, hx'⟩ := ih hxs
        exact ⟨x', List.mem_cons_of_mem _ hmem, hx'⟩
      · cases h

theorem exists_of_mapM_ok {f : α → Except HarnessError β} {xs : List α} {ys : List β}
    (h : xs.mapM f = .ok ys) : ∀ x ∈ xs, ∃ y, f x = .ok y := by
  induction xs generalizing ys with
  | nil => simp
  | cons x xs ih =>
    rw [List.mapM_cons] at h
    obtain ⟨y, hx, h⟩ := bind_eq_ok.mp h
    obtain ⟨ys, hxs, -⟩ := bind_eq_ok.mp h
    exact List.forall_mem_cons.mpr ⟨⟨y, hx⟩, ih hxs⟩

theorem forM_eq (f : α → Except HarnessError Unit) (xs : List α) :
    xs.forM f = xs.mapM f >>= fun _ => .ok () := by
  induction xs with
  | nil => rfl
  | cons x xs ih =>
    show (f x >>= fun _ => xs.forM f) = _
    rw [ih, List.mapM_cons]
    cases f x with
    | error e => rfl
    | ok y => cases xs.mapM f <;> rfl

theorem exists_of_forM_error {f : α → Except HarnessError Unit} {xs : List α}
    (h : xs.forM f = .error e) : ∃ x ∈ xs, f x = .error e := by
  rw [forM_eq] at h
  rcases bind_eq_error.mp h with hxs | ⟨ys, -, h⟩
  · exact exists_of_mapM_error hxs
  · cases h

theorem eq_ok_of_forM_ok {f : α → Except HarnessError Unit} {xs : List α} (h : xs.forM f = .ok ()) :
    ∀ x ∈ xs, f x = .ok () := by
  rw [forM_eq] at h
  obtain ⟨ys, hxs, -⟩ := bind_eq_ok.mp h
  intro x hmem
  obtain ⟨y, hx⟩ := exists_of_mapM_ok hxs x hmem
  exact hx

/-! ## Attempts -/

section Attempts

open Attempt

theorem run_bind_ok {a : Attempt ω α} {x : α} {there : Host × ω} (next : α → Attempt ω β)
    (h : a.run.run here = (.ok x, there)) : (a >>= next).run.run here = (next x).run.run there := by
  rw [ExceptT.run_bind, StateT.run_bind, h]
  rfl

theorem run_bind_error {a : Attempt ω α} {there : Host × ω} (next : α → Attempt ω β)
    (h : a.run.run here = (.error e, there)) : (a >>= next).run.run here = (.error e, there) := by
  rw [ExceptT.run_bind, StateT.run_bind, h]
  rfl

theorem run_look (f : Host → Except HarnessError α) (here : Host × ω) :
    (look f : Attempt ω α).run.run here = (f here.1, here) := rfl

/-- What is found out of several things, one after the other, changes nothing. -/
theorem run_mapM_look (f : α → Host → Except HarnessError β) (xs : List α) (here : Host × ω) :
    (xs.mapM fun x => (look (f x) : Attempt ω β)).run.run here =
      (xs.mapM fun x => f x here.1, here) := by
  induction xs with
  | nil => rfl
  | cons x xs ih =>
    have hfirst := run_look (f x) here
    rw [List.mapM_cons, List.mapM_cons]
    -- the rest finds the host and the streams as the first has found them
    cases hx : f x here.1 with
    | error e => exact run_bind_error _ (hfirst.trans (by rw [hx]))
    | ok y =>
      rw [run_bind_ok _ (hfirst.trans (by rw [hx]))]
      cases hxs : xs.mapM fun x => f x here.1 with
      | error e => exact run_bind_error _ (ih.trans (by rw [hxs]))
      | ok ys => exact run_bind_ok _ (ih.trans (by rw [hxs]))

/-- Checks of the host, one after the other, change nothing. -/
theorem run_forM_look (check : α → Host → Except HarnessError Unit) (xs : List α) (here : Host × ω) :
    (xs.forM fun x => (look (check x) : Attempt ω Unit)).run.run here =
      (xs.forM fun x => check x here.1, here) := by
  induction xs with
  | nil => rfl
  | cons x xs ih =>
    have hfirst := run_look (check x) here
    show (look (check x) >>= fun _ => xs.forM fun x => look (check x) : Attempt ω Unit).run.run here =
      (check x here.1 >>= fun _ => xs.forM fun x => check x here.1, here)
    cases hx : check x here.1 with
    | error e => exact run_bind_error _ (hfirst.trans (by rw [hx]))
    | ok u => exact (run_bind_ok _ (hfirst.trans (by rw [hx]))).trans ih

/-- What is done on the host, one thing after the other, does not fail, even if each is told. -/
theorem run_mapM_act (f : α → StateM Host β) (console : Console ω) (verbose : Bool) (text : β → String)
    (xs : List α) (here : Host × ω) : ∃ streams,
      (xs.mapM fun x => do
        let y ← act (f x)
        if verbose then tell console (text y)
        return y).run.run here =
          (.ok ((xs.mapM f).run here.1).1, ((xs.mapM f).run here.1).2, streams) := by
  induction xs generalizing here with
  | nil => exact ⟨here.2, rfl⟩
  | cons x xs ih =>
    obtain ⟨streams, hfirst⟩ : ∃ streams, (do
        let y ← act (f x)
        if verbose then tell console (text y)
        return y : Attempt ω β).run.run here =
          (.ok ((f x).run here.1).1, ((f x).run here.1).2, streams) := by
      cases verbose with
      | true => exact ⟨_, rfl⟩
      | false => exact ⟨_, rfl⟩
    obtain ⟨streams', hrest⟩ := ih (((f x).run here.1).2, streams)
    refine ⟨streams', ?_⟩
    rw [List.mapM_cons, List.mapM_cons, run_bind_ok _ hfirst, run_bind_ok _ hrest]
    rfl

/-- The answer of a request that writes its result in the end. -/
theorem answer_write (console : Console ω) (pieces : List Piece) (status : Nat) (here : Host × ω) :
    ((do write console pieces; return status : Attempt ω Nat).run.run here).1 = .ok status ∨
      ∃ cause, ((do write console pieces; return status : Attempt ω Nat).run.run here).1 =
        .error (.reportWrite cause) := by
  obtain ⟨answer, streams, hwrite⟩ :
    ∃ answer streams, (console.write pieces).run.run here.2 = (answer, streams) := ⟨_, _, rfl⟩
  have hrun : (write console pieces).run.run here =
      (answer.mapError HarnessError.reportWrite, here.1, streams) := by
    show (((console.write pieces).run.run here.2).1.mapError HarnessError.reportWrite, here.1,
      ((console.write pieces).run.run here.2).2) = _
    rw [hwrite]
  cases answer with
  | ok u => exact .inl (congrArg Prod.fst (run_bind_ok _ hrun))
  | error cause => exact .inr ⟨cause, congrArg Prod.fst (run_bind_error _ hrun)⟩

end Attempts

/-! ## Scenarios -/

/-- The scenarios below a path. -/
def scenariosOf (store : FileStore) (cwd : Location) (root : Path) :
    Except HarnessError (List Scenario) := do
  (← discover store cwd root).mapM (Scenario.load (store.view cwd))

theorem loadAll_eq (store : FileStore) (cwd : Location) (roots : List Path) :
    loadAll store cwd roots =
      roots.mapM (scenariosOf store cwd) >>= fun found => .ok found.flatten := rfl

theorem flaw_of_loadAll (h : loadAll store site.setting.directory request.roots = .error e) :
    Flaw site store request e := by
  rw [loadAll_eq] at h
  rcases bind_eq_error.mp h with hroots | ⟨found, -, h⟩
  · obtain ⟨root, hroot, herror⟩ := exists_of_mapM_error hroots
    rcases bind_eq_error.mp herror with hsearch | ⟨found, hfound, herror⟩
    · exact .root hroot hsearch
    · obtain ⟨path, hpath, hload⟩ := exists_of_mapM_error herror
      exact .scenario hroot hfound hpath hload
  · cases h

theorem found_of_loadAll {roots : List Path} {scenarios : List Scenario}
    (h : loadAll store cwd roots = .ok scenarios) : ∀ root ∈ roots,
      ∃ found, discover store cwd root = .ok found ∧
        ∀ path ∈ found, ∃ s, Scenario.load (store.view cwd) path = .ok s := by
  rw [loadAll_eq] at h
  obtain ⟨all, hroots, -⟩ := bind_eq_ok.mp h
  intro root hroot
  obtain ⟨here, hhere⟩ := exists_of_mapM_ok hroots root hroot
  obtain ⟨found, hfound, hloaded⟩ := bind_eq_ok.mp hhere
  exact ⟨found, hfound, exists_of_mapM_ok hloaded⟩

/-! ## Runs -/

/-- The report of a suite in a run. -/
def runSuite (site : Site) (compiler : Path) (options : RunOptions) (s : Suite) :
    StateM Host SuiteReport :=
  s.run (Host.environment site.setting site.subject)
    { executable := compiler
      timeout := some (.ofSecs options.timeoutSecs)
      platform := site.platform }
    { workRoot := options.workRoot.getD (defaultWorkRoot site.setting)
      filter := options.filter
      jobs := options.jobs }
    site.turns

/-- The reports of the suites of scenarios, run one suite after the other. -/
def runReports (site : Site) (compiler : Path) (options : RunOptions) (scenarios : List Scenario) :
    StateM Host (List SuiteReport) :=
  (scenarios.map fun s => s.toSuite options.fixtures).mapM (runSuite site compiler options)

/-- The checks before a run. -/
def runChecks (site : Site) (store : FileStore) (compiler : Path) (options : RunOptions)
    (scenarios : List Scenario) : Except HarnessError Unit :=
  (scenarios.map fun s => s.toSuite options.fixtures).forM fun s =>
    s.preflight (store.view site.setting.directory) (site.setting.bindings.lookup "PATH") compiler

theorem flaw_of_runChecks {compiler : Path} {options : RunOptions} {paths : List Path}
    {scenarios : List Scenario} (hload : loadAll store site.setting.directory paths = .ok scenarios)
    (h : runChecks site store compiler options scenarios = .error e) :
    Flaw site store (.run compiler options paths) e := by
  obtain ⟨suite, hmem, hsuite⟩ := exists_of_forM_error h
  obtain ⟨s, hs, rfl⟩ := List.mem_map.mp hmem
  rcases Suite.exists_of_preflight_error hsuite with ⟨hmissing, rfl⟩ | ⟨f, hf, hmissing, rfl⟩
  · exact .compiler hload (List.ne_nil_of_mem hs) hmissing
  · exact .fixture hload hs hf hmissing

theorem not_flaw_of_loadAll {paths : List Path} {scenarios : List Scenario}
    (hload : loadAll store site.setting.directory paths = .ok scenarios) :
    ¬ Flaw site store (.list paths) e := by
  have hfound := found_of_loadAll hload
  intro hflaw
  cases hflaw with
  | root hroot herror =>
    obtain ⟨found, hok, -⟩ := hfound _ hroot
    rw [hok] at herror
    cases herror
  | scenario hroot hok hpath herror =>
    obtain ⟨found, hok', hall⟩ := hfound _ hroot
    obtain rfl : found = _ := Except.ok.inj (hok'.symm.trans hok)
    obtain ⟨s, hs⟩ := hall _ hpath
    rw [hs] at herror
    cases herror

theorem not_flaw_of_runChecks {compiler : Path} {options : RunOptions} {paths : List Path}
    {scenarios : List Scenario} (hload : loadAll store site.setting.directory paths = .ok scenarios)
    (h : runChecks site store compiler options scenarios = .ok ()) :
    ¬ Flaw site store (.run compiler options paths) e := by
  have hchecks : ∀ s ∈ scenarios,
      executableAvailable (store.view site.setting.directory) (site.setting.bindings.lookup "PATH")
        compiler = true ∧
      ∀ f ∈ (s.toSuite options.fixtures).fixtures,
        (store.view site.setting.directory).isFile f = true := fun s hs =>
    Suite.preflight_eq_ok_iff.mp (eq_ok_of_forM_ok h _ (List.mem_map.mpr ⟨s, hs, rfl⟩))
  intro hflaw
  cases hflaw with
  | root hroot herror => exact not_flaw_of_loadAll hload (.root hroot herror)
  | scenario hroot hok hpath herror =>
    exact not_flaw_of_loadAll hload (.scenario hroot hok hpath herror)
  | compiler hload' hne hmissing =>
    obtain rfl := Except.ok.inj (hload.symm.trans hload')
    obtain ⟨s, hs⟩ := List.exists_mem_of_ne_nil _ hne
    rw [(hchecks s hs).1] at hmissing
    cases hmissing
  | fixture hload' hs hf hmissing =>
    obtain rfl := Except.ok.inj (hload.symm.trans hload')
    rw [(hchecks _ hs).2 _ hf] at hmissing
    cases hmissing

/-! ## Inspections -/

/-- The inspection of a file. -/
def inspection (site : Site) (store : FileStore) (p : Path) : Except HarnessError Inspection :=
  match (store.view site.setting.directory).summarize p with
  | .ok summary => .ok (Inspection.ofSummary p summary site.platform)
  | .error cause => .error (.inspect p cause)

theorem inspection_eq_error (h : inspection site store p = .error e) :
    ∃ cause, (store.view site.setting.directory).summarize p = .error cause ∧ e = .inspect p cause := by
  unfold inspection at h
  split at h
  · cases h
  · rename_i cause hcause
    cases h
    exact ⟨cause, hcause, rfl⟩

theorem not_flaw_of_inspections {files : List Path} {format : Format} {inspections : List Inspection}
    (hfiles : files.mapM (inspection site store) = .ok inspections) :
    ¬ Flaw site store (.inspect files format) e := by
  intro hflaw
  cases hflaw with
  | root hroot => cases hroot
  | scenario hroot => cases hroot
  | file hp hcause =>
    obtain ⟨i, hi⟩ := exists_of_mapM_ok hfiles _ hp
    unfold inspection at hi
    rw [hcause] at hi
    cases hi

/-! ## Requests -/

/-- The exit status of a request that is carried out. That of a run is the one of its reports. -/
def Request.Ends (site : Site) (host : Host) (status : Nat) : Request → Prop
  | .run compiler options paths => ∃ scenarios,
    loadAll host.files site.setting.directory paths = .ok scenarios ∧
    status = exitStatus ((runReports site compiler options scenarios).run host).1
  | .list _ => status = 0
  | .inspect _ _ => status = 0

/-- What becomes of a request: something is wrong with it and nothing happens, whatever starting a
command would do; or nothing is wrong with it, and it comes to its end unless that cannot be written. -/
def Request.Settles (request : Request) (site : Site) (console : Console ω) (here : Host × ω) : Prop :=
  (∃ e, Flaw site here.1.files request e ∧ ∀ subject,
    (request.deliver { site with subject } console).run.run here = (.error e, here)) ∨
  (∀ e, ¬ Flaw site here.1.files request e) ∧ ∃ status, request.Ends site here.1 status ∧
    (((request.deliver site console).run.run here).1 = .ok status ∨
      ∃ cause, ((request.deliver site console).run.run here).1 = .error (.reportWrite cause))

/-- A run begins with the scenarios, and with the checks of all of them. -/
theorem run_runScenarios (site : Site) (console : Console ω) (compiler : Path) (options : RunOptions)
    (paths : List Path) (here : Host × ω) :
    (∀ e, loadAll here.1.files site.setting.directory paths = .error e →
      (runScenarios site console compiler options paths).run.run here = (.error e, here)) ∧
    ∀ scenarios, loadAll here.1.files site.setting.directory paths = .ok scenarios →
      (∀ e, runChecks site here.1.files compiler options scenarios = .error e →
        (runScenarios site console compiler options paths).run.run here = (.error e, here)) ∧
      (runChecks site here.1.files compiler options scenarios = .ok () → ∃ pieces streams,
        (runScenarios site console compiler options paths).run.run here =
          (do Attempt.write console pieces
              return exitStatus ((runReports site compiler options scenarios).run here.1).1 :
            Attempt ω Nat).run.run (((runReports site compiler options scenarios).run here.1).2, streams)) := by
  have hbelow : (scenariosBelow site paths : Attempt ω (List Scenario)).run.run here =
      (loadAll here.1.files site.setting.directory paths, here) := run_look _ here
  unfold runScenarios
  constructor
  · intro e hload
    exact run_bind_error _ (hbelow.trans (by rw [hload]))
  · intro scenarios hload
    have hforM := run_forM_look (fun (s : Suite) host => s.preflight
      (host.files.view site.setting.directory) (site.setting.bindings.lookup "PATH") compiler)
      (scenarios.map fun s => s.toSuite options.fixtures) here
    rw [run_bind_ok _ (hbelow.trans (by rw [hload]))]
    constructor
    · intro e hchecks
      exact run_bind_error _ (hforM.trans (congrArg (·, here) hchecks))
    · intro hchecks
      obtain ⟨streams, hruns⟩ := run_mapM_act (runSuite site compiler options) console options.verbose
        SuiteReport.progress (scenarios.map fun s => s.toSuite options.fixtures) here
      have hdone := fun go : Unit → Attempt ω Nat =>
        run_bind_ok go (hforM.trans (congrArg (·, here) hchecks))
      -- both reporters return the same status
      cases options.format with
      | console => exact ⟨_, streams, (hdone _).trans ((run_bind_ok _ hruns).trans rfl)⟩
      | json => exact ⟨_, streams, (hdone _).trans ((run_bind_ok _ hruns).trans rfl)⟩

theorem Request.settles_run (site : Site) (console : Console ω) (compiler : Path) (options : RunOptions)
    (paths : List Path) (here : Host × ω) :
    (Request.run compiler options paths).Settles site console here := by
  have hrun := fun subject => run_runScenarios { site with subject } console compiler options paths here
  cases hload : loadAll here.1.files site.setting.directory paths with
  | error e => exact .inl ⟨e, flaw_of_loadAll hload, fun subject => (hrun subject).1 e hload⟩
  | ok scenarios =>
    cases hchecks : runChecks site here.1.files compiler options scenarios with
    | error e => exact .inl ⟨e, flaw_of_runChecks hload hchecks,
        fun subject => ((hrun subject).2 scenarios hload).1 e hchecks⟩
    | ok u =>
      obtain ⟨pieces, streams, hfinished⟩ := ((hrun site.subject).2 scenarios hload).2 hchecks
      refine .inr ⟨fun _ => not_flaw_of_runChecks hload hchecks, _, ⟨scenarios, hload, rfl⟩, ?_⟩
      show ((runScenarios site console compiler options paths).run.run here).1 = _ ∨ ∃ cause,
        ((runScenarios site console compiler options paths).run.run here).1 = _
      rw [hfinished]
      exact answer_write console pieces _ _

theorem Request.settles_list (site : Site) (console : Console ω) (paths : List Path) (here : Host × ω) :
    (Request.list paths).Settles site console here := by
  have hbelow : ∀ subject, (scenariosBelow { site with subject } paths :
      Attempt ω (List Scenario)).run.run here =
        (loadAll here.1.files site.setting.directory paths, here) := fun _ => run_look _ here
  cases hload : loadAll here.1.files site.setting.directory paths with
  | error e =>
    rw [hload] at hbelow
    exact .inl ⟨e, flaw_of_loadAll hload, fun subject => run_bind_error _ (hbelow subject)⟩
  | ok scenarios =>
    rw [hload] at hbelow
    refine .inr ⟨fun _ => not_flaw_of_loadAll hload, 0, rfl, ?_⟩
    show ((listScenarios site console paths).run.run here).1 = _ ∨ ∃ cause,
      ((listScenarios site console paths).run.run here).1 = _
    unfold listScenarios
    rw [run_bind_ok _ (hbelow site.subject)]
    exact answer_write console _ 0 here

theorem Request.settles_inspect (site : Site) (console : Console ω) (files : List Path) (format : Format)
    (here : Host × ω) : (Request.inspect files format).Settles site console here := by
  have hfound : ∀ subject, (files.mapM fun p => (.look fun host =>
      inspection { site with subject } host.files p : Attempt ω Inspection)).run.run here =
        (files.mapM (inspection site here.1.files), here) := fun subject =>
    run_mapM_look (fun p host => inspection { site with subject } host.files p) files here
  cases hfiles : files.mapM (inspection site here.1.files) with
  | error e =>
    obtain ⟨p, hp, herror⟩ := exists_of_mapM_error hfiles
    obtain ⟨cause, hcause, rfl⟩ := inspection_eq_error herror
    rw [hfiles] at hfound
    exact .inl ⟨_, .file hp hcause, fun subject => run_bind_error _ (hfound subject)⟩
  | ok inspections =>
    rw [hfiles] at hfound
    refine .inr ⟨fun _ => not_flaw_of_inspections hfiles, 0, rfl, ?_⟩
    show ((inspectFiles site console files format).run.run here).1 = _ ∨ ∃ cause,
      ((inspectFiles site console files format).run.run here).1 = _
    rw [show (inspectFiles site console files format).run.run here = _ from
      run_bind_ok _ (hfound site.subject)]
    exact answer_write console _ 0 here

/-- **A request fails exactly if something is wrong with it.** -/
theorem Request.settles (request : Request) (site : Site) (console : Console ω) (here : Host × ω) :
    request.Settles site console here := by
  cases request with
  | run compiler options paths => exact settles_run site console compiler options paths here
  | list paths => exact settles_list site console paths here
  | inspect files format => exact settles_inspect site console files format here

/-! ## Exit statuses -/

theorem passed_iff (report : SuiteReport) :
    report.passed = true ↔ ∀ r ∈ report.reports, r.isSkipped = true ∨ r.passed = true := by
  simp only [SuiteReport.passed, Report.isFailed, Bool.not_eq_true', List.any_eq_false,
    Bool.and_eq_true, not_and]
  refine forall₂_congr fun r _ => ?_
  cases r.isSkipped <;> cases r.passed <;> simp

theorem exitStatus_eq_zero_iff (reports : List SuiteReport) : exitStatus reports = 0 ↔
    ∀ report ∈ reports, ∀ r ∈ report.reports, r.isSkipped = true ∨ r.passed = true := by
  unfold exitStatus
  simp only [← passed_iff, ← List.all_eq_true]
  split <;> simp_all

theorem exitStatus_eq_one {reports : List SuiteReport} (h : exitStatus reports ≠ 0) :
    exitStatus reports = 1 := by
  unfold exitStatus at h ⊢
  split at h
  · exact absurd rfl h
  · rename_i hfailed
    rw [if_neg hfailed]

theorem forall₂_run_mapM {σ : Type} {f : α → StateM σ β} {R : α → β → Prop}
    (hf : ∀ x st, R x ((f x).run st).1) (xs : List α) (st : σ) :
    List.Forall₂ R xs ((xs.mapM f).run st).1 := by
  induction xs generalizing st with
  | nil => exact .nil
  | cons x xs ih =>
    rw [List.mapM_cons]
    exact .cons (hf x st) (ih ((f x).run st).2)

theorem names_run {σ : Type} (s : Suite) (env : Environment σ) (config : RunnerConfig)
    (options : SuiteOptions) (turns : Nat → Nat) (st : σ) :
    ((s.run env config options turns).run st).1.suite = s.name ∧
      ((s.run env config options turns).run st).1.reports.map Report.case =
        s.cases.map TestCase.name := by
  obtain ⟨reports, done, st', hrun, hserved, -⟩ := s.run_served_reported env config options turns st
  rw [hrun]
  exact ⟨rfl, hserved.names⟩

theorem names_runReports (site : Site) (compiler : Path) (options : RunOptions)
    (scenarios : List Scenario) (host : Host) :
    List.Forall₂ (fun (s : Scenario) (report : SuiteReport) => report.suite = s.name ∧
        report.reports.map Report.case = s.file.cases.map CaseSpec.name)
      scenarios ((runReports site compiler options scenarios).run host).1 := by
  have hsuite : ∀ (s : Suite) st, ((runSuite site compiler options s).run st).1.suite = s.name ∧
      ((runSuite site compiler options s).run st).1.reports.map Report.case =
        s.cases.map TestCase.name :=
    fun s st => names_run s _ _ _ _ st
  have hnames := forall₂_run_mapM (R := fun (s : Suite) (report : SuiteReport) =>
      report.suite = s.name ∧ report.reports.map Report.case = s.cases.map TestCase.name)
    hsuite (scenarios.map fun s => s.toSuite options.fixtures) host
  refine (List.forall₂_map_left_iff.mp hnames).imp ?_
  rintro s report ⟨hsuite, hcases⟩
  refine ⟨hsuite, ?_⟩
  rw [hcases]
  show (s.file.cases.map CaseSpec.toCase).map TestCase.name = _
  rw [List.map_map]
  rfl

/-! ## Faults -/

/-- **A request that fails has done nothing**, unless it failed to write what it came to: something
was wrong with it, no command was started, and the host and the streams are as they were. Whatever is
wrong, the request fails. The exit status of a run is zero if every case of every suite was skipped
or passed, and one otherwise; that of any other request is zero. -/
theorem Request.deliver_faults (request : Request) (site : Site) (console : Console ω) (host : Host)
    (streams : ω) :
    (∀ e, ((request.deliver site console).run.run (host, streams)).1 = .error e →
      (∀ cause, e ≠ .reportWrite cause) →
      Flaw site host.files request e ∧ ∀ subject,
        (request.deliver { site with subject } console).run.run (host, streams) =
          (.error e, host, streams)) ∧
    ((∃ e, Flaw site host.files request e) → ∃ e, (∀ cause, e ≠ .reportWrite cause) ∧
      ((request.deliver site console).run.run (host, streams)).1 = .error e) ∧
    ∀ status, ((request.deliver site console).run.run (host, streams)).1 = .ok status →
      match request with
      | .run compiler options paths => ∃ scenarios reports,
        loadAll host.files site.setting.directory paths = .ok scenarios ∧
        reports = ((runReports site compiler options scenarios).run host).1 ∧
        List.Forall₂ (fun (s : Scenario) (report : SuiteReport) => report.suite = s.name ∧
          report.reports.map Report.case = s.file.cases.map CaseSpec.name) scenarios reports ∧
        (status = 0 ↔
          ∀ report ∈ reports, ∀ r ∈ report.reports, r.isSkipped = true ∨ r.passed = true) ∧
        (status ≠ 0 → status = 1)
      | _ => status = 0 := by
  rcases request.settles site console (host, streams) with
    ⟨e, hflaw, hfails⟩ | ⟨hfine, finished, hends, hanswer⟩
  · have hanswer : ((request.deliver site console).run.run (host, streams)).1 = .error e :=
      congrArg Prod.fst (hfails site.subject)
    refine ⟨fun e' herror _ => ?_, fun _ => ⟨e, hflaw.ne_reportWrite, hanswer⟩, fun status hok => ?_⟩
    · obtain rfl : e = e' := Except.error.inj (hanswer.symm.trans herror)
      exact ⟨hflaw, hfails⟩
    · rw [hanswer] at hok
      cases hok
  · refine ⟨fun e herror hne => ?_, fun ⟨e, hflaw⟩ => absurd hflaw (hfine e), fun status hok => ?_⟩
    · rcases hanswer with hanswer | ⟨cause, hanswer⟩
      · rw [hanswer] at herror
        cases herror
      · exact absurd (Except.error.inj (herror.symm.trans hanswer)) (hne cause)
    · obtain rfl : finished = status := by
        rcases hanswer with hanswer | ⟨cause, hanswer⟩
        · exact Except.ok.inj (hanswer.symm.trans hok)
        · rw [hanswer] at hok
          cases hok
      cases request with
      | run compiler options paths =>
        obtain ⟨scenarios, hload, rfl⟩ := hends
        exact ⟨scenarios, _, hload, rfl, names_runReports _ _ _ _ _, exitStatus_eq_zero_iff _,
          exitStatus_eq_one⟩
      | list paths => exact hends
      | inspect files format => exact hends

end Conformance.CommandLine
