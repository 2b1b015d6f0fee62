import Conformance.Proofs.Suite.Reports
import Conformance.Proofs.Suite.Stage

/-!
# Recorded commands

A system whose commands are recorded answers as before, and a case that is run in it leaves the command
of its plan in the record.

* `Environment.recorded` : a system with a record of the commands that are started;
* `Records` : two programs do the same, and one of them adds certain commands to the record;
* `Suite.records_runCase` : a case adds the command of its plan if its report tells of a run, and none
  otherwise;
* `Serial.recorded` : so do cases that are run one after another;
* `Suite.run_recorded` : the commands of a whole run are those of its cases, in the order in which they ran.
-/

namespace Conformance

variable {σ α β ω : Type}

/-! ## Systems with a record -/

/-- A program beside which something is kept. -/
def beside {ε : Type} (a : ExceptT ε (StateM σ) α) : ExceptT ε (StateM (σ × ω)) α :=
  ExceptT.mk fun s => ((a.run.run s.1).1, (a.run.run s.1).2, s.2)

/-- A process beside which something is kept. -/
def Process.beside (p : Process σ) : Process (σ × ω) where
  wait := p.wait
  poll := p.poll
  elapsed := p.elapsed
  settle waited := fun s => (((p.settle waited).run s.1).1, ((p.settle waited).run s.1).2, s.2)

/-- A system with a record of the commands that are started. -/
def Environment.recorded (env : Environment σ) : Environment (σ × List Command) where
  workingDirectory := env.workingDirectory
  searchPath := env.searchPath
  view s := env.view s.1
  makeDirectories p := beside (env.makeDirectories p)
  makeFresh parent start := beside (env.makeFresh parent start)
  copyFile source target := beside (env.copyFile source target)
  removeTree p := beside (env.removeTree p)
  spawn command := ExceptT.mk fun s =>
    ((((env.spawn command).run.run s.1).1).map Process.beside, ((env.spawn command).run.run s.1).2,
      s.2 ++ [command])
  refusedAfter s := env.refusedAfter s.1

/-! ## Programs with a record -/

/-- The second program does the same as the first, and adds commands to the record that go with what
it returns. -/
def Records (m : StateM σ α) (m' : StateM (σ × List Command) α) (P : α → List Command → Prop) : Prop :=
  ∀ st, ∃ commands, P (m.run st).1 commands ∧
    ∀ log, m'.run (st, log) = ((m.run st).1, (m.run st).2, log ++ commands)

namespace Records

variable {m : StateM σ α} {m' : StateM (σ × List Command) α} {P : α → List Command → Prop}
  {f : α → StateM σ β} {f' : α → StateM (σ × List Command) β} {Q : β → List Command → Prop}

theorem of_pure {a : α} (h : P a []) : Records (pure a : StateM σ α) (pure a) P :=
  fun _ => ⟨[], h, fun log => by rw [List.append_nil]; rfl⟩

/-- One program after another. -/
theorem bind (h : Records m m' P) (hf : ∀ a commands, P a commands →
    Records (f a) (f' a) fun b commands' => Q b (commands ++ commands')) :
    Records (m >>= f) (m' >>= f') Q := by
  intro st
  obtain ⟨commands, hP, hrun⟩ := h st
  obtain ⟨commands', hQ, hrun'⟩ := hf _ _ hP (m.run st).2
  refine ⟨commands ++ commands', hQ, fun log => ?_⟩
  rw [StateT.run_bind, hrun log]
  show (f' _).run ((m.run st).2, log ++ commands) = _
  rw [hrun' (log ++ commands), List.append_assoc]
  rfl

/-- A program that nothing is recorded of. -/
theorem of_beside {ε : Type} (a : ExceptT ε (StateM σ) α) :
    Records a.run (beside a).run fun _ commands => commands = [] :=
  fun st => ⟨[], rfl, fun log => by rw [List.append_nil]; rfl⟩

end Records

/-! ## Workspaces -/

section Beside

variable {ε ε' : Type} {a : ExceptT ε (StateM σ) α} {f : α → ExceptT ε (StateM σ) β}

theorem run_beside (st : σ) (kept : ω) : (beside a : ExceptT ε (StateM (σ × ω)) α).run.run (st, kept) =
    ((a.run.run st).1, (a.run.run st).2, kept) := rfl

theorem beside_bind : (beside (a >>= f) : ExceptT ε (StateM (σ × ω)) β) =
    beside a >>= fun x => beside (f x) := by
  funext s
  obtain ⟨st, kept⟩ := s
  show (beside (a >>= f) : ExceptT ε (StateM (σ × ω)) β).run.run (st, kept) =
    (beside a >>= fun x => beside (f x)).run.run (st, kept)
  rw [run_beside, ExceptT.run_bind, ExceptT.run_bind, StateT.run_bind, StateT.run_bind, run_beside]
  obtain ⟨answer, st₁⟩ := a.run.run st
  cases answer <;> rfl

theorem beside_adapt (tell : ε → ε') : (beside (ExceptT.adapt tell a) : ExceptT ε' (StateM (σ × ω)) α) =
    ExceptT.adapt tell (beside a) := rfl

end Beside

variable {env : Environment σ} {ws : Workspace}

theorem create_recorded (parent : Path) (name : String) :
    Workspace.create env.recorded parent name = beside (Workspace.create env parent name) := by
  unfold Workspace.create
  rw [beside_adapt, beside_bind]
  refine congrArg (ExceptT.adapt _) (bind_congr fun _ => ?_)
  rw [beside_bind]
  rfl

theorem copyFixture_recorded (fixture : Path) :
    ws.copyFixture env.recorded fixture = beside (ws.copyFixture env fixture) := by
  unfold Workspace.copyFixture
  cases fixture.fileName? with
  | none => rfl
  | some name =>
    dsimp only
    rw [beside_bind]
    rfl

theorem copyFixtures_recorded (fixtures : List Path) :
    ws.copyFixtures env.recorded fixtures = beside (ws.copyFixtures env fixtures) := by
  unfold Workspace.copyFixtures
  rw [beside_adapt]
  refine congrArg (ExceptT.adapt _) ?_
  rw [List.forM_eq_forM, List.forM_eq_forM]
  induction fixtures with
  | nil => rfl
  | cons fixture fixtures ih =>
    rw [List.forM_cons, List.forM_cons, beside_bind, beside_bind, ← ih, copyFixture_recorded]
    rfl

/-! ## Cases -/

section Cases

variable {config : RunnerConfig} {plan : Plan} {c : TestCase} {place : Path} {limit : Option Duration}

theorem awaitWithin_beside (p : Process σ) (limit : Duration) (more k : Nat) :
    (p.beside : Process (σ × ω)).awaitWithin limit more k = p.awaitWithin limit more k := by
  induction more generalizing k with
  | zero =>
    unfold Process.awaitWithin
    rfl
  | succ more ih =>
    unfold Process.awaitWithin
    simp only [ih]
    rfl

theorem await_beside (p : Process σ) : (p.beside : Process (σ × ω)).await limit = p.await limit := by
  cases limit with
  | none => rfl
  | some limit => exact awaitWithin_beside p limit _ 0

theorem records_perform (command : Command) :
    Records ((env.spawn command).perform limit) ((env.recorded.spawn command).perform limit)
      fun _ commands => commands = [command] := by
  intro st
  refine ⟨[command], rfl, fun log => ?_⟩
  have hrecorded : (env.recorded.spawn command).run.run (st, log) =
      (((env.spawn command).run.run st).1.map Process.beside, ((env.spawn command).run.run st).2,
        log ++ [command]) := rfl
  unfold Action.perform
  cases h : (env.spawn command).run.run st with
  | mk answer st₁ =>
    rw [h] at hrecorded
    rw [run_bind_eq h, run_bind_eq hrecorded]
    cases answer with
    | error e => rfl
    | ok process =>
      -- waiting looks at the process only, and settling does not start another one
      dsimp only [Except.map]
      rw [await_beside]
      rfl

theorem argv_performedResult (program : Path) (refusedAfter : Duration) (answer : Performance) :
    (performedResult config plan place limit program refusedAfter answer).argv =
      config.executable.text :: plan.argv := by
  rcases answer with e | ⟨waited, captured⟩
  · rfl
  · rcases waited with e | status | elapsed <;> rfl

theorem records_execute : Records (execute env config plan place limit)
    (execute env.recorded config plan place limit) fun result commands =>
      commands = [commandFor env config plan place] ∧
        result.argv = config.executable.text :: plan.argv := by
  rw [execute_eq, execute_eq]
  refine (records_perform (commandFor env config plan place)).bind fun answer commands hcommands => ?_
  intro st
  refine ⟨[], ⟨?_, argv_performedResult _ _ _⟩, fun log => ?_⟩
  · rw [hcommands]
    rfl
  · rw [List.append_nil]
    rfl

/-- What a report tells of a run, and the commands that were started for it. -/
def Ran (env : Environment σ) (config : RunnerConfig) (plan : Plan) (r : Report)
    (commands : List Command) : Prop :=
  r.run = none ∧ commands = [] ∨ ∃ run place, r.run = some run ∧
    run.argv = config.executable.text :: plan.argv ∧ commands = [commandFor env config plan place]

theorem records_run : Records (c.run env config place) (c.run env.recorded config place)
    (Ran env config c.plan) := by
  unfold TestCase.run
  refine records_execute.bind fun result commands hresult => ?_
  intro st
  refine ⟨[], .inr ⟨.ofResult result, place, rfl, hresult.2, ?_⟩, fun log => ?_⟩
  · rw [List.append_nil, hresult.1]
  · rw [List.append_nil]
    rfl

theorem ran_setupFailure (c : TestCase) (e : HarnessError) : Ran env config c.plan (c.setupFailure e) [] :=
  .inl ⟨rfl, rfl⟩

theorem Suite.records_runIsolated (s : Suite) (workRoot : Path) :
    Records (s.runIsolated env config workRoot c) (s.runIsolated env.recorded config workRoot c)
      (Ran env config c.plan) := by
  unfold Suite.runIsolated
  rw [create_recorded]
  refine (Records.of_beside _).bind fun made commands hmade => ?_
  subst hmade
  cases made with
  | error e => exact .of_pure (ran_setupFailure c e)
  | ok ws =>
    dsimp only
    rw [copyFixtures_recorded]
    refine (Records.of_beside _).bind fun copied commands hcopied => ?_
    subst hcopied
    cases copied with
    | error e =>
      have hdrop : Records (ws.drop env) (ws.drop env.recorded) fun _ commands => commands = [] :=
        (Records.of_beside (env.removeTree ws.path)).bind fun _ _ h => .of_pure (by rw [h]; rfl)
      refine hdrop.bind fun _ commands hdropped => ?_
      subst hdropped
      exact .of_pure (ran_setupFailure c e)
    | ok =>
      refine records_run.bind fun report commands hran => ?_
      refine (Records.of_beside (ws.close env)).bind fun removed commands' hremoved => ?_
      subst hremoved
      -- nothing is recorded while the workspace is removed
      rw [← List.append_nil commands] at hran
      cases removed with
      | ok => exact .of_pure hran
      | error e => exact .of_pure hran

theorem Suite.records_runCase (s : Suite) (options : SuiteOptions) :
    Records (s.runCase env config options c) (s.runCase env.recorded config options c)
      (Ran env config c.plan) := by
  unfold Suite.runCase
  cases Suite.skipReason c config.platform options.filter with
  | some reason => exact .of_pure (.inl ⟨rfl, rfl⟩)
  | none => exact s.records_runIsolated options.workRoot

end Cases

/-! ## Whole runs -/

/-- The second program does the same as the first, whatever it adds to the record. -/
abbrev Mirrors (m : StateM σ α) (m' : StateM (σ × List Command) α) : Prop := Records m m' fun _ _ => True

theorem Records.mirrors {m : StateM σ α} {m' : StateM (σ × List Command) α} {P : α → List Command → Prop}
    (h : Records m m' P) : Mirrors m m' := by
  intro st
  obtain ⟨commands, -, hrun⟩ := h st
  exact ⟨commands, trivial, hrun⟩

theorem mirrors_pure (a : α) : Mirrors (pure a : StateM σ α) (pure a) := .of_pure trivial

theorem Mirrors.bind {m : StateM σ α} {m' : StateM (σ × List Command) α} {f : α → StateM σ β}
    {f' : α → StateM (σ × List Command) β} (h : Mirrors m m') (hf : ∀ a, Mirrors (f a) (f' a)) :
    Mirrors (m >>= f) (m' >>= f') := Records.bind h fun a _ _ => hf a

section Jobs

variable {ρ : Type} {jobs : List α} {work : α → StateM σ ρ} {work' : α → StateM (σ × List Command) ρ}
  {P : α → ρ → List Command → Prop}

theorem mirrors_mapM (hwork : ∀ job, Mirrors (work job) (work' job)) (jobs : List α) :
    Mirrors (jobs.mapM work) (jobs.mapM work') := by
  induction jobs with
  | nil => exact mirrors_pure []
  | cons job jobs ih =>
    rw [List.mapM_cons, List.mapM_cons]
    exact Mirrors.bind (hwork job) fun r => Mirrors.bind ih fun rs => mirrors_pure (r :: rs)

theorem Pool.mirrors_step (hwork : ∀ job, Mirrors (work job) (work' job)) (w : Nat) (p : Pool ρ) :
    Mirrors (p.step jobs work w) (p.step jobs work' w) := by
  unfold step
  -- nothing is recorded but while a job is done
  rcases p.workers[w]? with _ | _ | i | ⟨i, r⟩ | _
  · exact mirrors_pure _
  · exact mirrors_pure _
  · dsimp only
    cases jobs[i]? with
    | some job => exact Mirrors.bind (hwork job) fun r => mirrors_pure (p.set w (.finished i r))
    | none => exact mirrors_pure _
  · exact mirrors_pure _
  · exact mirrors_pure _

theorem Pool.mirrors_run (hwork : ∀ job, Mirrors (work job) (work' job)) (turns : Nat → Nat)
    (more t : Nat) (p : Pool ρ) :
    Mirrors (Pool.run jobs work turns more t p) (Pool.run jobs work' turns more t p) := by
  induction more generalizing t p with
  | zero => exact mirrors_pure p
  | succ more ih =>
    unfold run
    cases p.active[turns t % p.active.length]? with
    | none => exact mirrors_pure p
    | some w => exact Mirrors.bind (mirrors_step hwork w p) fun p' => ih (t + 1) p'

theorem Pool.mirrors_runAll (hwork : ∀ job, Mirrors (work job) (work' job)) (workers : Nat)
    (turns : Nat → Nat) : Mirrors (runAll jobs workers work turns) (runAll jobs workers work' turns) :=
  Mirrors.bind (mirrors_run hwork turns _ _ _) fun p => mirrors_pure p.slots

/-- Jobs that are done one after another leave the commands of each in the record. -/
theorem Serial.recorded (hwork : ∀ job, Records (work job) (work' job) (P job)) {st : σ}
    {done : List (Nat × ρ)} {last : σ × List Command}
    (h : Serial (Does jobs work') (st, []) done last) :
    Serial (Does jobs work) st done last.1 ∧ ∃ logs,
      List.Forall₂ (fun (d : Nat × ρ) commands => ∃ job, jobs[d.1]? = some job ∧ P job d.2 commands)
        done logs ∧ last.2 = logs.flatten := by
  induction h with
  | refl => exact ⟨.refl, [], .nil, rfl⟩
  | @snoc done i r before after _ next ih =>
    obtain ⟨hserial, logs, hlogs, hflatten⟩ := ih
    obtain ⟨job, hjob, hrun⟩ := next
    obtain ⟨commands, hP, hsame⟩ := hwork job before.1
    obtain ⟨rfl, rfl⟩ := Prod.mk.inj (hrun.symm.trans (hsame before.2))
    refine ⟨hserial.snoc ⟨job, hjob, rfl⟩, logs ++ [commands], ?_, ?_⟩
    · exact List.rel_append hlogs (.cons ⟨job, hjob, hP⟩ .nil)
    · rw [hflatten, List.flatten_append, List.flatten_singleton]

end Jobs

section Suites

variable (s : Suite) (env : Environment σ) (config : RunnerConfig) (options : SuiteOptions)

theorem Suite.mirrors_run (turns : Nat → Nat) :
    Mirrors (s.run env config options turns) (s.run env.recorded config options turns) := by
  have hwork : ∀ c, Mirrors (s.runCase env config options c) (s.runCase env.recorded config options c) :=
    fun c => (s.records_runCase options).mirrors
  unfold run
  by_cases hone : s.workerCount options = 1
  · simp only [if_pos hone]
    exact Mirrors.bind (mirrors_mapM hwork s.cases) fun reports => mirrors_pure (SuiteReport.mk s.name reports)
  · simp only [if_neg hone]
    refine Mirrors.bind (Mirrors.bind (Pool.mirrors_runAll hwork _ turns) fun slots => ?_) fun reports => ?_
    · exact mirrors_pure (collectReports s.cases slots)
    · exact mirrors_pure (SuiteReport.mk s.name reports)

/-- **The commands of a run are those of its cases.** Each case that is run leaves the command of its plan,
and the cases run one after another, up to the last state of the run. -/
theorem Suite.run_recorded (turns : Nat → Nat) (st : σ) : ∃ reports done st' logs,
    (s.run env config options turns).run st = (⟨s.name, reports⟩, st') ∧
      (∀ log, (s.run env.recorded config options turns).run (st, log) =
        (⟨s.name, reports⟩, st', log ++ logs.flatten)) ∧
      Served s.cases.length (s.ReportedAt env config options) st done reports st' ∧
      (s.workerCount options = 1 → done.map Prod.fst = List.range s.cases.length) ∧
      List.Forall₂ (fun i commands => ∃ c r, s.cases[i]? = some c ∧ reports[i]? = some r ∧
        Ran env config c.plan r commands) (done.map Prod.fst) logs := by
  obtain ⟨reports, done, last, hrun, hserved, horder⟩ :=
    s.run_served env.recorded config options turns (st, [])
  obtain ⟨commands, -, hsame⟩ := s.mirrors_run env config options turns st
  have hwork : ∀ c, Records (s.runCase env config options c) (s.runCase env.recorded config options c)
      (Ran env config c.plan) := fun c => s.records_runCase options
  obtain ⟨hserial, logs, hlogs, hflatten⟩ := hserved.serial.recorded hwork
  -- the run with a record is the run without one, so its cases are done alike
  obtain ⟨hreports, rfl⟩ := Prod.mk.inj (hrun.symm.trans (hsame []))
  obtain rfl : commands = logs.flatten := hflatten
  refine ⟨reports, done, _, logs, Prod.ext hreports.symm rfl, fun log => ?_, ?_, horder, ?_⟩
  · rw [hsame log, ← hreports]
  · refine Served.imp ⟨hserial, hserved.once, hserved.length, hserved.result_iff⟩ ?_
    rintro i before r after ⟨c, hc, hanswer⟩
    exact ⟨c, hc, s.runCase_reported env config options c hanswer⟩
  · obtain ⟨hlength, hzip⟩ := List.forall₂_iff_zip.mp hlogs
    refine List.forall₂_map_left_iff.mpr (List.forall₂_iff_zip.mpr ⟨hlength, fun {d commands} hmem => ?_⟩)
    obtain ⟨c, hc, hran⟩ := hzip hmem
    exact ⟨c, d.2, hc, (hserved.result_iff d.1 d.2).mp (List.of_mem_zip hmem).1, hran⟩

end Suites

end Conformance
