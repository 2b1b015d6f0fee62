import Conformance.Suite.Run

/-!
# The course of a case

What a system answers while a case runs in a workspace of its own, and how the run goes on from there.

* `Action.Answers` : what an operation answers in a state;
* `Making`, `Copying`, `Launching` : the operations that prepare a workspace and run a compiler in it;
* `Course`, `Takes` : the course that a case takes from a state; `exists_takes` : it takes one;
* `Course.Clean` : nothing went wrong on the way.
-/

namespace Conformance

variable {σ : Type}

/-! ## Answers -/

theorem run_bind_eq {α β : Type} {m : StateM σ α} {f : α → StateM σ β} {st st₁ : σ} {x : α}
    (h : m.run st = (x, st₁)) : (m >>= f).run st = (f x).run st₁ := by
  rw [StateT.run_bind, h]
  rfl

namespace Action

variable {α β : Type} {a : Action σ α} {f : α → Action σ β} {st st₁ st' : σ}

/-- The answer of an operation in a state, and the state that it leaves behind. -/
def Answers (a : Action σ α) (st : σ) (answer : Except Cause α) (st' : σ) : Prop :=
  a.run.run st = (answer, st')

theorem exists_answers (a : Action σ α) (st : σ) : ∃ answer st', a.Answers st answer st' :=
  ⟨_, _, rfl⟩

theorem answers_pure (x : α) (st : σ) : Action.Answers (pure x) st (.ok x) st := rfl

theorem Answers.bind {x : α} {answer : Except Cause β} (h : a.Answers st (.ok x) st₁)
    (h' : (f x).Answers st₁ answer st') : Action.Answers (a >>= f) st answer st' := by
  unfold Answers at *
  rw [ExceptT.run_bind, StateT.run_bind, h]
  exact h'

theorem Answers.bind_error {e : Cause} (h : a.Answers st (.error e) st') :
    Action.Answers (a >>= f) st (.error e) st' := by
  unfold Answers at *
  rw [ExceptT.run_bind, StateT.run_bind, h]
  rfl

/-- The answer of an operation whose error is told in other words. -/
theorem Answers.run_adapt {ε : Type} {answer : Except Cause α} (h : a.Answers st answer st')
    (tell : Cause → ε) : (ExceptT.adapt tell a).run.run st = (answer.mapError tell, st') := by
  calc (ExceptT.adapt tell a).run.run st
    _ = ((a.run.run st).1.mapError tell, (a.run.run st).2) := rfl
    _ = (answer.mapError tell, st') := by rw [h]

end Action

/-! ## Preparing a workspace -/

/-- A fresh directory is made, or is not: its parents may be refused, and so may the directory. -/
inductive Making (env : Environment σ) (parent : Path) (start : String) :
    σ → Except Cause Path → σ → Prop where
  | noParents {st st' : σ} {e : Cause}
    (refused : (env.makeDirectories parent).Answers st (.error e) st') :
    Making env parent start st (.error e) st'
  | fresh {st st₁ st' : σ} {answer : Except Cause Path}
    (parents : (env.makeDirectories parent).Answers st (.ok ()) st₁)
    (answered : (env.makeFresh parent start).Answers st₁ answer st') :
    Making env parent start st answer st'

theorem exists_making (env : Environment σ) (parent : Path) (start : String) (st : σ) :
    ∃ answer st', Making env parent start st answer st' := by
  obtain ⟨made, st₁, hmade⟩ := (env.makeDirectories parent).exists_answers st
  cases made with
  | error e => exact ⟨_, _, .noParents hmade⟩
  | ok =>
    obtain ⟨answer, st', hanswer⟩ := (env.makeFresh parent start).exists_answers st₁
    exact ⟨_, _, .fresh hmade hanswer⟩

/-- A workspace is created if its directory is made. -/
theorem Making.run_create {env : Environment σ} {parent : Path} {name : String} {st st' : σ}
    {answer : Except Cause Path} (h : Making env parent (Workspace.nameStart name) st answer st') :
    (Workspace.create env parent name).run.run st =
      ((answer.map Workspace.mk).mapError (HarnessError.workspace parent), st') := by
  refine Action.Answers.run_adapt ?_ _
  cases h with
  | noParents refused => exact refused.bind_error
  | fresh parents answered =>
    refine parents.bind ?_
    cases answer with
    | error e => exact answered.bind_error
    | ok path => exact answered.bind (Action.answers_pure _ _)

/-- Fixtures are copied one after another, up to the first that has no name or is refused. -/
inductive Copying (env : Environment σ) (ws : Path) :
    List Path → σ → Except Cause Unit → σ → Prop where
  | nil {st : σ} : Copying env ws [] st (.ok ()) st
  | unnamed {fixture : Path} {fixtures : List Path} {st : σ} (unnamed : fixture.fileName? = none) :
    Copying env ws (fixture :: fixtures) st (.error (.noFileName fixture)) st
  | refused {fixture : Path} {fixtures : List Path} {name : String} {st st' : σ} {e : Cause}
    (named : fixture.fileName? = some name)
    (refused : (env.copyFile fixture (ws.join ⟨name⟩)).Answers st (.error e) st') :
    Copying env ws (fixture :: fixtures) st (.error e) st'
  | copied {fixture : Path} {fixtures : List Path} {name : String} {st st₁ st' : σ}
    {answer : Except Cause Unit} (named : fixture.fileName? = some name)
    (copied : (env.copyFile fixture (ws.join ⟨name⟩)).Answers st (.ok ()) st₁)
    (rest : Copying env ws fixtures st₁ answer st') :
    Copying env ws (fixture :: fixtures) st answer st'

theorem exists_copying (env : Environment σ) (ws : Path) (fixtures : List Path) (st : σ) :
    ∃ answer st', Copying env ws fixtures st answer st' := by
  induction fixtures generalizing st with
  | nil => exact ⟨_, _, .nil⟩
  | cons fixture fixtures ih =>
    cases hname : fixture.fileName? with
    | none => exact ⟨_, _, .unnamed hname⟩
    | some name =>
      obtain ⟨copied, st₁, hcopied⟩ := (env.copyFile fixture (ws.join ⟨name⟩)).exists_answers st
      cases copied with
      | error e => exact ⟨_, _, .refused hname hcopied⟩
      | ok =>
        obtain ⟨answer, st', hrest⟩ := ih st₁
        exact ⟨_, _, .copied hname hcopied hrest⟩

/-- A fixture that has a name is copied under that name. -/
theorem Workspace.answers_copyFixture {env : Environment σ} (ws : Workspace) {fixture : Path}
    {name : String} {st st' : σ} {answer : Except Cause Unit}
    (named : fixture.fileName? = some name)
    (copied : (env.copyFile fixture (ws.path.join ⟨name⟩)).Answers st answer st') :
    (ws.copyFixture env fixture).Answers st (answer.map fun _ => ws.path.join ⟨name⟩) st' := by
  simp only [copyFixture, named]
  cases answer with
  | error e => exact copied.bind_error
  | ok => exact copied.bind (Action.answers_pure _ _)

/-- Fixtures get into a workspace if they are copied. -/
theorem Copying.run_copyFixtures {env : Environment σ} {ws : Workspace} {fixtures : List Path}
    {st st' : σ} {answer : Except Cause Unit} (h : Copying env ws.path fixtures st answer st') :
    (ws.copyFixtures env fixtures).run.run st =
      (answer.mapError (HarnessError.workspace ws.path), st') := by
  refine Action.Answers.run_adapt ?_ _
  rw [List.forM_eq_forM]
  induction h with
  | nil => rfl
  | unnamed hname =>
    rw [List.forM_cons]
    refine Action.Answers.bind_error (Action.Answers.bind_error ?_)
    simp only [Workspace.copyFixture, hname]
    rfl
  | refused hname hrefused =>
    rw [List.forM_cons]
    refine Action.Answers.bind_error (Action.Answers.bind_error ?_)
    exact ws.answers_copyFixture hname hrefused
  | copied hname hcopied _ ih =>
    rw [List.forM_cons]
    have hfixture := ws.answers_copyFixture hname hcopied
    exact Action.Answers.bind (Action.Answers.bind hfixture (Action.answers_pure () _)) ih

/-! ## Running a compiler -/

/-- What came of starting a process. -/
inductive Launch where
  /-- It was not started. -/
  | refused (e : Cause)
  /-- It was started, and this came of waiting for it. -/
  | waited (answer : Except Cause Waited)

/-- A process is started and waited for, and what is left of its group is killed. -/
inductive Launching (env : Environment σ) (command : Command) (limit : Option Duration) :
    σ → Launch → σ → Prop where
  | refused {st st' : σ} {e : Cause} (refused : (env.spawn command).Answers st (.error e) st') :
    Launching env command limit st (.refused e) st'
  | waited {st st₁ st' : σ} {process : Process σ} {captured : Captured}
    (started : (env.spawn command).Answers st (.ok process) st₁)
    (settled : (process.settle (process.await limit)).run st₁ = (captured, st')) :
    Launching env command limit st (.waited (process.await limit)) st'

theorem exists_launching (env : Environment σ) (command : Command) (limit : Option Duration) (st : σ) :
    ∃ launch st', Launching env command limit st launch st' := by
  obtain ⟨started, st₁, hstarted⟩ := (env.spawn command).exists_answers st
  cases started with
  | error e => exact ⟨_, _, .refused hstarted⟩
  | ok process => exact ⟨_, _, .waited hstarted rfl⟩

/-- The outcomes that a run starts with, by what came of it. -/
def Launch.Leads : Launch → List Outcome → Prop
  | .waited (.ok (.ended _)), outcomes => outcomes = []
  | .waited (.ok (.timedOut _)), outcomes =>
    ∃ ms : Nat, outcomes = [.fail s!"run: timed out after {ms} ms; process terminated"]
  | .waited (.error _), outcomes | .refused _, outcomes =>
    ∃ reason : String, outcomes = [.fail s!"run: could not launch subject: {reason}"]

/-- The command that carries out a plan. -/
abbrev commandFor (env : Environment σ) (config : RunnerConfig) (plan : Plan) (ws : Path) : Command :=
  ⟨launchPath env.workingDirectory config.executable, plan.argv, ws, config.bindings⟩

/-- A plan that is carried out has a result in any case, which tells whether its process ended. -/
theorem Launching.exists_result {env : Environment σ} {config : RunnerConfig} {plan : Plan}
    {ws : Path} {limit : Option Duration} {st st' : σ} {launch : Launch}
    (h : Launching env (commandFor env config plan ws) limit st launch st') :
    ∃ result, (execute env config plan ws limit).run st = (result, st') ∧
      launch.Leads (TestCase.runFailure result) := by
  suffices hexecute : ((execute env config plan ws limit).run st).2 = st' ∧
      launch.Leads (TestCase.runFailure ((execute env config plan ws limit).run st).1) from
    ⟨_, Prod.ext rfl hexecute.1, hexecute.2⟩
  simp only [execute]
  cases h with
  | refused refused =>
    rw [run_bind_eq refused]
    exact ⟨rfl, _, rfl⟩
  | waited started settled =>
    rw [run_bind_eq started]
    simp only
    rw [run_bind_eq settled]
    clear settled
    rename_i process captured
    rcases process.await limit with e | status | elapsed
    · exact ⟨rfl, _, rfl⟩
    · cases status <;> exact ⟨rfl, rfl⟩
    · exact ⟨rfl, _, rfl⟩

/-! ## Courses -/

/-- What happened to a case that was to run in a workspace of its own. -/
inductive Course where
  /-- There was no workspace. -/
  | unmade (e : Cause)
  /-- A fixture did not get into the workspace. -/
  | uncopied (ws : Path) (e : Cause)
  /-- The plan was carried out, its result was judged by what was to be seen then, and the workspace
  was removed or not. -/
  | handed (ws : Path) (launch : Launch) (result : RunResult) (view : FileView)
    (removal : Except Cause Unit)

/-- The limit that a case runs under. -/
abbrev limitFor (config : RunnerConfig) (c : TestCase) : Option Duration := c.timeout <|> config.timeout

/-- The course of a case, from the state before to the state after it. -/
inductive Takes (s : Suite) (env : Environment σ) (config : RunnerConfig) (workRoot : Path)
    (c : TestCase) : σ → Course → σ → Prop where
  | unmade {st st' : σ} {e : Cause}
    (making : Making env workRoot (Workspace.nameStart s!"{s.name}_{c.name}") st (.error e) st') :
    Takes s env config workRoot c st (.unmade e) st'
  | uncopied {st st₁ st₂ st' : σ} {ws : Path} {e : Cause} {removal : Except Cause Unit}
    (making : Making env workRoot (Workspace.nameStart s!"{s.name}_{c.name}") st (.ok ws) st₁)
    (copying : Copying env ws s.fixtures st₁ (.error e) st₂)
    (removing : (env.removeTree ws).Answers st₂ removal st') :
    Takes s env config workRoot c st (.uncopied ws e) st'
  | handed {st st₁ st₂ st₃ st' : σ} {ws : Path} {launch : Launch} {result : RunResult}
    {removal : Except Cause Unit}
    (making : Making env workRoot (Workspace.nameStart s!"{s.name}_{c.name}") st (.ok ws) st₁)
    (copying : Copying env ws s.fixtures st₁ (.ok ()) st₂)
    (launching : Launching env (commandFor env config c.plan ws) (limitFor config c) st₂ launch st₃)
    (executed : (execute env config c.plan ws (limitFor config c)).run st₂ = (result, st₃))
    (removing : (env.removeTree ws).Answers st₃ removal st') :
    Takes s env config workRoot c st (.handed ws launch result (env.view st₃) removal) st'

/-- **A case takes some course, whatever the system answers.** -/
theorem exists_takes (s : Suite) (env : Environment σ) (config : RunnerConfig) (workRoot : Path)
    (c : TestCase) (st : σ) : ∃ course st', Takes s env config workRoot c st course st' := by
  obtain ⟨made, st₁, hmaking⟩ := exists_making env workRoot _ st
  cases made with
  | error e => exact ⟨_, _, .unmade hmaking⟩
  | ok ws =>
    obtain ⟨copied, st₂, hcopying⟩ := exists_copying env ws s.fixtures st₁
    cases copied with
    | error e =>
      obtain ⟨removal, st', hremoving⟩ := (env.removeTree ws).exists_answers st₂
      exact ⟨_, _, .uncopied hmaking hcopying hremoving⟩
    | ok =>
      obtain ⟨launch, st₃, hlaunching⟩ := exists_launching env _ _ st₂
      obtain ⟨result, hresult, -⟩ := hlaunching.exists_result
      obtain ⟨removal, st', hremoving⟩ := (env.removeTree ws).exists_answers st₃
      exact ⟨_, _, .handed hmaking hcopying hlaunching hresult hremoving⟩

/-- Nothing went wrong: the workspace was made, filled and removed, the process ended in time, and
every assertion passed. -/
def Course.Clean (c : TestCase) : Course → Prop
  | .handed ws (.waited (.ok (.ended _))) result view (.ok ()) =>
    ∀ a ∈ c.assertions, ∃ o, a.judge view result ws = .ok o ∧ o.passed = true
  | _ => False

/-- The outcomes that a course ends with, by what came of removing the workspace. -/
def trailFor (ws : Path) : Except Cause Unit → List Outcome
  | .ok () => []
  | .error e => [.fail s!"workspace: failed to remove {ws.text}: {e.message}"]

end Conformance
