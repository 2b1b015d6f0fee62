import Conformance.Proofs.Suite.Reports

/-!
# Stages of a case

A case in a workspace of its own goes through stages. From each stage one operation of the system leads
to the next, so between two stages anything else may happen on the system. To run a command is one
operation here.

* `Action.perform` : a process from its start to its end; `exists_performance` : the result of a plan is
  told by what came of its command;
* `Stage` : what a case is at;
* `Advances` : one operation; `Goes` : operations one after another;
* `Suite.runCase_goes` : running a case is going through its stages without a pause.
-/

namespace Conformance

variable {σ : Type}

/-! ## Running a command -/

/-- What came of a command: it was not started, or this came of waiting for it and was left of it. -/
abbrev Performance := Except Cause (Except Cause Waited × Captured)

/-- Starts a process, waits for it, and kills what is left of its group. -/
def Action.perform (start : Action σ (Process σ)) (limit : Option Duration) : StateM σ Performance := do
  match ← start.run with
  | .error e => return .error e
  | .ok process =>
    let waited := process.await limit
    return .ok (waited, ← process.settle waited)

/-- The result of a run that was not started. -/
def unstartedResult (config : RunnerConfig) (plan : Plan) (ws : Path) : RunResult :=
  { plan
    argv := config.executable.text :: plan.argv
    exitCode := launchFailureCode
    stdout := ""
    stderr := ""
    workspace := ws
    duration := .zero
    termination := .launchFailed
    platform := config.platform }

/-- The result of a run, by what came of its command; and by the time until then, if that was refused. -/
def performedResult (config : RunnerConfig) (plan : Plan) (ws : Path) (limit : Option Duration)
    (program : Path) (refusedAfter : Duration) : Performance → RunResult
  | .error e => { unstartedResult config plan ws with
      stderr := s!"failed to launch {program.text}: {e.message}"
      duration := refusedAfter }
  | .ok (waited, captured) =>
    let observed :=
      { unstartedResult config plan ws with
        stdout := captured.stdout.toText
        stderr := captured.stderr.toText
        duration := captured.duration }
    match waited with
    | .ok (.ended status) =>
      { observed with exitCode := status.decode.1, termination := status.decode.2 }
    | .ok (.timedOut _) =>
      { observed with exitCode := timeoutCode, termination := .timedOut (reportedMs limit) }
    | .error e => { observed with stderr := waitFailureText observed.stderr program e }

/-- The result of a plan is told by what came of its command. -/
theorem execute_eq (env : Environment σ) (config : RunnerConfig) (plan : Plan) (ws : Path)
    (limit : Option Duration) : execute env config plan ws limit = do
      let answer ← (env.spawn (commandFor env config plan ws)).perform limit
      return performedResult config plan ws limit (launchPath env.workingDirectory config.executable)
        (env.refusedAfter (← get)) answer := by
  simp only [execute, Action.perform, bind_assoc]
  -- both start the process, and go on alike whatever the answer
  refine bind_congr fun answer => ?_
  cases answer with
  | error e => rfl
  | ok process =>
    simp only [bind_assoc]
    refine bind_congr fun captured => ?_
    simp only [performedResult, pure_bind]
    rcases process.await limit with e | status | elapsed
    · rfl
    · rfl
    · rfl

theorem run_execute {env : Environment σ} {config : RunnerConfig} {plan : Plan} {ws : Path}
    {limit : Option Duration} {st st' : σ} {answer : Performance}
    (h : ((env.spawn (commandFor env config plan ws)).perform limit).run st = (answer, st')) :
    (execute env config plan ws limit).run st = (performedResult config plan ws limit
      (launchPath env.workingDirectory config.executable) (env.refusedAfter st') answer, st') := by
  rw [execute_eq, run_bind_eq h]
  rfl

theorem exists_performance {env : Environment σ} {config : RunnerConfig} {plan : Plan} {ws : Path}
    {limit : Option Duration} {st st' : σ} {result : RunResult}
    (h : (execute env config plan ws limit).run st = (result, st')) :
    ∃ answer, ((env.spawn (commandFor env config plan ws)).perform limit).run st = (answer, st') ∧
      result = performedResult config plan ws limit
        (launchPath env.workingDirectory config.executable) (env.refusedAfter st') answer := by
  cases hperform : ((env.spawn (commandFor env config plan ws)).perform limit).run st with
  | mk answer after =>
    rw [run_execute hperform] at h
    obtain ⟨rfl, rfl⟩ := Prod.mk.inj h
    exact ⟨answer, rfl, rfl⟩

/-! ## Stages -/

/-- What a case is at. -/
inductive Stage where
  | waiting
  /-- The directory of the workspaces is there. -/
  | rooted
  /-- The workspace was made, and some fixtures are left to be copied into it. -/
  | copying (ws : Path) (left : List Path)
  /-- The run has a result. -/
  | judging (ws : Path) (result : RunResult)
  /-- The result was judged. -/
  | closing (ws : Path) (report : Report)
  /-- A fixture could not be copied. -/
  | dropping (ws : Path) (e : HarnessError)
  | skipped (report : Report)
  /-- The workspace could not be prepared; it is removed as far as possible, if there was one. -/
  | unprepared (report : Report)
  /-- The workspace was removed after a run, or could not be. -/
  | finished (ws : Path) (report : Report) (removal : Except Cause Unit)

/-- The report of a case in the end. -/
def Stage.report? : Stage → Option Report
  | .skipped report => some report
  | .unprepared report => some report
  | .finished _ report _ => some report
  | _ => none

/-- The workspace that a case is in. -/
def Stage.place? : Stage → Option Path
  | .copying ws _ => some ws
  | .judging ws _ => some ws
  | .closing ws _ => some ws
  | .dropping ws _ => some ws
  | _ => none

/-- The workspace made by an operation. -/
def Stage.made? : Stage → Stage → Option Path
  | .rooted, .copying ws _ => some ws
  | _, _ => none

/-! ## Operations -/

/-- The report of a case after its workspace was removed or not. -/
def closedReport (ws : Path) (report : Report) : Except Cause Unit → Report
  | .ok () => report
  | .error e => report.addFailure s!"workspace: failed to remove {ws.text}: {e.message}"

variable (s : Suite) (env : Environment σ) (config : RunnerConfig) (options : SuiteOptions)
  (c : TestCase)

/-- One operation for a case, which leads from a stage and a state of the system to the next ones. -/
inductive Advances : Stage → σ → Stage → σ → Prop where
  | skip {st : σ} {reason : String}
    (skipped : Suite.skipReason c config.platform options.filter = some reason) :
    Advances .waiting st (.skipped (.skip c.name reason)) st
  | noParents {st st' : σ} {e : Cause}
    (wanted : Suite.skipReason c config.platform options.filter = none)
    (refused : (env.makeDirectories options.workRoot).Answers st (.error e) st') :
    Advances .waiting st (.unprepared (c.setupFailure (.workspace options.workRoot e))) st'
  | parents {st st' : σ} (wanted : Suite.skipReason c config.platform options.filter = none)
    (made : (env.makeDirectories options.workRoot).Answers st (.ok ()) st') :
    Advances .waiting st .rooted st'
  | unmade {st st' : σ} {e : Cause}
    (refused : (env.makeFresh options.workRoot
      (Workspace.nameStart s!"{s.name}_{c.name}")).Answers st (.error e) st') :
    Advances .rooted st (.unprepared (c.setupFailure (.workspace options.workRoot e))) st'
  | made {st st' : σ} {ws : Path}
    (made : (env.makeFresh options.workRoot
      (Workspace.nameStart s!"{s.name}_{c.name}")).Answers st (.ok ws) st') :
    Advances .rooted st (.copying ws s.fixtures) st'
  | unnamed {st : σ} {ws fixture : Path} {left : List Path} (unnamed : fixture.fileName? = none) :
    Advances (.copying ws (fixture :: left)) st
      (.dropping ws (.workspace ws (.noFileName fixture))) st
  | refused {st st' : σ} {ws fixture : Path} {left : List Path} {name : String} {e : Cause}
    (named : fixture.fileName? = some name)
    (refused : (env.copyFile fixture (ws.join ⟨name⟩)).Answers st (.error e) st') :
    Advances (.copying ws (fixture :: left)) st (.dropping ws (.workspace ws e)) st'
  | copied {st st' : σ} {ws fixture : Path} {left : List Path} {name : String}
    (named : fixture.fileName? = some name)
    (copied : (env.copyFile fixture (ws.join ⟨name⟩)).Answers st (.ok ()) st') :
    Advances (.copying ws (fixture :: left)) st (.copying ws left) st'
  | ran {st st' : σ} {ws : Path} {result : RunResult}
    (executed : (execute env config c.plan ws (limitFor config c)).run st = (result, st')) :
    Advances (.copying ws []) st (.judging ws result) st'
  | judged {st : σ} {ws : Path} {result : RunResult} :
    Advances (.judging ws result) st
      (.closing ws (.ofOutcomes c.name (c.evaluate (env.view st) result ws)
        (some (.ofResult result)))) st
  | closed {st st' : σ} {ws : Path} {report : Report} {removal : Except Cause Unit}
    (removed : (env.removeTree ws).Answers st removal st') :
    Advances (.closing ws report) st (.finished ws (closedReport ws report removal) removal) st'
  | dropped {st st' : σ} {ws : Path} {e : HarnessError} {removal : Except Cause Unit}
    (removed : (env.removeTree ws).Answers st removal st') :
    Advances (.dropping ws e) st (.unprepared (c.setupFailure e)) st'

/-- Operations for a case, one after another. -/
inductive Goes : Stage → σ → Stage → σ → Prop where
  | refl {stage : Stage} {st : σ} : Goes stage st stage st
  | head {stage stage₁ stage' : Stage} {st st₁ st' : σ}
    (first : Advances s env config options c stage st stage₁ st₁)
    (rest : Goes stage₁ st₁ stage' st') : Goes stage st stage' st'

variable {s env config options c}

theorem Goes.trans {stage stage₁ stage' : Stage} {st st₁ st' : σ}
    (h : Goes s env config options c stage st stage₁ st₁)
    (h' : Goes s env config options c stage₁ st₁ stage' st') :
    Goes s env config options c stage st stage' st' := by
  induction h with
  | refl => exact h'
  | head first _ ih => exact .head first (ih h')

theorem Goes.single {stage stage' : Stage} {st st' : σ}
    (h : Advances s env config options c stage st stage' st') :
    Goes s env config options c stage st stage' st' := .head h .refl

/-! ## Facts about stages -/

/-- A case with a report is in no workspace. -/
theorem Stage.place?_of_report {stage : Stage} {r : Report} (h : stage.report? = some r) :
    stage.place? = none := by
  cases stage with
  | skipped => rfl
  | unprepared => rfl
  | finished => rfl
  | _ => cases h

/-- A case is in the workspace that was made for it. -/
theorem Stage.place?_of_made {stage stage' : Stage} {ws : Path} (h : stage.made? stage' = some ws) :
    stage'.place? = some ws := by
  unfold made? at h
  split at h
  · exact h
  · cases h

/-- A workspace is made once the directory for workspaces is there. -/
theorem Advances.rooted_of_made {stage stage' : Stage} {st st' : σ} {ws : Path}
    (h : Advances s env config options c stage st stage' st') (hmade : stage.made? stage' = some ws) :
    stage = .rooted := by
  cases h with
  | made => rfl
  | _ => cases hmade

/-- A case with a report is over. -/
theorem Advances.report?_eq_none {stage stage' : Stage} {st st' : σ}
    (h : Advances s env config options c stage st stage' st') : stage.report? = none := by
  cases h <;> rfl

/-! ## Running a case -/

/-- What a case is at once its workspace was made, or could not be. -/
def Stage.ofMaking (s : Suite) (workRoot : Path) (c : TestCase) : Except Cause Path → Stage
  | .ok ws => .copying ws s.fixtures
  | .error e => .unprepared (c.setupFailure (.workspace workRoot e))

/-- What a case is at once the fixtures were copied, or could not be. -/
def Stage.ofCopying (ws : Path) : Except Cause Unit → Stage
  | .ok () => .copying ws []
  | .error e => .dropping ws (.workspace ws e)

/-- The fixtures are copied one after another. -/
theorem Copying.goes {ws : Path} {left : List Path} {st st' : σ} {answer : Except Cause Unit}
    (h : Copying env ws left st answer st') :
    Goes s env config options c (.copying ws left) st (.ofCopying ws answer) st' := by
  induction h with
  | nil => exact .refl
  | unnamed unnamed => exact .single (.unnamed unnamed)
  | refused named refused => exact .single (.refused named refused)
  | copied named copied _ ih => exact .head (.copied named copied) ih

/-- The workspace is made, or could not be. -/
theorem Making.goes {st st' : σ} {answer : Except Cause Path}
    (wanted : Suite.skipReason c config.platform options.filter = none)
    (h : Making env options.workRoot (Workspace.nameStart s!"{s.name}_{c.name}") st answer st') :
    Goes s env config options c .waiting st (.ofMaking s options.workRoot c answer) st' := by
  cases h with
  | noParents refused => exact .single (.noParents wanted refused)
  | fresh parents answered =>
    cases answer with
    | error e => exact .head (.parents wanted parents) (.single (.unmade answered))
    | ok ws => exact .head (.parents wanted parents) (.single (.made answered))

/-- **A case that takes a course goes through its stages to its report.** -/
theorem Takes.exists_goes {course : Course} {st st' : σ}
    (wanted : Suite.skipReason c config.platform options.filter = none)
    (h : Takes s env config options.workRoot c st course st') :
    ∃ stage r, Goes s env config options c .waiting st stage st' ∧ stage.report? = some r ∧
      (s.runIsolated env config options.workRoot c).run st = (r, st') := by
  unfold Suite.runIsolated
  -- the operations of a course are its stages; the report is read off the code, run on their answers
  cases h with
  | unmade making =>
    refine ⟨_, _, making.goes wanted, rfl, ?_⟩
    rw [run_bind_eq making.run_create]
    rfl
  | uncopied making copying removing =>
    rename_i st₁ st₂ ws e removal
    have hcopy : ((Workspace.mk ws).copyFixtures env s.fixtures).run.run st₁ =
        (.error (.workspace ws e), st₂) := Copying.run_copyFixtures copying
    have hdrop : ((Workspace.mk ws).drop env).run st₂ = ((), st') := run_bind_eq removing
    refine ⟨_, _, (making.goes wanted).trans (copying.goes.trans (.single (.dropped removing))), rfl, ?_⟩
    rw [run_bind_eq making.run_create]
    simp only [Except.map, Except.mapError]
    rw [run_bind_eq hcopy]
    simp only
    rw [run_bind_eq hdrop]
    rfl
  | handed making copying launching executed removing =>
    rename_i st₁ st₂ st₃ ws launch result removal
    have hcopy : ((Workspace.mk ws).copyFixtures env s.fixtures).run.run st₁ = (.ok (), st₂) :=
      Copying.run_copyFixtures copying
    have hclose : ((Workspace.mk ws).close env).run.run st₃ = (removal, st') := removing
    have hruns : Goes s env config options c (.copying ws []) st₂
        (.finished ws (closedReport ws (.ofOutcomes c.name (c.evaluate (env.view st₃) result ws)
          (some (.ofResult result))) removal) removal) st' :=
      .head (.ran executed) (.head .judged (.single (.closed removing)))
    refine ⟨_, _, (making.goes wanted).trans (copying.goes.trans hruns), rfl, ?_⟩
    rw [run_bind_eq making.run_create]
    simp only [Except.map, Except.mapError]
    rw [run_bind_eq hcopy]
    simp only
    rw [run_bind_eq (TestCase.run_eq executed), run_bind_eq hclose]
    cases removal with
    | ok => rfl
    | error e => rfl

/-- **Running a case is going through its stages without a pause.** -/
theorem Suite.runCase_goes {r : Report} {st st' : σ}
    (h : (s.runCase env config options c).run st = (r, st')) :
    ∃ stage, Goes s env config options c .waiting st stage st' ∧ stage.report? = some r := by
  unfold runCase at h
  cases hreason : skipReason c config.platform options.filter with
  | some reason =>
    simp only [hreason] at h
    cases h
    exact ⟨_, .single (.skip hreason), rfl⟩
  | none =>
    simp only [hreason] at h
    obtain ⟨course, st₁, htakes⟩ := exists_takes s env config options.workRoot c st
    obtain ⟨stage, r', hgoes, hreport, hrun⟩ := htakes.exists_goes hreason
    rw [h] at hrun
    obtain ⟨rfl, rfl⟩ := Prod.mk.inj hrun
    exact ⟨stage, hgoes, hreport⟩

end Conformance
