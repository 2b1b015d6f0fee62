import Conformance.Host
import Conformance.Proofs.Suite.Recorded

/-!
# How a run ends

What the system answers while a command is carried out, and what the result of the run says of it.

* `Process.Answers` : what comes of waiting for a process, told by its polls; `Process.answers_iff` : it
  is what `Process.await` gives;
* `Ends` : how a command ends; `ends_iff_of_refused`, `ends_iff_of_started` : it does so in one way;
* `RunResult.Tells` : the exit code and the termination of a result belong together, and to an end;
* `execute_tells` : so they do in every run, and one that did not end by itself starts with a failure.
-/

namespace Conformance

variable {σ : Type}

/-! ## Waiting for a process -/

namespace Process

variable {p : Process σ} {limit : Duration} {k more : Nat} {within : Option Duration}
  {answer answer' : Except Cause Waited}

/-- At a poll the limit has passed: the clock says so, or the pauses between the polls before it take
longer by themselves. -/
def TimeUp (p : Process σ) (limit : Duration) (k : Nat) : Prop :=
  limit ≤ p.elapsed k ∨ limit < pollInterval.times k

/-- A clock that runs through the pauses tells by itself. -/
theorem timeUp_iff (hclock : ∀ k, pollInterval.times k ≤ p.elapsed k) :
    p.TimeUp limit k ↔ limit ≤ p.elapsed k := by
  have hpauses := hclock k
  unfold TimeUp
  rw [Duration.le_iff, Duration.lt_iff] at *
  omega

/-- All polls before this one find the process running, and the limit not passed. -/
def Running (p : Process σ) (limit : Duration) (k : Nat) : Prop :=
  ∀ j < k, p.poll j = .ok none ∧ ¬ p.TimeUp limit j

/-- This poll is the last one, and what comes of it. -/
inductive Stops (p : Process σ) (limit : Duration) (k : Nat) : Except Cause Waited → Prop where
  | failed {e : Cause} (polled : p.poll k = .error e) : Stops p limit k (.error e)
  | ended {status : ExitStatus} (polled : p.poll k = .ok (some status)) :
    Stops p limit k (.ok (.ended status))
  | late (polled : p.poll k = .ok none) (up : p.TimeUp limit k) :
    Stops p limit k (.ok (.timedOut (p.elapsed k)))

/-- What comes of waiting for a process, with and without a limit. -/
inductive Answers (p : Process σ) : Option Duration → Except Cause Waited → Prop where
  | unlimited : Answers p none (p.wait.map .ended)
  | limited {limit : Duration} {k : Nat} {answer : Except Cause Waited} (running : p.Running limit k)
    (stops : p.Stops limit k answer) : Answers p (some limit) answer

theorem Running.succ (h : p.Running limit k) (hpoll : p.poll k = .ok none) (htime : ¬ p.TimeUp limit k) :
    p.Running limit (k + 1) := by
  intro j hj
  rcases Nat.lt_succ_iff_lt_or_eq.mp hj with hj | rfl
  · exact h j hj
  · exact ⟨hpoll, htime⟩

theorem Stops.not_running {j : Nat} (h : p.Stops limit j answer) (hj : j < k) : ¬ p.Running limit k := by
  intro hrunning
  obtain ⟨hpoll, htime⟩ := hrunning j hj
  cases h with
  | failed polled => simp [polled] at hpoll
  | ended polled => simp [polled] at hpoll
  | late _ up => exact htime up

theorem Stops.unique (h : p.Stops limit k answer) (h' : p.Stops limit k answer') : answer = answer' := by
  cases h <;> cases h' <;> simp_all

theorem Answers.unique (h : p.Answers within answer) (h' : p.Answers within answer') :
    answer = answer' := by
  cases h with
  | unlimited =>
    cases h'
    rfl
  | @limited _ i _ running stops =>
    rcases h' with _ | @⟨_, k, _, running', stops'⟩
    -- neither waiting goes on where the other one has stopped
    rcases Nat.lt_trichotomy i k with hlt | rfl | hlt
    · exact absurd running' (stops.not_running hlt)
    · exact stops.unique stops'
    · exact absurd running (stops'.not_running hlt)

/-- The polls that are left suffice: with the last of them the limit has passed. -/
theorem answers_awaitWithin (hcount : k + more = limit.nanoseconds / pollInterval.nanoseconds + 1)
    (hrunning : p.Running limit k) : p.Answers (some limit) (p.awaitWithin limit more k) := by
  have hinterval : 0 < pollInterval.nanoseconds := by decide
  induction more generalizing k with
  | zero =>
    have hup : p.TimeUp limit k := by
      have hlt := Nat.lt_mul_div_succ limit.nanoseconds hinterval
      rw [← hcount, Nat.add_zero, Nat.mul_comm] at hlt
      exact .inr hlt
    unfold awaitWithin
    rcases hpoll : p.poll k with e | _ | status
    · exact .limited hrunning (.failed hpoll)
    · exact .limited hrunning (.late hpoll hup)
    · exact .limited hrunning (.ended hpoll)
  | succ more ih =>
    unfold awaitWithin
    rcases hpoll : p.poll k with e | _ | status
    · exact .limited hrunning (.failed hpoll)
    · show p.Answers (some limit) (if limit ≤ p.elapsed k then _ else _)
      by_cases hlate : limit ≤ p.elapsed k
      · rw [if_pos hlate]
        exact .limited hrunning (.late hpoll (.inl hlate))
      · have hpauses : k * pollInterval.nanoseconds ≤ limit.nanoseconds := by
          have hle : k ≤ limit.nanoseconds / pollInterval.nanoseconds := by omega
          exact (Nat.le_div_iff_mul_le hinterval).mp hle
        have htime : ¬ p.TimeUp limit k := fun hup => hup.elim hlate (Nat.not_lt.mpr hpauses)
        rw [if_neg hlate]
        exact ih (by omega) (hrunning.succ hpoll htime)
    · exact .limited hrunning (.ended hpoll)

theorem answers_await (p : Process σ) (within : Option Duration) : p.Answers within (p.await within) := by
  cases within with
  | none => exact .unlimited
  | some limit => exact answers_awaitWithin (Nat.zero_add _) fun j hj => absurd hj (Nat.not_lt_zero j)

theorem answers_iff : p.Answers within answer ↔ answer = p.await within := by
  constructor
  · intro h
    exact h.unique (p.answers_await within)
  · rintro rfl
    exact p.answers_await within

end Process

/-! ## Carrying out a command -/

/-- How a command ends that is started in a state: it is refused, or this comes of waiting for it. -/
inductive Ends (env : Environment σ) (command : Command) (limit : Option Duration) (st : σ) :
    Launch → Prop where
  | refused {st' : σ} {e : Cause} (refused : (env.spawn command).Answers st (.error e) st') :
    Ends env command limit st (.refused e)
  | waited {st' : σ} {process : Process σ} {answer : Except Cause Waited}
    (started : (env.spawn command).Answers st (.ok process) st')
    (answered : process.Answers limit answer) : Ends env command limit st (.waited answer)

variable {env : Environment σ} {command : Command} {limit : Option Duration} {st st' : σ} {launch : Launch}

/-- An operation has one answer in a state. -/
theorem Action.Answers.unique {α : Type} {a : Action σ α} {st₁ st₂ : σ} {x y : Except Cause α}
    (h : a.Answers st x st₁) (h' : a.Answers st y st₂) : x = y :=
  congrArg Prod.fst (h.symm.trans h')

theorem ends_iff_of_refused {e : Cause} (h : (env.spawn command).Answers st (.error e) st') :
    Ends env command limit st launch ↔ launch = .refused e := by
  constructor
  · intro hends
    cases hends with
    | refused h' =>
      obtain rfl := Except.error.inj (h'.unique h)
      rfl
    | waited h' => cases h'.unique h
  · rintro rfl
    exact .refused h

theorem ends_iff_of_started {process : Process σ} (h : (env.spawn command).Answers st (.ok process) st') :
    Ends env command limit st launch ↔ launch = .waited (process.await limit) := by
  constructor
  · intro hends
    cases hends with
    | refused h' => cases h'.unique h
    | waited h' answered =>
      obtain rfl := Except.ok.inj (h'.unique h)
      rw [Process.answers_iff.mp answered]
  · rintro rfl
    exact .waited h (process.answers_await limit)

/-! ## Results -/

/-- The exit code of a result belongs to its termination, and the termination to the end of a command
under a limit. -/
structure RunResult.Tells (result : RunResult) (limit : Option Duration) (ends : Launch → Prop) : Prop where
  exited_iff : ∀ c, result.termination = .exited c ↔ ends (.waited (.ok (.ended (.code c))))
  exited : ∀ c, result.termination = .exited c → result.exitCode = c
  signaled_iff : ∀ s, result.termination = .signaled s ↔ ends (.waited (.ok (.ended (.signal s))))
  signaled : ∀ s, result.termination = .signaled s → result.exitCode = 128 + s
  timedOut_iff : ∀ ms, result.termination = .timedOut ms ↔
    (∃ d, limit = some d ∧ ms = d.nanoseconds / 1000000) ∧
      ∃ elapsed, ends (.waited (.ok (.timedOut elapsed)))
  timedOut : ∀ ms, result.termination = .timedOut ms → result.exitCode = 124
  launchFailed_iff : result.termination = .launchFailed ↔
    ∃ e, ends (.refused e) ∨ ends (.waited (.error e))
  launchFailed : result.termination = .launchFailed → result.exitCode = 127 ∧ result.stderr ≠ ""

/-- The texts on standard error say what failed, so they are not empty. -/
theorem waitFailureText_ne_empty (stderr : String) (program : Path) (e : Cause) :
    waitFailureText stderr program e ≠ "" := by
  show _ ++ ("failed to wait for " ++ program.text ++ ": " ++ e.message) ≠ ""
  simp

theorem launchFailureText_ne_empty (program : Path) (e : Cause) :
    s!"failed to launch {program.text}: {e.message}" ≠ "" := by
  show "failed to launch " ++ program.text ++ ": " ++ e.message ≠ ""
  simp

/-- Spans below 2 ^ 64 milliseconds are told in full. -/
theorem Duration.ms64_of_lt {d : Duration} (h : d < .ofMs (2 ^ 64)) : d.ms64 = d.nanoseconds / 1000000 :=
  Nat.mod_eq_of_lt ((Nat.div_lt_iff_lt_mul (by decide)).mpr h)

section Results

variable {config : RunnerConfig} {plan : Plan} {ws program : Path} {refusedAfter : Duration}
  {ends : Launch → Prop}

theorem tells_of_refused {e : Cause} (hends : ∀ launch, ends launch ↔ launch = .refused e) :
    (performedResult config plan ws limit program refusedAfter (.error e)).Tells limit ends := by
  have htext := launchFailureText_ne_empty program e
  constructor <;> simp [hends, performedResult, unstartedResult, launchFailureCode, htext]

theorem tells_of_failed {e : Cause} {captured : Captured}
    (hends : ∀ launch, ends launch ↔ launch = .waited (.error e)) :
    (performedResult config plan ws limit program refusedAfter (.ok (.error e, captured))).Tells limit
      ends := by
  have htext := waitFailureText_ne_empty captured.stderr.toText program e
  constructor <;> simp [hends, performedResult, unstartedResult, launchFailureCode, htext]

theorem tells_of_ended {status : ExitStatus} {captured : Captured}
    (hends : ∀ launch, ends launch ↔ launch = .waited (.ok (.ended status))) :
    (performedResult config plan ws limit program refusedAfter (.ok (.ok (.ended status), captured))).Tells
      limit ends := by
  cases status with
  | code c =>
    constructor <;> simp [hends, performedResult, ExitStatus.decode]
    exact fun _ => eq_comm
  | signal s =>
    constructor <;> simp [hends, performedResult, ExitStatus.decode]
    exact fun _ => eq_comm

theorem tells_of_timedOut {d elapsed : Duration} {captured : Captured} (hlimit : d < .ofMs (2 ^ 64))
    (hends : ∀ launch, ends launch ↔ launch = .waited (.ok (.timedOut elapsed))) :
    (performedResult config plan ws (some d) program refusedAfter
      (.ok (.ok (.timedOut elapsed), captured))).Tells (some d) ends := by
  have hreported : reportedMs (some d) = d.nanoseconds / 1000000 := Duration.ms64_of_lt hlimit
  constructor <;> simp [hends, performedResult, timeoutCode, hreported]
  exact fun _ => eq_comm

/-- What a result takes over, however the run ends. -/
theorem performedResult_given (config : RunnerConfig) (plan : Plan) (ws : Path) (limit : Option Duration)
    (program : Path) (refusedAfter : Duration) (answer : Performance) :
    (performedResult config plan ws limit program refusedAfter answer).plan = plan ∧
      (performedResult config plan ws limit program refusedAfter answer).workspace = ws ∧
      (performedResult config plan ws limit program refusedAfter answer).platform = config.platform := by
  rcases answer with e | ⟨e | status | elapsed, captured⟩ <;> exact ⟨rfl, rfl, rfl⟩

end Results

/-! ## Runs -/

/-- A run that did not end by itself starts with an outcome against it. -/
theorem TestCase.evaluate_of_unended (c : TestCase) (view : FileView) (result : RunResult) (place : Path)
    (h : (∃ ms, result.termination = .timedOut ms) ∨ result.termination = .launchFailed) :
    ∃ o rest, c.evaluate view result place = o :: rest ∧ o.passed = false := by
  unfold evaluate runFailure
  rcases h with ⟨ms, hlate⟩ | hfailed
  · rw [hlate]
    exact ⟨_, _, rfl, rfl⟩
  · rw [hfailed]
    exact ⟨_, _, rfl, rfl⟩

/-- What came of a command makes a result that tells how the command ended. -/
theorem exists_performance_tells (env : Environment σ) (config : RunnerConfig) (plan : Plan) (ws : Path)
    (command : Command) (limit : Option Duration) (hlimit : ∀ d ∈ limit, d < .ofMs (2 ^ 64)) (st : σ) :
    ∃ answer st', ((env.spawn command).perform limit).run st = (answer, st') ∧ ∀ program refusedAfter,
      (performedResult config plan ws limit program refusedAfter answer).Tells limit
        (Ends env command limit st) := by
  obtain ⟨started, st₁, hstarted⟩ := (env.spawn command).exists_answers st
  cases started with
  | error e =>
    refine ⟨.error e, st₁, run_bind_eq hstarted, fun program refusedAfter => ?_⟩
    exact tells_of_refused fun launch => ends_iff_of_refused hstarted
  | ok process =>
    obtain ⟨captured, st', hsettled⟩ : ∃ captured st',
      (process.settle (process.await limit)).run st₁ = (captured, st') := ⟨_, _, rfl⟩
    have hends : ∀ launch, Ends env command limit st launch ↔
        launch = .waited (process.await limit) := fun launch => ends_iff_of_started hstarted
    refine ⟨.ok (process.await limit, captured), st', ?_, fun program refusedAfter => ?_⟩
    · rw [Action.perform, run_bind_eq hstarted]
      dsimp only
      rw [run_bind_eq hsettled]
      rfl
    · rcases hwaited : process.await limit with e | status | elapsed
      · rw [hwaited] at hends
        exact tells_of_failed hends
      · rw [hwaited] at hends
        exact tells_of_ended hends
      · rw [hwaited] at hends
        -- without a limit nothing comes of waiting but an end or an error
        cases limit with
        | none =>
          unfold Process.await at hwaited
          cases hwait : process.wait <;> simp [hwait, Except.map] at hwaited
        | some d => exact tells_of_timedOut (hlimit d rfl) hends

/-- **The exit code and the termination of a result belong together, whatever the system answers.** A run
has a result, which shows the executable with the arguments of the plan, and what was given. It tells an
exit code, a signal, a limit that has passed, in whole milliseconds, or a failure exactly for a command
that ends so. Outcomes on a result that tells one of the last two start with a failure, whatever is
expected. -/
theorem execute_tells (env : Environment σ) (config : RunnerConfig) (plan : Plan) (ws : Path)
    (limit : Option Duration) (hlimit : ∀ d ∈ limit, d < .ofMs (2 ^ 64)) (st : σ) :
    (∃ result st', (execute env config plan ws limit).run st = (result, st') ∧
      result.argv = config.executable.text :: plan.argv ∧ result.plan = plan ∧ result.workspace = ws ∧
      result.platform = config.platform ∧
      result.Tells limit (Ends env (commandFor env config plan ws) limit st)) ∧
    ∀ (c : TestCase) (view : FileView) (result : RunResult) (place : Path),
      (∃ ms, result.termination = .timedOut ms) ∨ result.termination = .launchFailed →
        ∃ o rest, c.evaluate view result place = o :: rest ∧ o.passed = false := by
  refine ⟨?_, TestCase.evaluate_of_unended⟩
  obtain ⟨answer, st', hperform, htells⟩ := exists_performance_tells env config plan ws
    (commandFor env config plan ws) limit hlimit st
  obtain ⟨hplan, hws, hplatform⟩ := performedResult_given config plan ws limit
    (launchPath env.workingDirectory config.executable) (env.refusedAfter st') answer
  exact ⟨_, st', run_execute hperform, argv_performedResult _ _ _, hplan, hws, hplatform, htells _ _⟩

/-- A process that runs until it is killed. -/
def sleeping : Process Host :=
  ⟨.ok (.signal 9), fun _ => .ok none, pollInterval.times, fun _ => return ⟨[], [], .ofMs 15⟩⟩

/-- Any command starts such a process. -/
def sleeper : Subject := fun _ _ => return sleeping

/-- A limit of 12.9 milliseconds. -/
def fractional : Duration := .ofUs 12900

/-- A limit that lies between two polls has passed at the later one, and is told without the part below
a millisecond. -/
theorem execute_tells_sleeper : (∀ d ∈ some fractional, d < .ofMs (2 ^ 64)) ∧ ∃ result st',
    (execute (Host.environment ⟨[], []⟩ sleeper) ⟨⟨"cc"⟩, none, [], .host⟩ { name := "p" } ⟨"work"⟩
      (some fractional)).run ⟨.empty, 0⟩ = (result, st') ∧
    result.termination = .timedOut 12 ∧ result.exitCode = 124 := by
  have hlimit : ∀ d ∈ some fractional, d < .ofMs (2 ^ 64) := by
    rintro d hd
    obtain rfl := Option.mem_some_iff.mp hd
    decide
  obtain ⟨⟨result, st', hrun, -, -, -, -, htells⟩, -⟩ := execute_tells
    (Host.environment ⟨[], []⟩ sleeper) ⟨⟨"cc"⟩, none, [], .host⟩ { name := "p" } ⟨"work"⟩
    (some fractional) hlimit ⟨.empty, 0⟩
  have htime : ∀ k, sleeping.TimeUp fractional k ↔ 12900000 ≤ k * 5000000 :=
    fun k => Process.timeUp_iff fun _ => Nat.le_refl _
  have hrunning : sleeping.Running fractional 3 := by
    intro j hj
    refine ⟨rfl, fun hup => ?_⟩
    have hle := (htime j).mp hup
    omega
  have hlate : result.termination = .timedOut 12 :=
    (htells.timedOut_iff 12).mpr ⟨⟨fractional, rfl, rfl⟩, pollInterval.times 3,
      .waited rfl (.limited hrunning (.late rfl ((htime 3).mpr (by decide))))⟩
  exact ⟨hlimit, result, st', hrun, hlate, htells.timedOut 12 hlate⟩

end Conformance
