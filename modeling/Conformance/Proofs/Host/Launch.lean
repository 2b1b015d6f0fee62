import Conformance.Proofs.Host.Search
import Conformance.Proofs.Host.Shell.Run
import Conformance.Proofs.Run.Ending

/-!
# What starting a program guarantees

* `Program.course_clock` : a program that is killed at a time has not run for longer;
* `pollAt` : the first poll at which some time has passed;
* `Launched` : what a process of a program answers; `Launched.await_of_ended`, `Launched.await_of_late` :
  what comes of waiting for it under a limit;
* `launch_launched` : to start a command leaves the host as it is, and gives such a process or is refused;
* `execute_launch` : so a limit that is not reached changes nothing, and one that is reached is kept up to
  a poll.
-/

namespace Conformance.Host

open Shell (Machine runNative_goes runJobs_goes)

/-! ## Courses -/

namespace Program

variable (p : Program) (m : Machine)

theorem course_goes (deadline : Option Nat) :
    Machine.Goes { m with deadline } (p.course m deadline).2 := by
  unfold course
  split
  · rename_i hpass
    have hstart := (Machine.Goes.refl _).pass hpass
    dsimp only
    exact (hstart.trans (runNative_goes _ _ _)).trans (runJobs_goes _ _ _)
  · rename_i hpass
    exact (Machine.Goes.refl _).pass hpass

/-- **What is killed at a time has not run for longer.** -/
theorem course_clock {time : Nat} (hclock : m.clock ≤ time) (hjobs : m.jobs = []) :
    (p.course m (some time)).2.clock ≤ time := by
  refine ((p.course_goes m (some time)).inTime time ⟨⟨time, rfl, Nat.le_refl time⟩, hclock, ?_⟩).clock
  intro job hjob
  rw [hjobs] at hjob
  exact absurd hjob List.not_mem_nil

end Program

/-! ## Polls -/

/-- The number of the first poll at which some time has passed. -/
def pollAt (d : Duration) : Nat :=
  (d.nanoseconds + (pollInterval.nanoseconds - 1)) / pollInterval.nanoseconds

theorem interval_eq : pollInterval.nanoseconds = 5000000 := by decide

theorem le_times_iff {d : Duration} {k : Nat} : d ≤ pollInterval.times k ↔ pollAt d ≤ k := by
  simp only [Duration.le_iff, pollAt, Duration.times, interval_eq]
  omega

/-- That poll comes less than an interval later. -/
theorem times_pollAt_lt (d : Duration) :
    (pollInterval.times (pollAt d)).nanoseconds < d.nanoseconds + pollInterval.nanoseconds := by
  simp only [pollAt, Duration.times, interval_eq]
  omega

/-! ## Processes -/

/-- What a process answers that ends in some way, if it ends, after some time. -/
structure Launched (process : Process Host) (ended : Option ExitStatus) (time : Duration) : Prop where
  elapsed : ∀ k, process.elapsed k = pollInterval.times k
  poll : ∀ k, process.poll k = .ok (if time ≤ pollInterval.times k then ended else none)
  wait : process.wait = .ok (ended.getD (.code 0))

namespace Launched

variable {process : Process Host} {ended : Option ExitStatus} {time limit : Duration} {status : ExitStatus}

theorem timeUp_iff (h : Launched process ended time) {k : Nat} :
    process.TimeUp limit k ↔ pollAt limit ≤ k := by
  have hclock : ∀ k, pollInterval.times k ≤ process.elapsed k := fun k => by
    rw [h.elapsed k]
    exact Nat.le_refl _
  rw [Process.timeUp_iff hclock, h.elapsed k, le_times_iff]

theorem poll_of_ended (h : Launched process (some status) time) (k : Nat) :
    process.poll k = .ok (if pollAt time ≤ k then some status else none) := by
  rw [h.poll k]
  simp only [le_times_iff]

/-- A process that ends by the poll at which its time is up is seen to end. -/
theorem await_of_ended (h : Launched process (some status) time) (hin : pollAt time ≤ pollAt limit) :
    process.await (some limit) = .ok (.ended status) := by
  have hrunning : process.Running limit (pollAt time) := by
    intro j hj
    refine ⟨?_, fun hup => ?_⟩
    · rw [h.poll_of_ended, if_neg (Nat.not_le.mpr hj)]
    · exact absurd (h.timeUp_iff.mp hup) (Nat.not_le.mpr (Nat.lt_of_lt_of_le hj hin))
  have hstops : process.Stops limit (pollAt time) (.ok (.ended status)) := by
    refine .ended ?_
    rw [h.poll_of_ended, if_pos (Nat.le_refl _)]
  exact (Process.answers_iff.mp (.limited hrunning hstops)).symm

/-- Any other is killed at that poll. -/
theorem await_of_late (h : Launched process ended time)
    (hlate : ∀ status, ended = some status → pollAt limit < pollAt time) :
    process.await (some limit) = .ok (.timedOut (pollInterval.times (pollAt limit))) := by
  have hpoll : ∀ k ≤ pollAt limit, process.poll k = .ok none := by
    intro k hk
    rw [h.poll k]
    simp only [le_times_iff]
    split
    · rename_i hover
      cases ended with
      | none => rfl
      | some status => exact absurd hover (Nat.not_le.mpr (Nat.lt_of_le_of_lt hk (hlate status rfl)))
    · rfl
  have hrunning : process.Running limit (pollAt limit) := by
    intro j hj
    exact ⟨hpoll j (Nat.le_of_lt hj), fun hup => absurd (h.timeUp_iff.mp hup) (Nat.not_le.mpr hj)⟩
  have hstops := Process.Stops.late (hpoll _ (Nat.le_refl _)) (h.timeUp_iff.mpr (Nat.le_refl (pollAt limit)))
  rw [h.elapsed] at hstops
  exact (Process.answers_iff.mp (.limited hrunning hstops)).symm

/-- Waiting does not fail, and a limit that is not reached makes no difference to what comes of it. -/
theorem await_cases (h : Launched process ended time) (limit : Option Duration) :
    (∃ status, process.await limit = .ok (.ended status) ∧ process.await none = .ok (.ended status)) ∨
      ∃ d, limit = some d ∧ process.await limit = .ok (.timedOut (pollInterval.times (pollAt d))) := by
  have hwait : process.await none = .ok (.ended (ended.getD (.code 0))) := by
    rw [Process.await, h.wait]
    rfl
  cases limit with
  | none => exact .inl ⟨_, hwait, hwait⟩
  | some d =>
    by_cases hin : ∃ status, ended = some status ∧ pollAt time ≤ pollAt d
    · obtain ⟨status, rfl, hle⟩ := hin
      exact .inl ⟨status, h.await_of_ended hle, hwait⟩
    · refine .inr ⟨d, rfl, h.await_of_late fun status hstatus => ?_⟩
      exact Nat.not_le.mp fun hle => hin ⟨status, hstatus, hle⟩

end Launched

theorem launched_process (p : Program) (m : Machine) :
    Launched (p.process m) (p.course m none).1 (.ofUs (p.course m none).2.clock) := by
  unfold Program.process
  rcases p.course m none with ⟨ended, after⟩
  exact ⟨fun _ => rfl, fun _ => rfl, rfl⟩

/-- What is left of a process changes nothing but files, and it did not outlive its time. -/
theorem settle_process (p : Program) (m : Machine) (hclock : m.clock = 0) (hjobs : m.jobs = [])
    (waited : Except Cause Waited) (host : Host) : ∃ captured files,
      ((p.process m).settle waited).run host = (captured, { host with files }) ∧
      ∀ time, waited = .ok (.timedOut time) → captured.duration ≤ time := by
  have hlimit : ∀ time : Duration, (p.course m (some time.wholeUs)).2.clock ≤ time.wholeUs := fun time =>
    p.course_clock m (hclock ▸ Nat.zero_le _) hjobs
  unfold Program.process
  generalize p.course m none = course
  obtain ⟨ended, after⟩ := course
  refine ⟨_, _, rfl, fun time htime => ?_⟩
  subst htime
  show (p.course m (some time.wholeUs)).2.clock * 1000 ≤ time.nanoseconds
  exact Nat.le_trans (Nat.mul_le_mul_right 1000 (hlimit time)) (Nat.div_mul_le_self _ _)

/-! ## Commands -/

variable {setting : Setting} {command : Command} {host : Host}

theorem launch_answers_of_not_entered {e : Cause} (hnul : hasNul command = false)
    (henter : enter host.files setting.directory command.directory = .error e) :
    (launch setting command).Answers host (.error e) host := by
  have hget : (getThe Host : Action Host Host).Answers host (.ok host) host := rfl
  have hrefused := answers_mk henter host
  unfold launch
  rw [hnul]
  exact hget.bind hrefused.bind_error

/-- **To start a command leaves the host as it is. It is refused, or there is a process that runs until it
ends or is killed, and changes files only.** -/
theorem launch_launched (setting : Setting) (command : Command) (host : Host) :
    (∃ e, (launch setting command).Answers host (.error e) host) ∨
      ∃ process ended time, (launch setting command).Answers host (.ok process) host ∧
        Launched process ended time ∧ ∀ waited host', ∃ captured files,
          (process.settle waited).run host' = (captured, { host' with files }) ∧
          ∀ late, waited = .ok (.timedOut late) → captured.duration ≤ late := by
  cases hnul : hasNul command with
  | true => exact .inl ⟨_, launch_answers_of_hasNul hnul⟩
  | false =>
    cases henter : enter host.files setting.directory command.directory with
    | error e => exact .inl ⟨e, launch_answers_of_not_entered hnul henter⟩
    | ok there =>
      have hanswer := launch_answers henter hnul
      cases hfind : find host.files there (inherited setting command.bindings) command with
      | error e =>
        rw [hfind] at hanswer
        exact .inl ⟨_, hanswer⟩
      | ok program =>
        rw [hfind] at hanswer
        exact .inr ⟨_, _, _, hanswer, launched_process _ _, settle_process _ _ rfl rfl⟩

/-- **A run is refused and leaves the host as it is, or it ends as it would without a limit, or it is killed
less than the time between two polls after its limit.** -/
theorem execute_launch (setting : Setting) (config : RunnerConfig) (plan : Plan) (ws : Path)
    (limit : Option Duration) {host' : Host} {result : RunResult}
    (h : (execute (environment setting launch) config plan ws limit).run host = (result, host')) :
    host'.fresh = host.fresh ∧
      (result.termination = .launchFailed → host' = host) ∧
      ((∀ ms, result.termination ≠ .timedOut ms) →
        (execute (environment setting launch) config plan ws none).run host = (result, host')) ∧
      ∀ ms, result.termination = .timedOut ms → ∃ d, limit = some d ∧
        result.duration.nanoseconds < d.nanoseconds + pollInterval.nanoseconds := by
  obtain ⟨answer, hperform, rfl⟩ := exists_performance h
  let spawn := (environment setting launch).spawn (commandFor (environment setting launch) config plan ws)
  rcases launch_launched setting (commandFor (environment setting launch) config plan ws) host with
    ⟨e, hrefused⟩ | ⟨process, ended, time, hstarted, hlaunched, hsettle⟩
  · have hrun : ∀ limit, (spawn.perform limit).run host = (.error e, host) := fun _ => run_bind_eq hrefused
    obtain ⟨rfl, rfl⟩ := Prod.mk.inj ((hrun limit).symm.trans hperform)
    exact ⟨rfl, fun _ => rfl, fun _ => run_execute (hrun none), fun ms hlate => nomatch hlate⟩
  · obtain ⟨captured, files, hsettled, hduration⟩ := hsettle (process.await limit) host
    have hrun : ∀ limit', process.await limit' = process.await limit →
        (spawn.perform limit').run host = (.ok (process.await limit, captured), { host with files }) := by
      intro limit' hsame
      rw [Action.perform]
      refine (run_bind_eq hstarted).trans ?_
      dsimp only
      rw [hsame]
      exact run_bind_eq hsettled
    obtain ⟨rfl, rfl⟩ := Prod.mk.inj ((hrun limit rfl).symm.trans hperform)
    rcases hlaunched.await_cases limit with ⟨status, hended, hnone⟩ | ⟨d, rfl, hlate⟩
    · have hsame := run_execute (hrun none (hnone.trans hended.symm))
      rw [hended] at hsame ⊢
      refine ⟨rfl, fun hfailed => ?_, fun _ => hsame, fun ms hlate => ?_⟩
      · cases status <;> cases hfailed
      · cases status <;> cases hlate
    · have hkept := hduration _ hlate
      rw [hlate]
      refine ⟨rfl, fun hfailed => ?_, fun hended => absurd rfl (hended _), fun ms _ => ⟨d, rfl, ?_⟩⟩
      · cases hfailed
      · exact Nat.lt_of_le_of_lt hkept (times_pollAt_lt d)

end Conformance.Host
