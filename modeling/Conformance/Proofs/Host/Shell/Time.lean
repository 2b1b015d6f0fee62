import Conformance.Proofs.Host.Shell.Builtin

/-!
# How the time of a shell goes on

* `Machine.InTime` : a state in which everything is killed by a time, and nothing is later;
* `Machine.Goes` : from a state to a later one: output stays, numbers are not given out again, and the
  deadline is kept;
* `Machine.Goes.acts`, `Machine.Goes.pass`, `Machine.Goes.withJobs`, ... : what leads to later states.
-/

namespace Conformance.Shell

namespace Machine

variable {m m₁ m₂ : Machine}

/-- A state in which everything is killed by a time: neither its clock nor a job is later. -/
structure InTime (limit : Nat) (m : Machine) : Prop where
  deadline : ∃ d, m.deadline = some d ∧ d ≤ limit
  clock : m.clock ≤ limit
  jobs : ∀ job ∈ m.jobs, job.start ≤ limit

/-- The state after a script: nothing of what was written is taken back, no number of a process is
given out again, and the deadline is the same and was kept. -/
structure Goes (m m' : Machine) : Prop where
  written : Written m.buffers m'.buffers
  started : m.started ≤ m'.started
  deadline : m'.deadline = m.deadline
  inTime : ∀ limit, m.InTime limit → m'.InTime limit

namespace Goes

theorem refl (m : Machine) : Goes m m := ⟨.refl _, Nat.le_refl _, rfl, fun _ h => h⟩

theorem trans (h : Goes m m₁) (h' : Goes m₁ m₂) : Goes m m₂ where
  written := h.written.trans h'.written
  started := Nat.le_trans h.started h'.started
  deadline := h'.deadline.trans h.deadline
  inTime := fun limit hm => h'.inTime limit (h.inTime limit hm)

theorem acts (h : Goes m m₁) (h' : Acts m₁ m₂) : Goes m m₂ := by
  have hclock := congrArg Machine.clock h'.rest
  have hdeadline := congrArg Machine.deadline h'.rest
  have hstarted := congrArg Machine.started h'.rest
  have hjobs := congrArg Machine.jobs h'.rest
  refine h.trans ⟨h'.written, Nat.le_of_eq hstarted.symm, hdeadline, fun limit hm => ⟨?_, ?_, ?_⟩⟩
  · exact hdeadline ▸ hm.deadline
  · exact hclock ▸ hm.clock
  · exact hjobs ▸ hm.jobs

theorem withFrame (h : Goes m m₁) (frame : Frame) : Goes m { m₁ with frame } :=
  h.acts ((Acts.refl m₁).withFrame frame)

theorem ofFrame {frame : Frame} (h : Goes { m with frame } m₁) : Goes m m₁ :=
  ((refl m).withFrame frame).trans h

theorem pass {flow : Flow} {us : Nat} (h : Goes m m₁) (hpass : m₁.pass us = (flow, m₂)) : Goes m m₂ := by
  obtain ⟨clock, rfl, hclock⟩ : ∃ clock, m₂ = { m₁ with clock } ∧ ∀ d, m₁.deadline = some d → clock ≤ d := by
    unfold Machine.pass at hpass
    dsimp only at hpass
    split at hpass
    · rename_i d hd
      split at hpass
      · cases hpass
        exact ⟨d, rfl, fun d' hd' => Nat.le_of_eq (Option.some.inj (hd.symm.trans hd'))⟩
      · rename_i hearly
        cases hpass
        refine ⟨_, rfl, fun d' hd' => ?_⟩
        obtain rfl := Option.some.inj (hd.symm.trans hd')
        exact Nat.le_of_not_le hearly
    · rename_i hnone
      cases hpass
      exact ⟨_, rfl, fun d hd => absurd (hnone.symm.trans hd) nofun⟩
  refine h.trans ⟨.refl _, Nat.le_refl _, rfl, fun limit hm => ⟨hm.deadline, ?_, hm.jobs⟩⟩
  obtain ⟨d, hd, hle⟩ := hm.deadline
  exact Nat.le_trans (hclock d hd) hle

/-- A process gets a number of its own. -/
theorem start (m : Machine) (frame : Frame) : Goes m { m with started := m.started + 1, frame } :=
  ⟨.refl _, Nat.le_succ _, rfl, fun _ hm => ⟨hm.deadline, hm.clock, hm.jobs⟩⟩

/-- Jobs that are not there any more. -/
theorem withJobs {jobs : List Job} (h : Goes m m₁) (hjobs : ∀ job ∈ jobs, job ∈ m₁.jobs)
    (ended struck : List (Nat × Nat)) : Goes m { m₁ with jobs, ended, struck } :=
  h.trans ⟨.refl _, Nat.le_refl _, rfl, fun _ hm =>
    ⟨hm.deadline, hm.clock, fun job hjob => hm.jobs job (hjobs job hjob)⟩⟩

theorem capture (m : Machine) : Goes m m.capture.1 :=
  ⟨written_push _, Nat.le_refl _, rfl, fun _ hm => ⟨hm.deadline, hm.clock, hm.jobs⟩⟩

theorem result {α : Type} {r : α × Machine} {x : α} (h : Goes m r.2) (hr : r = (x, m₁)) : Goes m m₁ := by
  rwa [hr] at h

theorem result₂ {α β : Type} {r : α × β × Machine} {x : α} {y : β} (h : Goes m r.2.2)
    (hr : r = (x, y, m₁)) : Goes m m₁ := by
  rwa [hr] at h

end Goes

end Machine

end Conformance.Shell
