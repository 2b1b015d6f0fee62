import Conformance.Suite.Pool
import Mathlib.Data.List.Perm.Basic

/-!
# Interleavings of workers

Any worker that has not left may do the next step. A run is a sequence of such steps, and its events
tell what was done.

* `Event`, `Step`, `Runs` : what a step does, and runs with their events;
* `Step.run_step` : a step is what `Pool.step` does for its worker;
* `exists_step_of_active` : a worker that has not left can go on.
-/

namespace Conformance.Pool

variable {σ α ρ : Type} {jobs : List α} {work : α → StateM σ ρ}

/-! ## Steps -/

/-- What a step of a worker is seen to do. -/
inductive Event (ρ : Type) where
  /-- It takes the next number. -/
  | claim (worker index : Nat)
  /-- It does the job of its number. -/
  | call (worker index : Nat) (result : ρ)
  /-- It writes the result of its job. -/
  | write (worker index : Nat) (result : ρ)
  /-- It leaves, for its number is past the last job. -/
  | leave (worker index : Nat)

namespace Event

/-- The worker that does the step. -/
def worker : Event ρ → Nat
  | claim w _ => w
  | call w _ _ => w
  | write w _ _ => w
  | leave w _ => w

/-- The job that is done, with its result. -/
def called? : Event ρ → Option (Nat × ρ)
  | call _ i r => some (i, r)
  | _ => none

/-- The slot that is written, with what is written. -/
def written? : Event ρ → Option (Nat × ρ)
  | write _ i r => some (i, r)
  | _ => none

/-- The number that a worker leaves with. -/
def left? : Event ρ → Option Nat
  | leave _ i => some i
  | _ => none

end Event

/-- The jobs that were done, with their results. -/
def calls (tr : List (Event ρ)) : List (Nat × ρ) := tr.filterMap Event.called?

/-- The slots that were written, with what was written. -/
def writes (tr : List (Event ρ)) : List (Nat × ρ) := tr.filterMap Event.written?

/-- The numbers that workers left with. -/
def leaves (tr : List (Event ρ)) : List Nat := tr.filterMap Event.left?

/-- One step of one worker, and of the world in which jobs are done. -/
inductive Step (jobs : List α) (work : α → StateM σ ρ) :
    Pool ρ × σ → Event ρ → Pool ρ × σ → Prop where
  | claim {p : Pool ρ} {s : σ} {w : Nat} (free : p.workers[w]? = some .free) :
    Step jobs work (p, s) (.claim w p.next) ({ p with next := p.next + 1 }.set w (.claimed p.next), s)
  | call {p : Pool ρ} {s s' : σ} {w i : Nat} {job : α} {result : ρ}
    (claimed : p.workers[w]? = some (.claimed i)) (found : jobs[i]? = some job)
    (answer : (work job).run s = (result, s')) :
    Step jobs work (p, s) (.call w i result) (p.set w (.finished i result), s')
  | leave {p : Pool ρ} {s : σ} {w i : Nat} (claimed : p.workers[w]? = some (.claimed i))
    (past : jobs[i]? = none) : Step jobs work (p, s) (.leave w i) (p.set w .gone, s)
  | write {p : Pool ρ} {s : σ} {w i : Nat} {result : ρ}
    (finished : p.workers[w]? = some (.finished i result)) :
    Step jobs work (p, s) (.write w i result)
      ({ p with slots := p.slots.set i (some result) }.set w .free, s)

/-- A run, with its events in order. -/
inductive Runs (jobs : List α) (work : α → StateM σ ρ) (c : Pool ρ × σ) :
    List (Event ρ) → Pool ρ × σ → Prop where
  | refl : Runs jobs work c [] c
  | snoc {tr : List (Event ρ)} {c' c'' : Pool ρ × σ} {e : Event ρ} (run : Runs jobs work c tr c')
    (step : Step jobs work c' e c'') : Runs jobs work c (tr ++ [e]) c''

theorem Runs.head {c c' c'' : Pool ρ × σ} {e : Event ρ} {tr : List (Event ρ)}
    (step : Step jobs work c e c') (run : Runs jobs work c' tr c'') :
    Runs jobs work c (e :: tr) c'' := by
  induction run with
  | refl => exact Runs.snoc Runs.refl step
  | snoc _ last ih => exact Runs.snoc ih last

/-- A step is what the stepping function does for its worker. -/
theorem Step.run_step {p p' : Pool ρ} {s s' : σ} {e : Event ρ}
    (h : Step jobs work (p, s) e (p', s')) : (p.step jobs work e.worker).run s = (p', s') := by
  cases h with
  | claim free => simp only [Event.worker, step, free]; rfl
  | call claimed found answer =>
    simp only [Event.worker, step, claimed, found, StateT.run_bind, answer]
    rfl
  | leave claimed past => simp only [Event.worker, step, claimed, past]; rfl
  | write finished => simp only [Event.worker, step, finished]; rfl

theorem mem_active {p : Pool ρ} {w : Nat} :
    w ∈ p.active ↔ ∃ now, p.workers[w]? = some now ∧ now ≠ .gone := by
  have hactive : ∀ now : Worker ρ, now.isActive = true ↔ now ≠ .gone := by
    intro now
    cases now <;> simp [Worker.isActive]
  rw [active, List.mem_filter, List.mem_range, Option.any_eq_true]
  constructor
  · rintro ⟨-, now, hw, hnow⟩
    exact ⟨now, hw, (hactive now).mp hnow⟩
  · rintro ⟨now, hw, hnow⟩
    exact ⟨(List.getElem?_eq_some_iff.mp hw).1, now, hw, (hactive now).mpr hnow⟩

/-- All workers have left. -/
def AllGone (p : Pool ρ) : Prop := ∀ now ∈ p.workers, now = .gone

/-- All workers have left if none can go on. -/
theorem active_eq_nil_iff {p : Pool ρ} : p.active = [] ↔ p.AllGone := by
  rw [List.eq_nil_iff_forall_not_mem]
  constructor
  · intro h now hnow
    obtain ⟨w, hw⟩ := List.mem_iff_getElem?.mp hnow
    exact Classical.byContradiction fun hne => h w (mem_active.mpr ⟨now, hw, hne⟩)
  · rintro h w hw
    obtain ⟨now, hnow, hne⟩ := mem_active.mp hw
    exact hne (h now (List.mem_of_getElem? hnow))

/-- A worker that has not left can go on. -/
theorem exists_step_of_active {p : Pool ρ} {w : Nat} (h : w ∈ p.active) (s : σ) :
    ∃ e c, e.worker = w ∧ Step jobs work (p, s) e c := by
  obtain ⟨now, hw, hnow⟩ := mem_active.mp h
  cases now with
  | free => exact ⟨_, _, rfl, .claim hw⟩
  | claimed i =>
    cases hj : jobs[i]? with
    | none => exact ⟨_, _, rfl, .leave hw hj⟩
    | some job => exact ⟨_, _, rfl, .call hw hj rfl⟩
  | finished i result => exact ⟨_, _, rfl, .write hw⟩
  | gone => exact absurd rfl hnow

theorem Runs.length_workers {c c' : Pool ρ × σ} {tr : List (Event ρ)} (run : Runs jobs work c tr c') :
    c'.1.workers.length = c.1.workers.length := by
  induction run with
  | refl => rfl
  | snoc _ step ih => cases step <;> simpa [set] using ih

/-- The list of workers, but for the one that does a step. -/
theorem exists_rest {p : Pool ρ} {w : Nat} {now : Worker ρ} (h : p.workers[w]? = some now) :
    ∃ rest, p.workers.Perm (now :: rest) ∧ ∀ next, (p.workers.set w next).Perm (next :: rest) := by
  obtain ⟨hw, rfl⟩ := List.getElem?_eq_some_iff.mp h
  exact ⟨p.workers.eraseIdx w, (List.getElem_cons_eraseIdx_perm hw).symm,
    fun next => List.set_perm_cons_eraseIdx hw next⟩

end Conformance.Pool
