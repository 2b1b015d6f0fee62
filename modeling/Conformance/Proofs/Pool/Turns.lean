import Conformance.Proofs.Pool.Interleaving
import Mathlib.Algebra.BigOperators.Group.List.Basic
import Mathlib.Algebra.GroupWithZero.Nat
import Mathlib.Tactic.SplitIfs

/-!
# Turns

* `potential`, `Step.potential` : how many steps are left; each step is one of them;
* `exists_runs_runAll` : what `Pool.runAll` does is a run to the end, whoever's turn it is;
* `Runs.exists_runAll` : every run to the end is what `Pool.runAll` does, for some turns.
-/

namespace Conformance.Pool

variable {σ α ρ : Type} {jobs : List α} {work : α → StateM σ ρ} {tr : List (Event ρ)} {p : Pool ρ}
  {s s' : σ} {w i : Nat} {r : ρ}

/-! ## How many steps are left -/

/-- How many steps a worker has left, apart from those for jobs that nobody has taken. -/
def weight (jobCount : Nat) : Worker ρ → Nat
  | .free => 2
  | .claimed i => if i < jobCount then 4 else 1
  | .finished _ _ => 3
  | .gone => 0

/-- How many steps are left: three for each job that nobody has taken, and those of the workers. -/
def potential (jobCount : Nat) (p : Pool ρ) : Nat :=
  3 * (jobCount - p.next) + (p.workers.map (weight jobCount)).sum

theorem sum_weight_set {now : Worker ρ} (n : Nat) (h : p.workers[w]? = some now)
    (next : Worker ρ) : weight n now + ((p.workers.set w next).map (weight n)).sum =
      weight n next + (p.workers.map (weight n)).sum := by
  obtain ⟨rest, hbefore, hafter⟩ := exists_rest h
  rw [(hbefore.map (weight n)).sum_eq, ((hafter next).map (weight n)).sum_eq]
  simp only [List.map_cons, List.sum_cons]
  omega

/-- **Each step is one of those that were left.** -/
theorem Step.potential {p' : Pool ρ} {e : Event ρ} (step : Step jobs work (p, s) e (p', s')) :
    p.potential jobs.length = p'.potential jobs.length + 1 := by
  cases step with
  | claim free =>
    have hsum := sum_weight_set jobs.length free (.claimed p.next)
    simp only [Pool.potential, set, weight] at hsum ⊢
    split_ifs at hsum <;> omega
  | call claimed found answer =>
    rename_i w i job r
    have hlt : i < jobs.length := (List.getElem?_eq_some_iff.mp found).1
    have hsum := sum_weight_set jobs.length claimed (.finished i r)
    simp only [Pool.potential, set, weight, hlt, if_true] at hsum ⊢
    omega
  | leave claimed past =>
    have hge := List.getElem?_eq_none_iff.mp past
    have hsum := sum_weight_set jobs.length claimed .gone
    simp only [Pool.potential, set, weight, Nat.not_lt_of_le hge, if_false] at hsum ⊢
    omega
  | write finished =>
    have hsum := sum_weight_set jobs.length finished .free
    simp only [Pool.potential, set, weight] at hsum ⊢
    omega

/-- A run does as many steps as are missing in the end. -/
theorem Runs.potential {c c' : Pool ρ × σ} (run : Runs jobs work c tr c') :
    c.1.potential jobs.length = tr.length + c'.1.potential jobs.length := by
  induction run with
  | refl => simp
  | snoc _ step ih =>
    have hstep := step.potential
    rw [List.length_append, List.length_singleton]
    omega

theorem potential_start (workers jobCount : Nat) :
    (start workers jobCount : Pool ρ).potential jobCount = stepCount workers jobCount := by
  simp only [Pool.potential, start, stepCount, List.map_replicate, List.sum_replicate_nat, weight]
  omega

/-- All workers have left when no step is left. -/
theorem allGone_of_potential {n : Nat} (h : p.potential n = 0) : p.AllGone := by
  intro now hnow
  have hsum : (p.workers.map (weight n)).sum = 0 := (Nat.add_eq_zero_iff.mp h).2
  have hweight := List.sum_eq_zero_iff_forall_eq_nat.mp hsum _ (List.mem_map_of_mem hnow)
  cases now with
  | free => simp [weight] at hweight
  | claimed i =>
    simp only [weight] at hweight
    split_ifs at hweight
  | finished i r => simp [weight] at hweight
  | gone => rfl

/-! ## Turns -/

/-- **Enough steps are a run, whoever's turn it is, and all workers have left in the end.** -/
theorem exists_runs_run (turns : Nat → Nat) (more t : Nat) (p : Pool ρ) (s : σ)
    (enough : p.potential jobs.length ≤ more) :
    ∃ tr c, Runs jobs work (p, s) tr c ∧ c.1.AllGone ∧ (run jobs work turns more t p).run s = c := by
  induction more generalizing t p s with
  | zero =>
    exact ⟨[], (p, s), .refl, allGone_of_potential (Nat.le_zero.mp enough), rfl⟩
  | succ more ih =>
    cases hturn : p.active[turns t % p.active.length]? with
    | none =>
      have hlength : p.active.length = 0 := by
        have hge := List.getElem?_eq_none_iff.mp hturn
        have hlt := Nat.mod_lt (turns t) (y := p.active.length)
        omega
      refine ⟨[], (p, s), .refl, active_eq_nil_iff.mp (List.length_eq_zero_iff.mp hlength), ?_⟩
      simp only [run, hturn]
      rfl
    | some w =>
      have hnext : ∃ e c, e.worker = w ∧ Step jobs work (p, s) e c :=
        exists_step_of_active (List.mem_of_getElem? hturn) s
      obtain ⟨e, ⟨p', s'⟩, rfl, step⟩ := hnext
      have hstep := step.potential
      obtain ⟨tr, c, hruns, hgone, hrun⟩ := ih (t + 1) p' s' (by omega)
      refine ⟨e :: tr, c, hruns.head step, hgone, ?_⟩
      simp only [run, hturn, StateT.run_bind, step.run_step]
      exact hrun

/-- The results of a pool are those of a run to its end. -/
theorem exists_runs_runAll (workers : Nat) (turns : Nat → Nat) (s : σ) :
    ∃ tr c, Runs jobs work (start workers jobs.length, s) tr c ∧ c.1.AllGone ∧
      (runAll jobs workers work turns).run s = (c.1.slots, c.2) := by
  have henough : (start workers jobs.length : Pool ρ).potential jobs.length ≤
      stepCount workers jobs.length := Nat.le_of_eq (potential_start workers jobs.length)
  obtain ⟨tr, c, hruns, hgone, hrun⟩ := exists_runs_run turns _ 0 _ s henough
  refine ⟨tr, c, hruns, hgone, ?_⟩
  simp only [runAll, StateT.run_bind, hrun]
  rfl

/-- Whoever does a step has not left. -/
theorem Step.mem_active {e : Event ρ} {c : Pool ρ × σ} (step : Step jobs work (p, s) e c) :
    e.worker ∈ p.active := by
  cases step with
  | claim free => exact Pool.mem_active.mpr ⟨_, free, by simp⟩
  | call claimed => exact Pool.mem_active.mpr ⟨_, claimed, by simp⟩
  | leave claimed => exact Pool.mem_active.mpr ⟨_, claimed, by simp⟩
  | write finished => exact Pool.mem_active.mpr ⟨_, finished, by simp⟩

theorem run_succ_of_step {e : Event ρ} {p' : Pool ρ} {turns : Nat → Nat} {t : Nat}
    (step : Step jobs work (p, s) e (p', s'))
    (turn : p.active[turns t % p.active.length]? = some e.worker) (more : Nat) :
    (run jobs work turns (more + 1) t p).run s = (run jobs work turns more (t + 1) p').run s' := by
  simp only [run, turn, StateT.run_bind, step.run_step]
  rfl

/-- The turns of a run, after which others may follow. -/
theorem Runs.exists_turns {c c' : Pool ρ × σ} (run : Runs jobs work c tr c') :
    ∃ turns : Nat → Nat, ∀ turns' : Nat → Nat, (∀ t < tr.length, turns' t = turns t) →
      ∀ more, (Pool.run jobs work turns' (more + tr.length) 0 c.1).run c.2 =
        (Pool.run jobs work turns' more tr.length c'.1).run c'.2 := by
  induction run with
  | refl => exact ⟨fun _ => 0, fun _ _ _ => rfl⟩
  | snoc run step ih =>
    rename_i tr c' c'' e
    obtain ⟨turns, hturns⟩ := ih
    obtain ⟨k, hk⟩ := List.mem_iff_getElem?.mp step.mem_active
    have hlt : k < c'.1.active.length := (List.getElem?_eq_some_iff.mp hk).1
    -- the turns so far stay, and the next one is the place of the worker that does the step
    refine ⟨fun t => if t = tr.length then k else turns t, fun turns' hagree more => ?_⟩
    rw [List.length_append, List.length_singleton] at hagree ⊢
    have hbefore : ∀ t < tr.length, turns' t = turns t := fun t ht =>
      (hagree t (Nat.lt_succ_of_lt ht)).trans (if_neg (Nat.ne_of_lt ht))
    have hnow : turns' tr.length = k :=
      (hagree tr.length (Nat.lt_succ_self _)).trans (if_pos rfl)
    have hturn : c'.1.active[turns' tr.length % c'.1.active.length]? = some e.worker := by
      rw [hnow, Nat.mod_eq_of_lt hlt, hk]
    have hmore : more + (tr.length + 1) = more + 1 + tr.length := by omega
    rw [hmore, hturns turns' hbefore, run_succ_of_step step hturn]

/-- **Every run to the end is one that a pool does, for some turns.** -/
theorem Runs.exists_runAll {workers : Nat} {p : Pool ρ}
    (run : Runs jobs work (start workers jobs.length, s) tr (p, s')) (gone : p.AllGone) :
    ∃ turns, (runAll jobs workers work turns).run s = (p.slots, s') := by
  obtain ⟨turns, hturns⟩ := run.exists_turns
  have hlength : tr.length ≤ stepCount workers jobs.length := by
    have hpotential := run.potential
    rw [potential_start] at hpotential
    omega
  obtain ⟨more, hmore⟩ := Nat.exists_eq_add_of_le' hlength
  have hend : (Pool.run jobs work turns more tr.length p).run s' = (p, s') := by
    cases more with
    | zero => rfl
    | succ more =>
      simp only [Pool.run, active_eq_nil_iff.mpr gone, List.getElem?_nil]
      rfl
  refine ⟨turns, ?_⟩
  simp only [runAll, StateT.run_bind, hmore, hturns turns (fun _ _ => rfl) more, hend]
  rfl

end Conformance.Pool
