import Conformance.Proofs.Pool.Accounts

/-!
# One job after another

Each job is done in one step, whoever does it. So jobs are done one after another, each in the state that
the one before it has left.

* `Serial` : what was done between two states, in order; `Serial.imp` : what else is known of each;
* `Does`, `Runs.serial`, `serial_mapM` : so do workers who take turns, and so does one who works alone;
* `Served` : each of some jobs was done once, and has its result.
-/

namespace Conformance

open scoped List

variable {σ α ρ : Type} {jobs : List α} {work : α → StateM σ ρ} {start st st' : σ}
  {done : List (Nat × ρ)} {i : Nat} {r : ρ}

/-- Jobs were done one after another, from a state on. Each is listed with its number and its result, in
the order in which they were done, and `R` holds of it between the states before and after it. -/
inductive Serial (R : Nat → σ → ρ → σ → Prop) (start : σ) : List (Nat × ρ) → σ → Prop where
  | refl : Serial R start [] start
  | snoc {done : List (Nat × ρ)} {i : Nat} {r : ρ} {st st' : σ} (before : Serial R start done st)
    (next : R i st r st') : Serial R start (done ++ [(i, r)]) st'

namespace Serial

variable {R R' : Nat → σ → ρ → σ → Prop}

theorem imp (h : Serial R start done st) (himp : ∀ i st r st', R i st r st' → R' i st r st') :
    Serial R' start done st := by
  induction h with
  | refl => exact .refl
  | snoc _ next ih => exact ih.snoc (himp _ _ _ _ next)

/-- Whatever is listed was done at some time. -/
theorem exists_of_mem (h : Serial R start done st) (hmem : (i, r) ∈ done) :
    ∃ before after, R i before r after := by
  induction h with
  | refl => cases hmem
  | snoc _ next ih =>
    rcases List.mem_append.mp hmem with hmem | hmem
    · exact ih hmem
    · obtain ⟨rfl, rfl⟩ := Prod.mk.inj (List.mem_singleton.mp hmem)
      exact ⟨_, _, next⟩

end Serial

/-- The job of a number is done. -/
def Does (jobs : List α) (work : α → StateM σ ρ) (i : Nat) (st : σ) (r : ρ) (st' : σ) : Prop :=
  ∃ job, jobs[i]? = some job ∧ (work job).run st = (r, st')

/-- Workers who take turns do one job after another. -/
theorem Pool.Runs.serial {c c' : Pool ρ × σ} {tr : List (Pool.Event ρ)}
    (run : Pool.Runs jobs work c tr c') : Serial (Does jobs work) c.2 (Pool.calls tr) c'.2 := by
  induction run with
  | refl => exact .refl
  | @snoc tr c' c'' e run step ih =>
    rw [Pool.calls_snoc]
    -- only a call does a job
    cases step with
    | call claimed found answer => exact ih.snoc ⟨_, found, answer⟩
    | claim => simpa [Pool.Event.called?] using ih
    | leave => simpa [Pool.Event.called?] using ih
    | write => simpa [Pool.Event.called?] using ih

/-- The jobs that are left may be done in order. -/
theorem serial_mapM_from (pre rest : List α) {results : List ρ} (heq : jobs = pre ++ rest)
    (h : Serial (Does jobs work) start done st) (hrun : (rest.mapM work).run st = (results, st')) :
    Serial (Does jobs work) start (done ++ (results.zipIdx pre.length).map Prod.swap) st' ∧
      results.length = rest.length := by
  induction rest generalizing pre done st results with
  | nil =>
    cases hrun
    refine ⟨?_, rfl⟩
    show Serial (Does jobs work) start (done ++ []) _
    rwa [List.append_nil]
  | cons job rest ih =>
    obtain ⟨r, st₁, hfirst⟩ : ∃ r st₁, (work job).run st = (r, st₁) := ⟨_, _, rfl⟩
    obtain ⟨later, st₂, hrest⟩ : ∃ later st₂, (rest.mapM work).run st₁ = (later, st₂) := ⟨_, _, rfl⟩
    have hall : ((job :: rest).mapM work).run st = (r :: later, st₂) := by
      rw [List.mapM_cons, StateT.run_bind, hfirst]
      show ((rest.mapM work >>= fun later => pure (r :: later) : StateM σ (List ρ)).run st₁) = _
      rw [StateT.run_bind, hrest]
      rfl
    obtain ⟨rfl, rfl⟩ := Prod.mk.inj (hrun.symm.trans hall)
    have hjob : jobs[pre.length]? = some job := by rw [heq]; simp
    obtain ⟨hlater, hlength⟩ :=
      ih (pre ++ [job]) (by simp [heq]) (h.snoc ⟨job, hjob, hfirst⟩) hrest
    rw [List.length_append, List.length_singleton, List.append_assoc] at hlater
    rw [List.zipIdx_cons, List.map_cons]
    exact ⟨hlater, congrArg (· + 1) hlength⟩

/-! ## All jobs -/

/-- What is known of `n` jobs that were all done between two states: in which order, and their results. -/
structure Served (n : Nat) (R : Nat → σ → ρ → σ → Prop) (start : σ) (done : List (Nat × ρ))
    (results : List ρ) (st : σ) : Prop where
  /-- They were done one after another, from the first state to the last. -/
  serial : Serial R start done st
  /-- Each was done once. -/
  once : done.map Prod.fst ~ List.range n
  /-- There is a result for each. -/
  length : results.length = n
  /-- It is the one that was given when the job was done. -/
  result_iff : ∀ i r, (i, r) ∈ done ↔ results[i]? = some r

theorem Served.imp {n : Nat} {R R' : Nat → σ → ρ → σ → Prop} {results : List ρ}
    (h : Served n R start done results st) (himp : ∀ i st r st', R i st r st' → R' i st r st') :
    Served n R' start done results st :=
  ⟨h.serial.imp himp, h.once, h.length, h.result_iff⟩

/-- Each job has a result, and was done with it. -/
theorem Served.exists_result {n : Nat} {R : Nat → σ → ρ → σ → Prop} {results : List ρ}
    (h : Served n R start done results st) (hi : i < n) :
    ∃ r before after, results[i]? = some r ∧ R i before r after := by
  have hr := List.getElem?_eq_getElem (h.length ▸ hi : i < results.length)
  obtain ⟨before, after, hdone⟩ := h.serial.exists_of_mem ((h.result_iff i _).mpr hr)
  exact ⟨_, before, after, hr, hdone⟩

/-- What holds of each job and its result when it is done holds of them in the order of the jobs. -/
theorem Served.forall₂ {R : Nat → σ → ρ → σ → Prop} {results : List ρ} {Q : α → ρ → Prop}
    (h : Served jobs.length R start done results st)
    (himp : ∀ i job before r after, jobs[i]? = some job → R i before r after → Q job r) :
    List.Forall₂ Q jobs results := by
  refine List.forall₂_iff_get.mpr ⟨h.length.symm, fun i hjob hresult => ?_⟩
  obtain ⟨r, before, after, hr, hdone⟩ := h.exists_result hjob
  obtain rfl := Option.some.inj (hr.symm.trans (List.getElem?_eq_getElem hresult))
  exact himp i _ before _ after (List.getElem?_eq_getElem hjob) hdone

/-- One who works alone does the jobs in their order. -/
theorem served_mapM {results : List ρ} (hrun : (jobs.mapM work).run st = (results, st')) :
    ∃ done, Served jobs.length (Does jobs work) st done results st' ∧
      done.map Prod.fst = List.range jobs.length := by
  obtain ⟨hserial, hlength⟩ := serial_mapM_from [] jobs rfl .refl hrun
  rw [List.nil_append, List.nil_append, List.length_nil] at hserial
  have hnumbers : ((results.zipIdx 0).map Prod.swap).map Prod.fst = List.range jobs.length := by
    rw [List.map_map, ← hlength, List.range_eq_range', ← List.zipIdx_map_snd]
    rfl
  refine ⟨_, ⟨hserial, ?_, hlength, fun i r => ?_⟩, hnumbers⟩
  · exact .of_eq hnumbers
  · rw [← List.mem_zipIdx_iff_getElem? (x := (r, i)), List.mem_map]
    constructor
    · rintro ⟨⟨r', i'⟩, hmem, heq⟩
      obtain ⟨rfl, rfl⟩ := Prod.mk.inj heq
      exact hmem
    · intro hmem
      exact ⟨(r, i), hmem, rfl⟩

end Conformance
