/-!
# Workers on a list of jobs

Workers take jobs from a shared list by number, do them, and write each result into the slot of its
job. Nothing but the counter and the slots is shared.

* `Worker`, `Pool` : what each worker is at, and what is shared;
* `Pool.step` : one step of one worker;
* `Pool.runAll` : steps in a given order until all workers have left.
-/

namespace Conformance

/-- What a worker is at, where results are of type `ρ`. -/
inductive Worker (ρ : Type) where
  /-- About to take a job. -/
  | free
  /-- About to do the job of a number. -/
  | claimed (index : Nat)
  /-- About to write the result of a job. -/
  | finished (index : Nat) (result : ρ)
  /-- No job was left. -/
  | gone
  deriving DecidableEq, Repr

/-- Whether a worker has not left. -/
def Worker.isActive {ρ : Type} : Worker ρ → Bool
  | .gone => false
  | _ => true

/-- Workers and what they share. -/
structure Pool (ρ : Type) where
  /-- The number of the next job. -/
  next : Nat
  /-- What each worker is at. -/
  workers : List (Worker ρ)
  /-- The result of each job, once it is written. -/
  slots : List (Option ρ)
  deriving DecidableEq, Repr

namespace Pool

variable {σ α ρ : Type}

/-- Free workers, and a slot for each job. -/
def start (workers jobs : Nat) : Pool ρ :=
  ⟨0, List.replicate workers .free, List.replicate jobs none⟩

/-- The pool with one worker at something else. -/
def set (p : Pool ρ) (w : Nat) (now : Worker ρ) : Pool ρ :=
  { p with workers := p.workers.set w now }

/-- One step of the worker of number `w`. It takes the next number, does the job of its number,
writes the result, or leaves because there is no job of its number. A whole job is done in one step, so
jobs of different workers come one after another. -/
def step (jobs : List α) (work : α → StateM σ ρ) (w : Nat) (p : Pool ρ) : StateM σ (Pool ρ) :=
  match p.workers[w]? with
  | some .free => return { p with next := p.next + 1 }.set w (.claimed p.next)
  | some (.claimed i) =>
    match jobs[i]? with
    | some job => return p.set w (.finished i (← work job))
    | none => return p.set w .gone
  | some (.finished i result) =>
    return { p with slots := p.slots.set i (some result) }.set w .free
  | _ => return p

/-- The numbers of the workers that have not left. -/
def active (p : Pool ρ) : List Nat :=
  (List.range p.workers.length).filter fun w => (p.workers[w]?).any Worker.isActive

/-- At most `more` further steps. At step `t` the active worker of number `turns t`, counted around,
goes on. -/
def run (jobs : List α) (work : α → StateM σ ρ) (turns : Nat → Nat) :
    Nat → Nat → Pool ρ → StateM σ (Pool ρ)
  | 0, _, p => return p
  | more + 1, t, p =>
    match p.active[turns t % p.active.length]? with
    | none => return p
    | some w => do run jobs work turns more (t + 1) (← p.step jobs work w)

/-- How many steps bring all workers to leave: three for each job, and two for each worker. -/
def stepCount (workers jobs : Nat) : Nat := 3 * jobs + 2 * workers

/-- The result of each job, after all workers have left. -/
def runAll (jobs : List α) (workers : Nat) (work : α → StateM σ ρ) (turns : Nat → Nat) :
    StateM σ (List (Option ρ)) := do
  let p ← run jobs work turns (stepCount workers jobs.length) 0 (start workers jobs.length)
  return p.slots

end Pool

end Conformance
