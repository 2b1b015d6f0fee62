import Conformance.Proofs.Pool.Interleaving
import Mathlib.Data.List.Perm.Basic

/-!
# What becomes of the numbers that workers take

* `Accounts` : where each number that was taken has gone to;
* `Step.accounts`, `Runs.accounts` : every step keeps account, and so does every run;
* `Accounts.calls_perm_range` : after all workers have left, each job was done once;
* `Accounts.exists_slot` : and each slot holds the result of its job.
-/

namespace Conformance.Pool

open scoped List

variable {σ α ρ : Type} {jobs : List α} {work : α → StateM σ ρ} {tr : List (Event ρ)} {p : Pool ρ}
  {s s' : σ} {w i : Nat} {r : ρ}

/-! ## Accounts -/

/-- The number that a worker has taken and not looked up yet. -/
def held? : Worker ρ → Option Nat
  | .claimed i => some i
  | _ => none

/-- The result that a worker has and has not written yet. -/
def brought? : Worker ρ → Option (Nat × ρ)
  | .finished i r => some (i, r)
  | _ => none

/-- Where every number that was taken has gone to, after the given events. -/
structure Accounts (jobs : List α) (work : α → StateM σ ρ) (tr : List (Event ρ)) (p : Pool ρ) :
    Prop where
  /-- A number is held by a worker, or its job was done, or a worker left with it. -/
  taken : (List.range p.next).Perm
    (p.workers.filterMap held? ++ ((calls tr).map Prod.fst ++ leaves tr))
  /-- A result is with a worker, or it was written. -/
  results : (calls tr).Perm (p.workers.filterMap brought? ++ writes tr)
  /-- Every result is what the job of its number answered. -/
  answered : ∀ c ∈ calls tr, ∃ job s s', jobs[c.1]? = some job ∧ (work job).run s = (c.2, s')
  /-- Workers leave with numbers past the last job. -/
  past : ∀ i ∈ leaves tr, jobs.length ≤ i
  /-- A worker that is gone left with some number. -/
  gone : .gone ∈ p.workers → leaves tr ≠ []
  /-- There is a slot for each job. -/
  length_slots : p.slots.length = jobs.length
  /-- The slots hold what was written. -/
  slots : ∀ i r, p.slots[i]? = some (some r) ↔ (i, r) ∈ writes tr

theorem accounts_start (workers : Nat) :
    Accounts jobs work [] (start workers jobs.length) where
  taken := by simp [start, calls, leaves, List.filterMap_replicate, held?]
  results := by simp [start, calls, writes, List.filterMap_replicate, brought?]
  answered := by simp [calls]
  past := by simp [leaves]
  gone := by simp [start]
  length_slots := by simp [start]
  slots := by simp [start, writes, List.getElem?_replicate]

@[simp] theorem calls_snoc (tr : List (Event ρ)) (e : Event ρ) :
    calls (tr ++ [e]) = calls tr ++ e.called?.toList := by
  simp only [calls, List.filterMap_append]
  cases e <;> rfl

@[simp] theorem writes_snoc (tr : List (Event ρ)) (e : Event ρ) :
    writes (tr ++ [e]) = writes tr ++ e.written?.toList := by
  simp only [writes, List.filterMap_append]
  cases e <;> rfl

@[simp] theorem leaves_snoc (tr : List (Event ρ)) (e : Event ρ) :
    leaves (tr ++ [e]) = leaves tr ++ e.left?.toList := by
  simp only [leaves, List.filterMap_append]
  cases e <;> rfl

/-- What a filter picks from the workers, when one of them has moved on. -/
theorem filterMap_set_perm {β : Type} (f : Worker ρ → Option β) {now : Worker ρ}
    (h : p.workers[w]? = some now) (next : Worker ρ) :
    ((f now).toList ++ (p.workers.set w next).filterMap f).Perm
      ((f next).toList ++ p.workers.filterMap f) := by
  obtain ⟨rest, hbefore, hafter⟩ := exists_rest h
  have hcons : ∀ a : Worker ρ, (a :: rest).filterMap f = (f a).toList ++ rest.filterMap f := by
    intro a
    rw [List.filterMap_cons]
    cases f a <;> rfl
  calc (f now).toList ++ (p.workers.set w next).filterMap f
    _ ~ (f now).toList ++ ((f next).toList ++ rest.filterMap f) := by
      rw [← hcons next]
      exact ((hafter next).filterMap f).append_left _
    _ ~ (f next).toList ++ ((f now).toList ++ rest.filterMap f) := by
      rw [← List.append_assoc, ← List.append_assoc]
      exact List.perm_append_comm.append_right _
    _ ~ (f next).toList ++ p.workers.filterMap f := by
      rw [← hcons now]
      exact (hbefore.filterMap f).symm.append_left _

/-- Nobody is gone who was not before, unless the worker that moves on leaves. -/
theorem gone_mem_of_mem_set {next : Worker ρ} (hne : next ≠ .gone)
    (h : .gone ∈ p.workers.set w next) : .gone ∈ p.workers := by
  rcases List.mem_or_eq_of_mem_set h with h | h
  · exact h
  · exact absurd h.symm hne

/-- The jobs that were done are all of different numbers. -/
theorem Accounts.nodup_calls (h : Accounts jobs work tr p) : ((calls tr).map Prod.fst).Nodup := by
  have hnodup := h.taken.nodup_iff.mp List.nodup_range
  exact (List.nodup_append.mp (List.nodup_append.mp hnodup).2.1).1

theorem Accounts.claim (h : Accounts jobs work tr p) (free : p.workers[w]? = some .free) :
    Accounts jobs work (tr ++ [.claim w p.next])
      ({ p with next := p.next + 1 }.set w (.claimed p.next)) where
  taken := by
    have hheld := filterMap_set_perm held? free (.claimed p.next)
    simp only [set, calls_snoc, leaves_snoc, Event.called?, Event.left?, Option.toList_none,
      List.append_nil]
    calc List.range (p.next + 1)
      _ ~ p.next :: List.range p.next := by
        rw [List.range_succ]
        exact List.perm_append_singleton _ _
      _ ~ p.next :: (p.workers.filterMap held? ++ ((calls tr).map Prod.fst ++ leaves tr)) :=
        h.taken.cons _
      _ ~ (p.workers.set w (.claimed p.next)).filterMap held? ++
          ((calls tr).map Prod.fst ++ leaves tr) := (hheld.symm.append_right _)
  results := by
    have hbrought := filterMap_set_perm brought? free (.claimed p.next)
    simp only [set, calls_snoc, writes_snoc, Event.called?, Event.written?, Option.toList_none,
      List.append_nil]
    exact h.results.trans (hbrought.symm.append_right _)
  answered := by simpa [Event.called?] using h.answered
  past := by simpa [Event.left?] using h.past
  gone := by
    intro hgone
    simpa [Event.left?] using h.gone (gone_mem_of_mem_set (by simp) hgone)
  length_slots := h.length_slots
  slots := by simpa [Event.written?, set] using h.slots

theorem Accounts.call {job : α} (h : Accounts jobs work tr p)
    (claimed : p.workers[w]? = some (.claimed i)) (found : jobs[i]? = some job)
    (answer : (work job).run s = (r, s')) :
    Accounts jobs work (tr ++ [.call w i r]) (p.set w (.finished i r)) where
  taken := by
    have hheld := filterMap_set_perm held? claimed (.finished i r)
    simp only [set, calls_snoc, leaves_snoc, Event.called?, Event.left?, Option.toList_none,
      Option.toList_some, List.append_nil, List.map_append, List.map_singleton]
    calc List.range p.next
      _ ~ p.workers.filterMap held? ++ ((calls tr).map Prod.fst ++ leaves tr) := h.taken
      _ ~ i :: ((p.workers.set w (.finished i r)).filterMap held? ++
          ((calls tr).map Prod.fst ++ leaves tr)) := hheld.symm.append_right _
      _ ~ (p.workers.set w (.finished i r)).filterMap held? ++
          ((calls tr).map Prod.fst ++ [i] ++ leaves tr) := by
        have hmiddle (xs : List Nat) : xs ++ (calls tr).map Prod.fst ++ i :: leaves tr ~
            i :: (xs ++ (calls tr).map Prod.fst ++ leaves tr) := List.perm_middle
        simpa using (hmiddle _).symm
  results := by
    have hbrought := filterMap_set_perm brought? claimed (.finished i r)
    simp only [set, calls_snoc, writes_snoc, Event.called?, Event.written?, Option.toList_none,
      Option.toList_some, List.append_nil]
    calc calls tr ++ [(i, r)]
      _ ~ (i, r) :: calls tr := List.perm_append_singleton _ _
      _ ~ (i, r) :: (p.workers.filterMap brought? ++ writes tr) := h.results.cons _
      _ ~ (p.workers.set w (.finished i r)).filterMap brought? ++ writes tr :=
        hbrought.symm.append_right _
  answered := by
    intro c hc
    rw [calls_snoc, List.mem_append] at hc
    rcases hc with hc | hc
    · exact h.answered c hc
    · obtain rfl : c = (i, r) := by simpa [Event.called?] using hc
      exact ⟨job, s, s', found, answer⟩
  past := by simpa [Event.left?] using h.past
  gone := by
    intro hgone
    simpa [Event.left?] using h.gone (gone_mem_of_mem_set (by simp) hgone)
  length_slots := h.length_slots
  slots := by simpa [Event.written?, set] using h.slots

theorem Accounts.leave (h : Accounts jobs work tr p)
    (claimed : p.workers[w]? = some (.claimed i)) (past : jobs[i]? = none) :
    Accounts jobs work (tr ++ [.leave w i]) (p.set w .gone) where
  taken := by
    have hheld := filterMap_set_perm held? claimed .gone
    simp only [set, calls_snoc, leaves_snoc, Event.called?, Event.left?, Option.toList_none,
      Option.toList_some, List.append_nil]
    calc List.range p.next
      _ ~ p.workers.filterMap held? ++ ((calls tr).map Prod.fst ++ leaves tr) := h.taken
      _ ~ i :: ((p.workers.set w .gone).filterMap held? ++
          ((calls tr).map Prod.fst ++ leaves tr)) := hheld.symm.append_right _
      _ ~ (p.workers.set w .gone).filterMap held? ++
          ((calls tr).map Prod.fst ++ (leaves tr ++ [i])) := by
        simpa using (List.perm_append_singleton i (_ ++ ((calls tr).map Prod.fst ++ leaves tr))).symm
  results := by
    have hbrought := filterMap_set_perm brought? claimed .gone
    simp only [set, calls_snoc, writes_snoc, Event.called?, Event.written?, Option.toList_none,
      List.append_nil]
    exact h.results.trans (hbrought.symm.append_right _)
  answered := by simpa [Event.called?] using h.answered
  past := by
    intro j hj
    rw [leaves_snoc, List.mem_append] at hj
    rcases hj with hj | hj
    · exact h.past j hj
    · obtain rfl : j = i := by simpa [Event.left?] using hj
      exact List.getElem?_eq_none_iff.mp past
  gone := by simp [Event.left?]
  length_slots := h.length_slots
  slots := by simpa [Event.written?, set] using h.slots

theorem Accounts.write (h : Accounts jobs work tr p)
    (finished : p.workers[w]? = some (.finished i r)) :
    Accounts jobs work (tr ++ [.write w i r])
      ({ p with slots := p.slots.set i (some r) }.set w .free) where
  taken := by
    have hheld := filterMap_set_perm held? finished .free
    simp only [set, calls_snoc, leaves_snoc, Event.called?, Event.left?, Option.toList_none,
      List.append_nil]
    exact h.taken.trans (hheld.symm.append_right _)
  results := by
    have hbrought := filterMap_set_perm brought? finished .free
    simp only [set, calls_snoc, writes_snoc, Event.called?, Event.written?, Option.toList_none,
      Option.toList_some, List.append_nil]
    calc calls tr
      _ ~ p.workers.filterMap brought? ++ writes tr := h.results
      _ ~ (i, r) :: ((p.workers.set w .free).filterMap brought? ++ writes tr) :=
        hbrought.symm.append_right _
      _ ~ (p.workers.set w .free).filterMap brought? ++ (writes tr ++ [(i, r)]) := by
        simpa using (List.perm_append_singleton (i, r) (_ ++ writes tr)).symm
  answered := by simpa [Event.called?] using h.answered
  past := by simpa [Event.left?] using h.past
  gone := by
    intro hgone
    simpa [Event.left?] using h.gone (gone_mem_of_mem_set (by simp) hgone)
  length_slots := by simpa [set] using h.length_slots
  slots := by
    -- the result is one that was brought, so its slot is there and was not written before
    have hbrought : (i, r) ∈ p.workers.filterMap brought? :=
      List.mem_filterMap.mpr ⟨_, List.mem_of_getElem? finished, rfl⟩
    obtain ⟨job, s, s', found, -⟩ :=
      h.answered (i, r) (h.results.mem_iff.mpr (List.mem_append_left _ hbrought))
    have hlt : i < p.slots.length := by
      rw [h.length_slots]
      exact (List.getElem?_eq_some_iff.mp found).1
    have hfresh : ∀ r', (i, r') ∉ writes tr := by
      intro r' hwritten
      have hnodup := (h.results.map Prod.fst).nodup_iff.mp h.nodup_calls
      rw [List.map_append] at hnodup
      exact (List.nodup_append.mp hnodup).2.2 i (List.mem_map_of_mem hbrought) i
        (List.mem_map_of_mem hwritten) rfl
    intro j r'
    simp only [set, writes_snoc, Event.written?, Option.toList_some, List.mem_append,
      List.mem_singleton, Prod.mk.injEq, List.getElem?_set]
    by_cases hj : i = j
    · subst hj
      simp only [hlt, if_true, Option.some.injEq, hfresh r', false_or, true_and]
      exact eq_comm
    · simp only [if_neg hj, h.slots j r', Ne.symm hj, false_and, or_false]

/-- **One step keeps account.** -/
theorem Step.accounts {p' : Pool ρ} {e : Event ρ} (step : Step jobs work (p, s) e (p', s'))
    (h : Accounts jobs work tr p) : Accounts jobs work (tr ++ [e]) p' := by
  cases step with
  | claim free => exact h.claim free
  | call claimed found answer => exact h.call claimed found answer
  | leave claimed past => exact h.leave claimed past
  | write finished => exact h.write finished

/-- **Every run keeps account.** -/
theorem Runs.accounts {workers : Nat} {s₀ : σ} {c : Pool ρ × σ}
    (run : Runs jobs work (start workers jobs.length, s₀) tr c) : Accounts jobs work tr c.1 := by
  induction run with
  | refl => exact accounts_start workers
  | snoc _ step ih => exact step.accounts ih

/-! ## After all workers have left -/

/-- Each job was done once, and each result was written. -/
theorem Accounts.calls_perm_range (h : Accounts jobs work tr p) (hne : p.workers ≠ [])
    (hgone : p.AllGone) :
    ((calls tr).map Prod.fst) ~ List.range jobs.length ∧ calls tr ~ writes tr := by
  have hheld : p.workers.filterMap held? = [] :=
    List.filterMap_eq_nil_iff.mpr fun now hnow => by rw [hgone now hnow]; rfl
  have hbrought : p.workers.filterMap brought? = [] :=
    List.filterMap_eq_nil_iff.mpr fun now hnow => by rw [hgone now hnow]; rfl
  have htaken := h.taken
  have hresults := h.results
  rw [hheld, List.nil_append] at htaken
  rw [hbrought, List.nil_append] at hresults
  have hmem : ∀ i, i < p.next ↔ i ∈ (calls tr).map Prod.fst ∨ i ∈ leaves tr := by
    intro i
    rw [← List.mem_append, ← htaken.mem_iff, List.mem_range]
  -- somebody left with a number past the last job, so all numbers up to it have been taken
  have hpast : jobs.length < p.next := by
    obtain ⟨now, hnow⟩ := List.exists_mem_of_ne_nil _ hne
    obtain ⟨i, hi⟩ := List.exists_mem_of_ne_nil _ (h.gone (hgone now hnow ▸ hnow))
    exact Nat.lt_of_le_of_lt (h.past i hi) ((hmem i).mpr (Or.inr hi))
  refine ⟨(List.perm_ext_iff_of_nodup h.nodup_calls List.nodup_range).mpr fun i => ?_, hresults⟩
  rw [List.mem_range]
  constructor
  · intro hi
    obtain ⟨c, hc, rfl⟩ := List.mem_map.mp hi
    obtain ⟨job, -, -, found, -⟩ := h.answered c hc
    exact (List.getElem?_eq_some_iff.mp found).1
  · intro hi
    rcases (hmem i).mp (Nat.lt_trans hi hpast) with hcall | hleft
    · exact hcall
    · exact absurd (h.past i hleft) (Nat.not_le_of_lt hi)

/-- Every slot holds the result of the job of its number. -/
theorem Accounts.exists_slot (h : Accounts jobs work tr p) (hne : p.workers ≠ [])
    (hgone : p.AllGone) {job : α} (found : jobs[i]? = some job) :
    ∃ r s s', (i, r) ∈ calls tr ∧ (work job).run s = (r, s') ∧ p.slots[i]? = some (some r) := by
  obtain ⟨hcalls, hwrites⟩ := h.calls_perm_range hne hgone
  have hi : i ∈ (calls tr).map Prod.fst :=
    hcalls.mem_iff.mpr (List.mem_range.mpr (List.getElem?_eq_some_iff.mp found).1)
  obtain ⟨⟨j, r⟩, hc, hj⟩ := List.mem_map.mp hi
  obtain rfl : j = i := hj
  obtain ⟨job', s, s', found', answer⟩ := h.answered _ hc
  obtain rfl : job' = job := Option.some.inj (found'.symm.trans found)
  exact ⟨r, s, s', hc, answer, (h.slots _ r).mpr (hwrites.mem_iff.mp hc)⟩

end Conformance.Pool
