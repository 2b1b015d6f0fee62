import Conformance.Proofs.Suite.Stage

/-!
# Cases side by side

The operations for the cases of a suite may come in any order, as long as each case goes on from where
it is.

Fresh names are new, so the name of a workspace is given out again only once its directory is gone. That
it is not given out while its case is still in it, after the compiler has removed the directory, is
assumed (`Interleaved.advance`, `unused`). The assumption is needed where two cases must not meet in one
directory: so that a case knows what it finds there, and so that a workspace that is left is left to
nobody. Where whole cases run one after another it holds by itself (`Interleaved.goes`), so nothing is
assumed of a run of a suite (`Suite.run_interleaving`).

* `Interleaved` : what some operations lead to, and the workspaces that they made;
* `Interleaved.goes` : one case may go on for a while;
* `Suite.run_interleaving` : however many cases run at a time, running a suite is such a course.
-/

namespace Conformance

variable {σ : Type}

/-- What the cases are at, and the state of the system, after some operations from a state where
nothing was done; and the workspaces made on the way in order, each with the number of its case. -/
inductive Interleaved (s : Suite) (env : Environment σ) (config : RunnerConfig)
    (options : SuiteOptions) (st : σ) : List (Nat × Path) → List Stage → σ → Prop where
  | start : Interleaved s env config options st [] (s.cases.map fun _ => .waiting) st
  | advance {made : List (Nat × Path)} {stages : List Stage} {st₁ st₂ : σ} {i : Nat} {c : TestCase}
    {stage stage' : Stage} (before : Interleaved s env config options st made stages st₁)
    (case : s.cases[i]? = some c) (here : stages[i]? = some stage)
    (advances : Advances s env config options c stage st₁ stage' st₂)
    (unused : ∀ ws, stage.made? stage' = some ws → ∀ other ∈ stages, other.place? ≠ some ws) :
    Interleaved s env config options st (made ++ ((stage.made? stage').map (i, ·)).toList)
      (stages.set i stage') st₂

variable {s : Suite} {env : Environment σ} {config : RunnerConfig} {options : SuiteOptions}
  {st st₁ st₂ : σ} {made : List (Nat × Path)} {stages : List Stage}

theorem Interleaved.length_stages (h : Interleaved s env config options st made stages st₁) :
    stages.length = s.cases.length := by
  induction h with
  | start => rw [List.length_map]
  | advance _ _ _ _ _ ih => rw [List.length_set, ih]

/-- While all others are in no workspace, one case may go on for a while. -/
theorem Interleaved.goes {i : Nat} {c : TestCase} {stage stage' : Stage}
    (h : Interleaved s env config options st made stages st₁) (case : s.cases[i]? = some c)
    (here : stages[i]? = some stage)
    (alone : ∀ j other, j ≠ i → stages[j]? = some other → other.place? = none)
    (hgoes : Goes s env config options c stage st₁ stage' st₂) :
    ∃ made', Interleaved s env config options st made' (stages.set i stage') st₂ := by
  induction hgoes generalizing made stages with
  | refl =>
    obtain ⟨hlt, rfl⟩ := List.getElem?_eq_some_iff.mp here
    refine ⟨made, ?_⟩
    rwa [List.set_getElem_self hlt]
  | @head now next _ _ _ _ first rest ih =>
    have hlt := (List.getElem?_eq_some_iff.mp here).1
    have hunused : ∀ ws, now.made? next = some ws → ∀ other ∈ stages, other.place? ≠ some ws := by
      intro ws hmade other hother hplace
      obtain ⟨j, hj⟩ := List.mem_iff_getElem?.mp hother
      by_cases hji : j = i
      · rw [hji, here] at hj
        obtain rfl := Option.some.inj hj
        rw [first.rooted_of_made hmade] at hplace
        cases hplace
      · rw [alone j other hji hj] at hplace
        cases hplace
    have halone : ∀ j other, j ≠ i → (stages.set i next)[j]? = some other → other.place? = none := by
      intro j other hji hj
      rw [List.getElem?_set_ne (Ne.symm hji)] at hj
      exact alone j other hji hj
    obtain ⟨made', hrest⟩ :=
      ih (h.advance case here first hunused) (List.getElem?_set_self hlt) halone
    rw [List.set_set] at hrest
    exact ⟨made', hrest⟩

/-- While all others are in no workspace, a case that waits may be run without a pause. -/
theorem Interleaved.runCase {i : Nat} {c : TestCase} {r : Report}
    (h : Interleaved s env config options st made stages st₁) (case : s.cases[i]? = some c)
    (here : stages[i]? = some .waiting)
    (alone : ∀ j other, j ≠ i → stages[j]? = some other → other.place? = none)
    (hrun : (s.runCase env config options c).run st₁ = (r, st₂)) :
    ∃ made' stage, Interleaved s env config options st made' (stages.set i stage) st₂ ∧
      stage.report? = some r := by
  obtain ⟨stage, hgoes, hreport⟩ := Suite.runCase_goes hrun
  obtain ⟨made', hrest⟩ := h.goes case here alone hgoes
  exact ⟨made', stage, hrest, hreport⟩

/-! ## One case after another -/

/-- Cases that wait may be run one after another. -/
theorem Interleaved.mapM (pre rest : List TestCase) (ended : List Stage) {reports : List Report}
    (heq : s.cases = pre ++ rest) (hlength : ended.length = pre.length)
    (hended : ∀ stage ∈ ended, stage.place? = none)
    (h : Interleaved s env config options st made (ended ++ rest.map fun _ => .waiting) st₁)
    (hrun : (rest.mapM (s.runCase env config options)).run st₁ = (reports, st₂)) :
    ∃ made' later, Interleaved s env config options st made' (ended ++ later) st₂ ∧
      later.map Stage.report? = reports.map some := by
  induction rest generalizing pre ended made st₁ reports with
  | nil =>
    cases hrun
    exact ⟨made, [], h, rfl⟩
  | cons c rest ih =>
    cases hfirst : (s.runCase env config options c).run st₁ with
    | mk r st' =>
      cases hrest : (rest.mapM (s.runCase env config options)).run st' with
      | mk rs st'' =>
        have hall : ((c :: rest).mapM (s.runCase env config options)).run st₁ = (r :: rs, st'') := by
          rw [List.mapM_cons, run_bind_eq hfirst, run_bind_eq hrest]
          rfl
        rw [hrun] at hall
        obtain ⟨rfl, rfl⟩ := Prod.mk.inj hall
        -- the first of the cases that wait is run, while all others have ended or wait
        have hcase : s.cases[pre.length]? = some c := by rw [heq]; simp
        have hwaits : (ended ++ (c :: rest).map fun _ => Stage.waiting)[pre.length]? =
            some .waiting := by
          rw [← hlength]
          simp
        have halone : ∀ j other, j ≠ pre.length →
            (ended ++ (c :: rest).map fun _ => Stage.waiting)[j]? = some other →
              other.place? = none := by
          intro j other _ hj
          rcases List.mem_append.mp (List.mem_of_getElem? hj) with hmem | hmem
          · exact hended other hmem
          · obtain ⟨_, -, rfl⟩ := List.mem_map.mp hmem
            rfl
        obtain ⟨made', stage, hstep, hreport⟩ := h.runCase hcase hwaits halone hfirst
        have hset : (ended ++ (c :: rest).map fun _ => Stage.waiting).set pre.length stage =
            ended ++ [stage] ++ rest.map fun _ => Stage.waiting := by
          rw [← hlength]
          simp
        rw [hset] at hstep
        -- then it has ended too, and the rest follows
        have hended' : ∀ stage' ∈ ended ++ [stage], stage'.place? = none := by
          intro stage' hstage'
          rcases List.mem_append.mp hstage' with hmem | hmem
          · exact hended stage' hmem
          · rw [List.mem_singleton.mp hmem]
            exact Stage.place?_of_report hreport
        obtain ⟨made'', later, hlater, hreports⟩ :=
          ih (pre ++ [c]) (ended ++ [stage]) (by simp [heq]) (by simp [hlength]) hended' hstep hrest
        rw [List.append_assoc, List.singleton_append] at hlater
        exact ⟨made'', stage :: later, hlater, by rw [List.map_cons, List.map_cons, hreport, hreports]⟩

/-! ## Several cases at a time -/

/-- A case that was called has gone to its report, and any other one waits. -/
def Called (tr : List (Pool.Event Report)) (i : Nat) (stage : Stage) : Prop :=
  (∃ r, (i, r) ∈ Pool.calls tr ∧ stage.report? = some r) ∨
    (stage = .waiting ∧ i ∉ (Pool.calls tr).map Prod.fst)

/-- However workers take turns, the cases go through their stages. -/
theorem Pool.Runs.exists_interleaved {workers : Nat} {tr : List (Pool.Event Report)}
    {c : Pool Report × σ}
    (run : Pool.Runs s.cases (s.runCase env config options) (Pool.start workers s.cases.length, st) tr c) :
    ∃ made stages, Interleaved s env config options st made stages c.2 ∧
      ∀ i stage, stages[i]? = some stage → Called tr i stage := by
  induction run with
  | refl =>
    refine ⟨[], _, .start, fun i stage hstage => .inr ⟨?_, by simp [Pool.calls]⟩⟩
    rw [List.getElem?_map, Option.map_eq_some_iff] at hstage
    obtain ⟨_, -, rfl⟩ := hstage
    rfl
  | @snoc tr c' c'' e run step ih =>
    obtain ⟨made, stages, hinter, hcalled⟩ := ih
    -- all but a call leaves the cases and the system alone
    have hsame : Pool.Event.called? e = none → c'.2 = c''.2 →
        ∃ made stages, Interleaved s env config options st made stages c''.2 ∧
          ∀ i stage, stages[i]? = some stage → Called (tr ++ [e]) i stage := by
      intro hno hst
      have hcalls : Pool.calls (tr ++ [e]) = Pool.calls tr := by simp [hno]
      refine ⟨made, stages, hst ▸ hinter, fun i stage hstage => ?_⟩
      rw [Called, hcalls]
      exact hcalled i stage hstage
    have haccounts := (run.snoc step).accounts
    cases step with
    | claim => exact hsame rfl rfl
    | leave => exact hsame rfl rfl
    | write => exact hsame rfl rfl
    | @call p st₁ st₂ w i job r claimed found answer =>
      have hcalls : Pool.calls (tr ++ [.call w i r]) = Pool.calls tr ++ [(i, r)] := by
        simp [Pool.Event.called?]
      -- no case is called twice, so this one waits, and no other one is in a workspace
      have hnew : i ∉ (Pool.calls tr).map Prod.fst := by
        have hnodup := haccounts.nodup_calls
        rw [hcalls, List.map_append, List.nodup_append] at hnodup
        exact fun hi => hnodup.2.2 i hi i (by simp) rfl
      obtain ⟨hlt, -⟩ := List.getElem?_eq_some_iff.mp found
      have hlt' : i < stages.length := hinter.length_stages ▸ hlt
      have hwaits : stages[i]? = some .waiting := by
        rcases hcalled i _ (List.getElem?_eq_getElem hlt') with ⟨r', hr', -⟩ | ⟨hwaits, -⟩
        · exact absurd (List.mem_map_of_mem hr') hnew
        · rw [List.getElem?_eq_getElem hlt', hwaits]
      have halone : ∀ j other, j ≠ i → stages[j]? = some other → other.place? = none := by
        intro j other _ hj
        rcases hcalled j other hj with ⟨_, -, hreport⟩ | ⟨rfl, -⟩
        · exact Stage.place?_of_report hreport
        · rfl
      obtain ⟨made', stage, hstep, hreport⟩ := hinter.runCase found hwaits halone answer
      refine ⟨made', _, hstep, fun j stage' hstage' => ?_⟩
      rw [Called, hcalls]
      by_cases hj : j = i
      · subst hj
        rw [List.getElem?_set_self hlt'] at hstage'
        obtain rfl := Option.some.inj hstage'
        exact .inl ⟨r, by simp, hreport⟩
      · rw [List.getElem?_set_ne (Ne.symm hj)] at hstage'
        rcases hcalled j stage' hstage' with ⟨r', hr', hreport'⟩ | ⟨hwaits', hj'⟩
        · exact .inl ⟨r', by simp [hr'], hreport'⟩
        · exact .inr ⟨hwaits', by simpa [hj] using hj'⟩

/-- Once each case was called, its stage has the report that it was called for. -/
theorem Served.map_report {R : Nat → σ → Report → σ → Prop} {tr : List (Pool.Event Report)}
    {reports : List Report} (h : Served s.cases.length R st (Pool.calls tr) reports st₁)
    (hlength : stages.length = s.cases.length)
    (hcalled : ∀ i stage, stages[i]? = some stage → Called tr i stage) :
    stages.map Stage.report? = reports.map some := by
  refine List.ext_getElem (by simp [hlength, h.length]) fun i hstage hreport => ?_
  rw [List.length_map] at hstage hreport
  have hcall : (i, reports[i]) ∈ Pool.calls tr :=
    (h.result_iff i _).mpr (List.getElem?_eq_getElem hreport)
  rw [List.getElem_map, List.getElem_map]
  rcases hcalled i _ (List.getElem?_eq_getElem hstage) with ⟨r, hcall', hreported⟩ | ⟨-, hnot⟩
  · rw [hreported, (List.getElem_of_getElem? ((h.result_iff i r).mp hcall')).2]
  · exact absurd (List.mem_map_of_mem hcall) hnot

/-- **However many cases of a suite run at a time, they go through their stages side by side.** -/
theorem Suite.run_interleaving (s : Suite) (env : Environment σ) (config : RunnerConfig)
    (options : SuiteOptions) (turns : Nat → Nat) (st : σ) :
    ∃ made stages reports, Interleaved s env config options st made stages
        ((s.run env config options turns).run st).2 ∧
      ((s.run env config options turns).run st).1 = ⟨s.name, reports⟩ ∧
      stages.map Stage.report? = reports.map some := by
  by_cases hone : s.workerCount options = 1
  · -- a single worker runs the cases in order, with no pool
    cases hrun : (s.cases.mapM (s.runCase env config options)).run st with
    | mk reports st' =>
      have hall : (s.run env config options turns).run st = (⟨s.name, reports⟩, st') := by
        simp only [run, if_pos hone]
        rw [run_bind_eq hrun]
        rfl
      rw [hall]
      obtain ⟨made, stages, hinter, hreports⟩ :=
        Interleaved.mapM [] s.cases [] rfl rfl (by simp) .start hrun
      exact ⟨made, stages, reports, hinter, rfl, hreports⟩
  · have hpositive := s.workerCount_pos options
    cases hparallel : (runParallel s.cases (s.workerCount options) (s.runCase env config options)
      turns).run st with
    | mk reports st' =>
      have hall : (s.run env config options turns).run st = (⟨s.name, reports⟩, st') := by
        simp only [run, if_neg hone]
        rw [run_bind_eq hparallel]
        rfl
      rw [hall]
      obtain ⟨tr, p, hruns, hgone, rfl⟩ := runParallel_eq_iff.mp ⟨turns, hparallel⟩
      obtain ⟨made, stages, hinter, hcalled⟩ := hruns.exists_interleaved
      have hserved := hruns.served hpositive hgone
      exact ⟨made, stages, _, hinter, rfl, hserved.map_report hinter.length_stages hcalled⟩

end Conformance
