import Conformance.Proofs.Workspace.Apart
import Conformance.Proofs.Workspace.Fixtures

/-!
# From the making of a workspace to its end

* `DirectChild` : a path of a name directly in a directory;
* `Fate` : what became of a workspace; `Fate.advance` : what one operation makes of it;
* `Interleaved.fates` : every workspace that was made has a fate;
* `Suite.workspaces_new_and_gone` : workspaces are new, and in the end they are gone unless their case
  failed.
-/

namespace Conformance

variable {setting : Setting} {scratch : Scratch setting} {subject : Subject} {s : Suite}
  {config : RunnerConfig} {options : SuiteOptions} {c : TestCase} {base before after : FileStore}
  {budget : Nat} {root loc : Location} {stages : List Stage} {stage stage' : Stage} {i k : Nat}
  {parent ws : Path} {name other : String} {start st st' : Host} {made later : List (Nat × Path)}

/-- A path of a name directly in a directory, which leads to a location unless nothing stands there. -/
def DirectChild (files : FileStore) (parent ws : Path) (loc : Location) : Prop :=
  ∃ budget root name, files.Reached parent budget root ∧ IsName name ∧ ws = parent.join ⟨name⟩ ∧
    loc = root ++ [name]

/-- The location is one only. -/
theorem DirectChild.unique {loc' : Location} (h : DirectChild before parent ws loc)
    (h' : DirectChild before parent ws loc') : loc = loc' := by
  obtain ⟨budget, root, name, hroot, hname, rfl, rfl⟩ := h
  obtain ⟨budget', root', name', hroot', hname', heq, rfl⟩ := h'
  rw [hroot.unique hroot', Path.join_name_inj hroot.ne_empty hname hname' heq]

/-! ## Fates -/

/-- Nothing is left of a workspace, and no case is in it. -/
structure Vacant (files : FileStore) (parent : Path) (root : Location) (stages : List Stage)
    (name : String) : Prop where
  gone : files.entry? (root ++ [name]) = none
  /-- No case is in it. -/
  unused : ∀ (i : Nat) (stage : Stage), stages[i]? = some stage →
    stage.place? ≠ some (parent.join ⟨name⟩)

/-- What became of a workspace that was made for a case. -/
inductive Fate (files : FileStore) (parent : Path) (root : Location) (stages : List Stage) (i : Nat)
    (name : String) (later : List (Nat × Path)) : Prop where
  /-- The case is in it. -/
  | inside {stage : Stage} (here : stages[i]? = some stage)
    (inside : stage.place? = some (parent.join ⟨name⟩))
  /-- The case failed. -/
  | failed {stage : Stage} {r : Report} (here : stages[i]? = some stage)
    (reported : stage.report? = some r) (failed : r.passed = false)
  /-- It is gone. -/
  | vacant (vacant : Vacant files parent root stages name)
  /-- It was gone, and was made again. -/
  | remade {j : Nat} (remade : (j, parent.join ⟨name⟩) ∈ later)

/-- A vacant workspace stays so, unless it is made again. -/
theorem Vacant.works (h : Vacant before parent root stages name) (hparent : parent.text ≠ "")
    (hname : IsName name) (here : stages[k]? = some stage)
    (hworks : Works base before after parent root stage stage' other) :
    Vacant after parent root (stages.set k stage') name ∨
      stage.made? stage' = some (parent.join ⟨name⟩) := by
  by_cases hother : name = other
  · subst hother
    rcases hworks.own with hown | ⟨hmade, -⟩
    · exact absurd hown (h.unused k stage here)
    · exact .inr hmade
  · refine .inl ⟨?_, fun j found hj hplace => ?_⟩
    · have hsame := hworks.entry?_of_ne hother []
      rw [List.append_nil] at hsame
      rw [hsame, h.gone]
    · rcases getElem?_set_cases hj with ⟨-, rfl⟩ | ⟨-, hj⟩
      · exact hother (Path.join_name_inj hparent hname hworks.workspace.isName
          (hworks.stays _ hplace))
      · exact h.unused j found hj hplace

theorem Vacant.rests (h : Vacant before parent root stages name) (here : stages[k]? = some stage)
    (hrests : Rests before after stage stage') :
    Vacant after parent root (stages.set k stage') name := by
  rw [hrests.same]
  refine ⟨h.gone, fun j found hj hplace => ?_⟩
  rcases getElem?_set_cases hj with ⟨-, rfl⟩ | ⟨-, hj⟩
  · exact h.unused k stage here (hrests.stays _ hplace)
  · exact h.unused j found hj hplace

/-- Who leaves a workspace has failed, or leaves nothing of it. -/
theorem Orderly.fate_of_inside
    (h : Orderly base st.files (setting.absolute options.workRoot) root stages)
    (ground : Ground setting options.workRoot base budget root) (hname : IsName name)
    (here : stages[i]? = some stage)
    (hplace : stage.place? = some ((setting.absolute options.workRoot).join ⟨name⟩))
    (advances : Advances s (scratch.environment subject) config options c stage st stage' st') :
    Fate st'.files (setting.absolute options.workRoot) root (stages.set i stage') i name later := by
  have hnow : (stages.set i stage')[i]? = some stage' :=
    List.getElem?_set_self (List.getElem?_eq_some_iff.mp here).1
  cases advances with
  | unnamed => exact .inside hnow hplace
  | refused => exact .inside hnow hplace
  | copied => exact .inside hnow hplace
  | ran => exact .inside hnow hplace
  | judged => exact .inside hnow hplace
  | dropped => exact .failed hnow rfl rfl
  | @closed _ _ ws report removal removed =>
    cases removal with
    | error e => exact .failed hnow rfl rfl
    | ok =>
      -- a removal that succeeds leaves nothing, and nobody else was in the workspace
      obtain ⟨_, hworks, hsame, hgone⟩ :=
        h.removed (.finished ws (closedReport ws report (.ok ())) (.ok ())) ground here rfl rfl removed
      obtain rfl : ws = (setting.absolute options.workRoot).join ⟨name⟩ := Option.some.inj hplace
      obtain rfl := Path.join_name_inj ground.reached.ne_empty hname hworks.workspace.isName hsame
      refine .vacant ⟨hgone rfl, fun j found hj => ?_⟩
      rcases getElem?_set_cases hj with ⟨-, rfl⟩ | ⟨hji, hj⟩
      · exact nofun
      · exact h.alone here hworks nofun hj hji
  | _ => cases hplace

/-- **What one operation makes of the fate of a workspace.** -/
theorem Fate.advance
    (hfate : Fate st.files (setting.absolute options.workRoot) root stages i name later)
    (h : Orderly base st.files (setting.absolute options.workRoot) root stages)
    (ground : Ground setting options.workRoot base budget root)
    (confined : Confined setting subject base config c.plan (limitFor config c)) (hname : IsName name)
    (here : stages[k]? = some stage)
    (advances : Advances s (scratch.environment subject) config options c stage st stage' st') :
    Fate st'.files (setting.absolute options.workRoot) root (stages.set k stage') i name
      (later ++ ((stage.made? stage').map (k, ·)).toList) := by
  -- the case that the workspace was made for goes on itself, or another one does
  cases hfate with
  | @inside found hfound hinside =>
    by_cases hki : k = i
    · subst hki
      obtain rfl := Option.some.inj (hfound.symm.trans here)
      exact h.fate_of_inside ground hname here hinside advances
    · exact .inside (by rw [List.getElem?_set_ne hki, hfound]) hinside
  | failed hfound hreported hfailed =>
    by_cases hki : k = i
    · subst hki
      obtain rfl := Option.some.inj (hfound.symm.trans here)
      rw [advances.report?_eq_none] at hreported
      cases hreported
    · exact .failed (by rw [List.getElem?_set_ne hki, hfound]) hreported hfailed
  | vacant hvacant =>
    rcases h.rests_or_works ground confined here advances with hrests | ⟨other, hworks⟩
    · exact .vacant (hvacant.rests here hrests)
    · rcases hvacant.works ground.reached.ne_empty hname here hworks with hvacant | hmade
      · exact .vacant hvacant
      · exact .remade (j := k) (by simp [hmade])
  | remade hremade => exact .remade (List.mem_append_left _ hremade)

/-! ## Whole courses -/

/-- What was made is what was made before, and what is made now. -/
theorem append_toList_cases {α : Type} {xs pre post : List α} {now : Option α} {x : α}
    (h : xs ++ now.toList = pre ++ x :: post) :
    (∃ post', xs = pre ++ x :: post' ∧ post = post' ++ now.toList) ∨ now = some x ∧ post = [] := by
  cases now with
  | none =>
    rw [Option.toList_none, List.append_nil] at h
    exact .inl ⟨post, h, by simp⟩
  | some y =>
    rw [Option.toList_some] at h
    rcases List.eq_nil_or_concat post with rfl | ⟨post', z, rfl⟩
    · obtain ⟨-, heq⟩ := List.append_inj' h rfl
      exact .inr ⟨congrArg some (List.singleton_inj.mp heq), rfl⟩
    · have hlast : xs ++ [y] = (pre ++ x :: post') ++ [z] := by simpa using h
      obtain ⟨hxs, heq⟩ := List.append_inj' hlast rfl
      obtain rfl := List.singleton_inj.mp heq
      exact .inl ⟨post', hxs, by simp⟩

/-- **Every workspace that was made has a fate.** -/
theorem Interleaved.fates
    (h : Interleaved s (scratch.environment subject) config options start made stages st)
    (prepares : Prepares setting options.workRoot start.files base budget root)
    (confined : ∀ c ∈ s.cases, Confined setting subject base config c.plan (limitFor config c))
    {pre post : List (Nat × Path)} (hmade : made = pre ++ (i, ws) :: post) :
    ∃ name, ws = (setting.absolute options.workRoot).join ⟨name⟩ ∧
      IsWorkspace base (setting.absolute options.workRoot) root name ∧
      Fate st.files (setting.absolute options.workRoot) root stages i name post := by
  induction h generalizing pre post i ws with
  | start => simp at hmade
  | @advance made stages st₁ st₂ k c stage stage' before case here advances unused ih =>
    rcases before.quiet_or_orderly prepares confined with hquiet | ⟨ground, horderly⟩
    · -- no workspace is made before the directory for workspaces is
      rw [hquiet.none_made, hquiet.made?_eq_none here advances] at hmade
      simp at hmade
    · have hconfined := confined c (List.mem_of_getElem? case)
      -- the workspace was made before this operation, or by it
      rcases append_toList_cases hmade with ⟨post', hbefore, rfl⟩ | ⟨hnow, rfl⟩
      · obtain ⟨name, hpath, hws, hfate⟩ := ih hbefore
        exact ⟨name, hpath, hws, hfate.advance horderly ground hconfined hws.isName here advances⟩
      · obtain ⟨ws', hws', heq⟩ := Option.map_eq_some_iff.mp hnow
        obtain ⟨rfl, rfl⟩ := Prod.mk.inj heq
        have hthere : (stages.set k stage')[k]? = some stage' :=
          List.getElem?_set_self (List.getElem?_eq_some_iff.mp here).1
        have hinside := Stage.place?_of_made hws'
        obtain ⟨name, rfl, hws⟩ := (horderly.advance ground hconfined here advances unused).housed
          _ _ _ hthere hinside
        exact ⟨name, rfl, hws, .inside hthere hinside⟩

/-- **Workspaces are new, and gone in the end unless their case failed.** Whatever a compiler does to
the directory that it is started in, and however the cases of a suite go on side by side: each
workspace that is made stands directly in the directory for workspaces, where nothing stood and so no
other workspace did. Once its case has a report that it passed, nothing stands there, unless a
workspace was made there again. However many cases run at a time, running the suite is such a course. -/
theorem Suite.workspaces_new_and_gone {setting : Setting} (scratch : Scratch setting) (subject : Subject)
    (s : Suite) (config : RunnerConfig) (options : SuiteOptions) (start : Host)
    (stands : setting.Stands start.files) (rooted : start.files.Rooted)
    (confined : ∀ c ∈ s.cases, Confined setting subject start.files config c.plan (limitFor config c)) :
    (∀ made stages st,
      Interleaved s (scratch.environment subject) config options start made stages st →
      (∀ (i : Nat) (c : TestCase) (stage stage' : Stage) (st' : Host) (ws : Path),
        s.cases[i]? = some c → stages[i]? = some stage →
        Advances s (scratch.environment subject) config options c stage st stage' st' →
        stage.made? stage' = some ws → ∃ loc,
          DirectChild st.files (setting.absolute options.workRoot) ws loc ∧
          st.files.entry? loc = none ∧ st'.files.isDirectoryAt loc = true ∧
          ∀ j other loc', (j, other) ∈ made →
            DirectChild st.files (setting.absolute options.workRoot) other loc' →
            st.files.entry? loc' ≠ none → other ≠ ws) ∧
      (∀ pre i ws post, made = pre ++ (i, ws) :: post → ∃ loc,
        DirectChild st.files (setting.absolute options.workRoot) ws loc ∧
        ∀ stage r, stages[i]? = some stage → stage.report? = some r → r.passed = true →
          st.files.entry? loc = none ∨ ∃ j, (j, ws) ∈ post)) ∧
    ∀ turns, ∃ made stages reports,
      Interleaved s (scratch.environment subject) config options start made stages
        ((s.run (scratch.environment subject) config options turns).run start).2 ∧
      ((s.run (scratch.environment subject) config options turns).run start).1 = ⟨s.name, reports⟩ ∧
      stages.map Stage.report? = reports.map some := by
  obtain ⟨base, budget, root, hkeeps, hprepares⟩ := exists_prepares stands rooted options.workRoot
  have hconfined : ∀ c ∈ s.cases, Confined setting subject base config c.plan (limitFor config c) :=
    fun c hc => (confined c hc).mono hkeeps
  refine ⟨fun made stages st hinter => ⟨?_, ?_⟩, fun turns => Suite.run_interleaving s _ config options
    turns start⟩
  · -- a new workspace is where nothing stands, so it is none of those that stand
    intro i c stage stage' st' ws _ _ advances hmade
    cases advances with
    | made answered =>
      obtain rfl := Option.some.inj hmade
      obtain ⟨budget', root', hroot⟩ := scratch.exists_reached answered
      obtain ⟨ending, hending, hpath, hws, hnone, hfiles⟩ :=
        scratch.exists_workspace hroot (.refl _) answered
      have hchild := (⟨budget', root', _, hroot, hws.isName, hpath, rfl⟩ :
        DirectChild st.files (setting.absolute options.workRoot) _ _)
      refine ⟨_, hchild, hnone, ?_, ?_⟩
      · rw [hfiles]
        exact FileStore.isDirectoryAt_of_entry? (FileStore.entry?_put_self (by simp))
      · rintro j other loc' - hother hstands rfl
        rw [hother.unique hchild] at hstands
        exact hstands hnone
    | _ => cases hmade
  · -- a case that passed is in no workspace and did not fail, which leaves two fates
    intro pre i ws post hmade
    rcases hinter.quiet_or_orderly hprepares hconfined with hquiet | ⟨ground, horderly⟩
    · rw [hquiet.none_made] at hmade
      simp at hmade
    · obtain ⟨name, rfl, hws, hfate⟩ := hinter.fates hprepares hconfined hmade
      refine ⟨_, ⟨budget, root, name, ground.reached.keeps horderly.keeps, hws.isName, rfl, rfl⟩, ?_⟩
      intro stage r hstage hreport hpassed
      cases hfate with
      | inside here inside =>
        obtain rfl := Option.some.inj (here.symm.trans hstage)
        rw [Stage.place?_of_report hreport] at inside
        cases inside
      | failed here reported failed =>
        obtain rfl := Option.some.inj (here.symm.trans hstage)
        obtain rfl := Option.some.inj (reported.symm.trans hreport)
        rw [hpassed] at failed
        cases failed
      | vacant vacant => exact .inl vacant.gone
      | remade remade => exact .inr ⟨_, remade⟩

/-! ## A compiler that removes its workspace -/

/-- The host without the directory that a path leads to. -/
def wipe (cwd : Location) (p : Path) (host : Host) : Host :=
  match host.files.resolve cwd true p with
  | .ok loc => { host with files := host.files.eraseTree loc }
  | .error _ => host

/-- Any command removes the directory that it is started in, and ends. -/
def wiper : Subject := fun setting command =>
  return ⟨.ok (.code 0), fun _ => .ok (some (.code 0)), .ofMs, fun _ => do
    modify (wipe setting.directory command.directory)
    return ⟨[], [], .zero⟩⟩

theorem confined_wiper (setting : Setting) (base : FileStore) (plan : Plan) (limit : Option Duration) :
    Confined setting wiper base hellosConfig plan limit := by
  intro ws loc host after answer _ hrooted hresolve _ hperform
  obtain ⟨-, rfl⟩ := Prod.mk.inj hperform
  change FileStore.Within loc host.files (wipe setting.directory ws host).files ∧ _
  rw [wipe, hresolve]
  exact ⟨FileStore.within_eraseTree _ _, hrooted.eraseTree⟩

/-- Whatever the reports on a compiler that removes its workspaces, they are gone if it passed. -/
theorem workspaces_new_and_gone_wiper : atRoot.Stands hellosFiles ∧ hellosFiles.Rooted ∧
    (∀ c ∈ hellos.cases, Confined atRoot wiper hellosFiles hellosConfig c.plan
      (limitFor hellosConfig c)) ∧
    ∃ made stages reports st,
      Interleaved hellos ((Host.scratch atRoot).environment wiper) hellosConfig ⟨⟨"/work"⟩, none, 2⟩
        ⟨hellosFiles, 0⟩ made stages st ∧
      (hellos.run ((Host.scratch atRoot).environment wiper) hellosConfig ⟨⟨"/work"⟩, none, 2⟩ id).run
        ⟨hellosFiles, 0⟩ = (⟨"s", reports⟩, st) ∧
      stages.map Stage.report? = reports.map some ∧
      ∀ pre i ws post, made = pre ++ (i, ws) :: post → ∃ loc,
        DirectChild st.files (atRoot.absolute ⟨"/work"⟩) ws loc ∧
        ∀ stage r, stages[i]? = some stage → stage.report? = some r → r.passed = true →
          st.files.entry? loc = none ∨ ∃ j, (j, ws) ∈ post := by
  have hconfined : ∀ c ∈ hellos.cases, Confined atRoot wiper hellosFiles hellosConfig c.plan
      (limitFor hellosConfig c) := fun c _ => confined_wiper _ _ _ _
  obtain ⟨hinterleaved, hrun⟩ := Suite.workspaces_new_and_gone (Host.scratch atRoot) wiper hellos
    hellosConfig ⟨⟨"/work"⟩, none, 2⟩ ⟨hellosFiles, 0⟩ (stands_atRoot _) hellosFiles_rooted hconfined
  obtain ⟨made, stages, reports, hinter, hreport, hstages⟩ := hrun id
  exact ⟨stands_atRoot _, hellosFiles_rooted, hconfined, made, stages, reports, _, hinter,
    Prod.ext hreport rfl, hstages, (hinterleaved made stages _ hinter).2⟩

end Conformance
