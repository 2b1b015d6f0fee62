import Conformance.Proofs.Workspace.Apart
import Conformance.Proofs.Workspace.Deterministic
import Conformance.Proofs.Workspace.Fixtures

/-!
# Cases do not influence each other

The report of a case on a deterministic compiler is told by the case, the fixtures and the compiler.

* `stockTree` : what the compiler finds in every workspace;
* `Known` : what is known of a case at a stage; `Known.advance` : what one operation makes of it;
* `Interleaved.known` : so much is known of each case, whatever the others do;
* `Suite.reports_isolated` : the report of a case is the same in any company.
-/

namespace Conformance

variable {setting : Setting} {scratch : Scratch setting} {subject : Subject} {s : Suite}
  {config : RunnerConfig} {options : SuiteOptions} {c : TestCase} {base files later : FileStore}
  {budget : Nat} {root loc : Location} {stages : List Stage} {stage stage' : Stage} {i : Nat}
  {parent : Path} {name : String} {act : List String → FileTree → Except Cause Effect}

/-! ## The tree of the fixtures -/

/-- The tree of a new directory into which fixtures were copied. -/
def stockTree (found : Path → Option Entry) (copied : List Path) : FileTree
  | [] => some (.directory true)
  | name :: rel => if rel = [] then stock found copied name else none

theorem tree_eq_stockTree_iff {found : Path → Option Entry} {copied : List Path} :
    files.tree loc = stockTree found copied ↔
      files.entry? loc = some (.directory true) ∧ files.Holds loc (stock found copied) := by
  constructor
  · intro h
    have hloc : files.tree loc [] = some (.directory true) := by rw [h, stockTree]
    rw [FileStore.tree, List.append_nil] at hloc
    refine ⟨hloc, fun name rel => ?_⟩
    have hrel := congrFun h (name :: rel)
    rwa [FileStore.tree, stockTree] at hrel
  · rintro ⟨hloc, hholds⟩
    funext rel
    cases rel with
    | nil => rw [FileStore.tree, List.append_nil, hloc, stockTree]
    | cons name rel => rw [FileStore.tree, hholds, stockTree]

/-- Nothing was copied into a new directory yet. -/
theorem tree_put_directory {found : Path → Option Entry} (hrooted : files.Rooted) (hloc : loc ≠ [])
    (hnone : files.entry? loc = none) :
    (files.put loc (.directory true)).tree loc = stockTree found [] := by
  rw [tree_eq_stockTree_iff, stock_nil]
  exact ⟨FileStore.entry?_put_self hloc, FileStore.holds_put_directory hrooted hnone⟩

/-- A copied fixture takes the place of those of its name. -/
theorem tree_put_fixture {found : Path → Option Entry} {copied : List Path} {fixture : Path} {n : String}
    {e : Entry} (h : files.tree loc = stockTree found copied) (hname : fixture.fileName? = some n)
    (hfound : found fixture = some e) :
    (files.put (loc ++ [n]) e).tree loc = stockTree found (copied ++ [fixture]) := by
  rw [tree_eq_stockTree_iff] at h ⊢
  obtain ⟨hloc, hholds⟩ := h
  constructor
  · rw [FileStore.entry?_put_of_ne (by simp), hloc]
  · rw [stock_concat hname, hfound]
    exact hholds.put

/-! ## What is known of a case -/

section

variable (setting s config options base budget root act)

/-- What the compiler finds in every workspace when it is started. -/
abbrev fixtureTree : FileTree := stockTree (base.found setting.directory) s.fixtures

/-- How the names of the workspaces of a case start. -/
abbrev startFor (c : TestCase) : String := Workspace.nameStart s!"{s.name}_{c.name}"

/-- The program that is started. -/
abbrev programFor : Path := launchPath setting.directory.toPath config.executable

/-- A report of a case on the compiler in a workspace with the fixtures. -/
abbrev JudgedIn (c : TestCase) : Report → Prop :=
  Judged (setting.absolute options.workRoot) (startFor s c) config (programFor setting config)
    (fixtureTree setting s base) (act c.plan.argv (fixtureTree setting s base)) budget c

/-- What is known of a case at a stage, if it went well so far. -/
inductive Known (c : TestCase) (files : FileStore) : Stage → Prop where
  | waiting : Known c files .waiting
  | rooted (wanted : Suite.skipReason c config.platform options.filter = none) :
    Known c files .rooted
  | copying {ending : String} {copied left : List Path}
    (wanted : Suite.skipReason c config.platform options.filter = none) (isEnding : IsEnding ending)
    (all : copied ++ left = s.fixtures)
    (stocked : files.tree (root ++ [startFor s c ++ ending]) =
      stockTree (base.found setting.directory) copied) :
    Known c files (.copying ((setting.absolute options.workRoot).join ⟨startFor s c ++ ending⟩) left)
  | judging {ending : String} {refusedAfter : Duration} {answer : Performance}
    (wanted : Suite.skipReason c config.platform options.filter = none) (isEnding : IsEnding ending)
    (shows : Shows (fixtureTree setting s base) (act c.plan.argv (fixtureTree setting s base)) answer
      (files.tree (root ++ [startFor s c ++ ending]))) :
    Known c files (.judging ((setting.absolute options.workRoot).join ⟨startFor s c ++ ending⟩)
      (performedResult config c.plan ((setting.absolute options.workRoot).join ⟨startFor s c ++ ending⟩)
        (limitFor config c) (programFor setting config) refusedAfter answer))
  | closing {ws : Path} {report : Report}
    (wanted : Suite.skipReason c config.platform options.filter = none)
    (judged : JudgedIn setting s config options base budget act c report) :
    Known c files (.closing ws report)
  | dropping {ws : Path} {e : HarnessError} : Known c files (.dropping ws e)
  | skipped {reason : String}
    (skips : Suite.skipReason c config.platform options.filter = some reason) :
    Known c files (.skipped (.skip c.name reason))
  | unprepared {report : Report} : Known c files (.unprepared report)
  | finished {ws : Path} {report : Report} {removal : Except Cause Unit}
    (wanted : Suite.skipReason c config.platform options.filter = none)
    (judged : removal = .ok () → JudgedIn setting s config options base budget act c report) :
    Known c files (.finished ws report removal)

end

/-- What is known of a case does not depend on anything outside of its workspace. -/
theorem Known.congr (h : Known setting s config options base budget root act c files stage)
    (heq : ∀ name, IsName name →
      stage.place? = some ((setting.absolute options.workRoot).join ⟨name⟩) →
      later.tree (root ++ [name]) = files.tree (root ++ [name])) :
    Known setting s config options base budget root act c later stage := by
  cases h with
  | waiting => exact .waiting
  | rooted wanted => exact .rooted wanted
  | copying wanted isEnding all stocked =>
    refine .copying wanted isEnding all ?_
    rw [heq _ (isName_nameStart _ isEnding) rfl, stocked]
  | judging wanted isEnding shows =>
    refine .judging wanted isEnding ?_
    rw [heq _ (isName_nameStart _ isEnding) rfl]
    exact shows
  | closing wanted judged => exact .closing wanted judged
  | dropping => exact .dropping
  | skipped skips => exact .skipped skips
  | unprepared => exact .unprepared
  | finished wanted judged => exact .finished wanted judged

/-- The workspace that a case is in. -/
theorem Orderly.workspace (h : Orderly base files parent root stages) (hparent : parent.text ≠ "")
    (here : stages[i]? = some stage) (hname : IsName name)
    (hplace : stage.place? = some (parent.join ⟨name⟩)) : IsWorkspace base parent root name := by
  obtain ⟨other, heq, hws⟩ := h.housed i stage _ here hplace
  obtain rfl := Path.join_name_inj hparent hname hws.isName heq
  exact hws

variable {st st' : Host}

/-- A fixture gets into a workspace as it was at first. -/
theorem Orderly.tree_copied {fixture : Path} {left copied : List Path} {n : String}
    (h : Orderly base st.files (setting.absolute options.workRoot) root stages)
    (ground : Ground setting options.workRoot base budget root) (hname : IsName name)
    (here : stages[i]? = some (.copying ((setting.absolute options.workRoot).join ⟨name⟩)
      (fixture :: left)))
    (hregular : base.Regular setting.directory fixture) (named : fixture.fileName? = some n)
    (hcopied : ((scratch.environment subject).copyFile fixture
      (((setting.absolute options.workRoot).join ⟨name⟩).join ⟨n⟩)).Answers st (.ok ()) st')
    (hstocked : st.files.tree (root ++ [name]) = stockTree (base.found setting.directory) copied) :
    st'.files.tree (root ++ [name]) =
      stockTree (base.found setting.directory) (copied ++ [fixture]) := by
  have hws := h.workspace ground.reached.ne_empty here hname rfl
  obtain ⟨content, executable, hfile⟩ := hregular
  obtain ⟨content', executable', hfile', hfiles⟩ := h.exists_put ground hws here named hcopied
  rw [FileStore.find_keeps hfile h.keeps] at hfile'
  obtain ⟨rfl, rfl⟩ := Entry.file.inj (Except.ok.inj hfile')
  rw [hfiles]
  refine tree_put_fixture hstocked named ?_
  rw [FileStore.found, hfile]
  rfl

/-- From a workspace with a directory, what the tree of the directory tells is found. -/
theorem Orderly.sees (h : Orderly base st.files (setting.absolute options.workRoot) root stages)
    (ground : Ground setting options.workRoot base budget root)
    (hws : IsWorkspace base (setting.absolute options.workRoot) root name) {p : Path}
    (hstays : (st.files.tree (root ++ [name])).Stays p) :
    ((scratch.environment subject).view st).find
        (((setting.absolute options.workRoot).join ⟨name⟩).join p) =
      (st.files.tree (root ++ [name])).lookup budget
        ((setting.absolute options.workRoot).join ⟨name⟩).text.utf8ByteSize p := by
  have hthere := hstays.there
  rw [FileStore.isDirectoryAt_tree, List.append_nil] at hthere
  exact (hws.reached ground.reached h.keeps hthere).find_of_stays hws.accepted
    (Path.getLast?_join_name ground.reached.ne_empty hws.isName) hstays

/-- **What one operation for a case makes of what is known of it.** -/
theorem Known.advance (h : Known setting s config options base budget root act c st.files stage)
    (orderly : stage = .rooted ∨ stage.place? ≠ none →
      Ground setting options.workRoot base budget root ∧
        Orderly base st.files (setting.absolute options.workRoot) root stages)
    (deterministic : Deterministic setting subject base config c.plan (limitFor config c) act)
    (regular : ∀ f ∈ s.fixtures, base.Regular setting.directory f) (here : stages[i]? = some stage)
    (advances : Advances s (scratch.environment subject) config options c stage st stage' st') :
    Known setting s config options base budget root act c st'.files stage' := by
  -- the workspace is empty at first, holds the copied fixtures, then what the compiler left; the rest
  -- went wrong, or depends on no files any more
  cases advances with
  | skip skipped => exact .skipped skipped
  | noParents => exact .unprepared
  | parents wanted => exact .rooted wanted
  | unmade => exact .unprepared
  | made made =>
    obtain ⟨ground, horderly⟩ := orderly (.inl rfl)
    obtain ⟨ending, hending, rfl, -, hnone, hfiles⟩ :=
      scratch.exists_workspace ground.reached horderly.keeps made
    cases h with
    | rooted wanted =>
      refine .copying wanted hending (List.nil_append _) ?_
      rw [hfiles]
      exact tree_put_directory horderly.rooted (by simp) hnone
  | unnamed => exact .dropping
  | refused => exact .dropping
  | @copied _ _ ws fixture left n named copied =>
    obtain ⟨ground, horderly⟩ := orderly (.inr nofun)
    cases h with
    | @copying ending before _ wanted isEnding all stocked =>
      have hall : before ++ [fixture] ++ left = s.fixtures := by
        rw [← all, List.append_assoc, List.singleton_append]
      have hfixture : fixture ∈ s.fixtures := by
        rw [← all]
        simp
      exact .copying wanted isEnding hall (horderly.tree_copied ground (isName_nameStart _ isEnding) here
        (regular fixture hfixture) named copied stocked)
  | @ran _ _ ws result executed =>
    obtain ⟨ground, horderly⟩ := orderly (.inr nofun)
    cases h with
    | copying wanted isEnding all stocked =>
      have hws := horderly.workspace ground.reached.ne_empty here (isName_nameStart _ isEnding) rfl
      have hflat := horderly.flat _ _ _ hws here
      obtain ⟨answer, hperform, rfl⟩ := exists_performance executed
      rw [List.append_nil] at all
      rw [all] at stocked
      have hshows := deterministic _ _ _ _ answer horderly.keeps horderly.rooted
        (hws.resolve ground.reached horderly.keeps hflat.there _) hflat.there hperform
      rw [stocked] at hshows
      exact .judging wanted isEnding hshows
  | judged =>
    obtain ⟨ground, horderly⟩ := orderly (.inr nofun)
    cases h with
    | judging wanted isEnding shows =>
      have hws := horderly.workspace ground.reached.ne_empty here (isName_nameStart _ isEnding) rfl
      exact .closing wanted (.of isEnding shows fun p hp => horderly.sees ground hws hp)
  | closed =>
    cases h with
    | closing wanted judged =>
      refine .finished wanted ?_
      rintro rfl
      exact judged
  | dropped => exact .unprepared

/-! ## Whole courses -/

variable {start : Host} {made : List (Nat × Path)}

/-- **So much is known of each case at its stage, whatever the others do.** -/
theorem Interleaved.known
    (h : Interleaved s (scratch.environment subject) config options start made stages st)
    (prepares : Prepares setting options.workRoot start.files base budget root)
    (confined : ∀ c ∈ s.cases, Confined setting subject base config c.plan (limitFor config c))
    (deterministic : ∀ c ∈ s.cases,
      Deterministic setting subject base config c.plan (limitFor config c) act)
    (regular : ∀ f ∈ s.fixtures, base.Regular setting.directory f) (hc : s.cases[i]? = some c)
    (hi : stages[i]? = some stage) :
    Known setting s config options base budget root act c st.files stage := by
  induction h generalizing i c stage with
  | start =>
    rw [List.getElem?_map, Option.map_eq_some_iff] at hi
    obtain ⟨_, -, rfl⟩ := hi
    exact .waiting
  | @advance made stages st₁ st₂ k moved now next before case here advances unused ih =>
    have horder := before.quiet_or_orderly prepares confined
    rcases getElem?_set_cases hi with ⟨rfl, rfl⟩ | ⟨hik, hi⟩
    · -- the case itself goes on
      obtain rfl := Option.some.inj (case.symm.trans hc)
      refine (ih hc here).advance (fun hbusy => ?_) (deterministic _ (List.mem_of_getElem? hc)) regular
        here advances
      rcases horder with hquiet | horderly
      · obtain ⟨hplace, hrooted⟩ := hquiet.idle _ (List.mem_of_getElem? here)
        rcases hbusy with hbusy | hbusy
        · exact absurd hbusy hrooted
        · exact absurd hplace hbusy
      · exact horderly
    · -- another one does
      refine (ih hc hi).congr fun name hname hplace => ?_
      rcases horder with hquiet | ⟨ground, horderly⟩
      · rw [(hquiet.idle _ (List.mem_of_getElem? hi)).1] at hplace
        cases hplace
      · rcases horderly.rests_or_works ground (confined _ (List.mem_of_getElem? case)) here advances with
          hrests | ⟨other, hworks⟩
        · rw [hrests.same]
        · have hne : name ≠ other := by
            rintro rfl
            exact horderly.alone here hworks unused hi hik hplace
          funext rel
          exact hworks.entry?_of_ne hne rel

/-- A case that went well: it was skipped, or its workspace was made, filled, and removed after a run
that ended in time. -/
inductive Stage.WentWell : Stage → Report → Prop where
  | skipped {report : Report} : WentWell (.skipped report) report
  | finished {ws : Path} {report : Report} (intime : report.timedOut = false) :
    WentWell (.finished ws report (.ok ())) report

/-- What is left of a course is such that another one may start from it. -/
theorem Interleaved.prepares
    (h : Interleaved s (scratch.environment subject) config options start made stages st)
    (prepares : Prepares setting options.workRoot start.files base budget root)
    (confined : ∀ c ∈ s.cases, Confined setting subject base config c.plan (limitFor config c)) :
    Prepares setting options.workRoot st.files base budget root := by
  rcases h.quiet_or_orderly prepares confined with hquiet | ⟨ground, horderly⟩
  · rw [hquiet.same]
    exact prepares
  · intro files hfiles
    rw [FileStore.makeDirectories_of_isDirectory (ground.there.imp_right horderly.keeps.isDirectory)]
      at hfiles
    obtain rfl := Except.ok.inj hfiles
    exact ⟨ground, horderly.keeps, horderly.rooted⟩

/-- If a case went well twice, in the same suite but for its other cases, the reports are alike. -/
theorem Known.untimed_eq {cases' : List TestCase} {jobs' : Nat} {r r' : Report}
    (h : Known setting s config options base budget root act c files stage)
    (h' : Known setting { s with cases := cases' } config { options with jobs := jobs' } base budget root
      act c later stage')
    (inside : ∀ a ∈ c.assertions, a.Inside (leftTree (fixtureTree setting s base)
      (act c.plan.argv (fixtureTree setting s base))) c.plan config.platform)
    (well : stage.WentWell r) (well' : stage'.WentWell r') : r.untimed = r'.untimed := by
  -- a case is skipped in both runs or in neither, by the same filter on the same platform
  cases well with
  | skipped =>
    cases h with
    | skipped skips =>
      cases well' with
      | skipped =>
        cases h' with
        | skipped skips' =>
          obtain rfl := Option.some.inj (skips.symm.trans skips')
          rfl
      | finished =>
        cases h' with
        | finished wanted =>
          rw [wanted] at skips
          cases skips
  | finished intime =>
    cases h with
    | finished wanted judged =>
      cases well' with
      | skipped =>
        cases h' with
        | skipped skips' =>
          rw [wanted] at skips'
          cases skips'
      | finished intime' =>
        cases h' with
        | finished _ judged' => exact (judged rfl).untimed_eq (judged' rfl) inside intime intime'

/-- **The report of a case is the same in any company.** Let `base` be the files once the directory for
workspaces was made, and the fixtures regular files in it; let a compiler be confined to the directory
that it is started in, and deterministic there; and let assertions look at nothing but the workspace.
Then all reports on a case that went well are alike but for the time, whatever other cases are in the
suite, however they all go on side by side, and also after the suite was run before. However many cases
run at a time, running a suite is such a course. -/
theorem Suite.reports_isolated {setting : Setting} (scratch : Scratch setting) (subject : Subject)
    (s : Suite) (cases' : List TestCase) (config : RunnerConfig) (options : SuiteOptions) (jobs' : Nat)
    (act : List String → FileTree → Except Cause Effect) (start start' : Host) (base : FileStore)
    (stands : setting.Stands start.files) (rooted : start.files.Rooted)
    (grounded : start.files.makeDirectories setting.directory options.workRoot = .ok base)
    (again : start'.files = start.files ∨ ∃ made stages,
      Interleaved s (scratch.environment subject) config options start made stages start')
    (regular : ∀ f ∈ s.fixtures, base.Regular setting.directory f)
    (confined : ∀ c ∈ s.cases ++ cases', Confined setting subject base config c.plan (limitFor config c))
    (deterministic : ∀ c ∈ s.cases ++ cases',
      Deterministic setting subject base config c.plan (limitFor config c) act)
    (inside : ∀ c ∈ s.cases, ∀ a ∈ c.assertions, a.Inside (leftTree (fixtureTree setting s base)
      (act c.plan.argv (fixtureTree setting s base))) c.plan config.platform) :
    (∀ made stages st made' stages' st',
      Interleaved s (scratch.environment subject) config options start made stages st →
      Interleaved { s with cases := cases' } (scratch.environment subject) config
        { options with jobs := jobs' } start' made' stages' st' →
      ∀ (i j : Nat) (c : TestCase) (stage stage' : Stage) (r r' : Report), s.cases[i]? = some c →
        cases'[j]? = some c → stages[i]? = some stage → stages'[j]? = some stage' →
        stage.WentWell r → stage'.WentWell r' → r.untimed = r'.untimed) ∧
    ∀ (any : Suite) (options : SuiteOptions) (turns : Nat → Nat) (host : Host),
      ∃ made stages reports,
        Interleaved any (scratch.environment subject) config options host made stages
          ((any.run (scratch.environment subject) config options turns).run host).2 ∧
        ((any.run (scratch.environment subject) config options turns).run host).1 =
          ⟨any.name, reports⟩ ∧
        stages.map Stage.report? = reports.map some := by
  obtain ⟨-, budget, root, hprepares⟩ := prepares_of_makeDirectories stands rooted grounded
  have hleft : ∀ c ∈ s.cases, c ∈ s.cases ++ cases' := fun c hc => List.mem_append_left _ hc
  have hright : ∀ c ∈ cases', c ∈ s.cases ++ cases' := fun c hc => List.mem_append_right _ hc
  -- the second run starts from the same files, or from what an earlier course has left
  have hprepares' : Prepares setting options.workRoot start'.files base budget root := by
    rcases again with hsame | ⟨made, stages, hbefore⟩
    · rw [hsame]
      exact hprepares
    · exact hbefore.prepares hprepares fun c hc => confined c (hleft c hc)
  refine ⟨?_, fun any options turns host => any.run_interleaving _ config options turns host⟩
  intro made stages st made' stages' st' hfirst hsecond i j c stage stage' r r' hi hj hstage hstage'
    well well'
  -- what is known of a case in one run and in the other does not tell them apart
  have hknown := hfirst.known hprepares (fun c hc => confined c (hleft c hc))
    (fun c hc => deterministic c (hleft c hc)) regular hi hstage
  have hknown' := hsecond.known hprepares' (fun c hc => confined c (hright c hc))
    (fun c hc => deterministic c (hright c hc)) regular hj hstage'
  exact hknown.untimed_eq hknown' (inside c (List.mem_of_getElem? hi)) well well'

/-! ## A compiler that writes a file -/

/-- The files with an executable in a directory, unless something of that name is there. -/
def stamp (files : FileStore) (loc : Location) : FileStore :=
  match files.entry? (loc ++ ["a.out"]) with
  | some _ => files
  | none => files.put (loc ++ ["a.out"]) (.file (Bytes.ofText "x") true)

/-- Any command writes an executable into the directory that it is started in, and ends. -/
def stamper : Subject := fun setting command host =>
  match host.files.resolve setting.directory true command.directory with
  | .error e => (.error e, host)
  | .ok loc =>
    (.ok ⟨.ok (.code 0), fun _ => .ok (some (.code 0)), .ofMs, fun _ host =>
      (⟨[], [], .zero⟩, { host with files := stamp host.files loc })⟩, host)

/-- The effect of `stamper`. -/
def stampEffect (_ : List String) (held : FileTree) : Except Cause Effect :=
  .ok ⟨.ok (.code 0), [], [], fun rel =>
    if rel = ["a.out"] ∧ held rel = none then some (.file (Bytes.ofText "x") true) else held rel⟩

theorem within_stamp (files : FileStore) (loc : Location) :
    FileStore.Within loc files (stamp files loc) := by
  unfold stamp
  cases files.entry? (loc ++ ["a.out"]) with
  | some e => exact .refl _ _
  | none => exact (FileStore.within_put _ _ _).mono (List.prefix_append _ _)

theorem rooted_stamp (hrooted : files.Rooted) (hdir : files.isDirectoryAt loc = true) :
    (stamp files loc).Rooted := by
  unfold stamp
  cases hentry : files.entry? (loc ++ ["a.out"]) with
  | some e => exact hrooted
  | none => exact hrooted.put hdir (by rw [FileStore.isDirectoryAt, hentry])

theorem stamp_tree (files : FileStore) (loc : Location) : (stamp files loc).tree loc = fun rel =>
    if rel = ["a.out"] ∧ files.tree loc rel = none then some (.file (Bytes.ofText "x") true)
    else files.tree loc rel := by
  funext rel
  unfold stamp
  cases hentry : files.entry? (loc ++ ["a.out"]) with
  | some e =>
    rw [if_neg]
    rintro ⟨rfl, hnone⟩
    rw [FileStore.tree, hentry] at hnone
    cases hnone
  | none =>
    by_cases hrel : rel = ["a.out"]
    · subst hrel
      rw [if_pos ⟨rfl, hentry⟩, FileStore.tree, FileStore.entry?_put_self (by simp)]
    · rw [if_neg (fun h => hrel h.1), FileStore.tree, FileStore.entry?_put_of_ne (by simpa using hrel),
        FileStore.tree]

theorem perform_stamper {command : Command} {host : Host}
    (h : host.files.resolve setting.directory true command.directory = .ok loc) :
    ((stamper setting command).perform none).run host =
      (.ok (.ok (.ended (.code 0)), ⟨[], [], .zero⟩), { host with files := stamp host.files loc }) := by
  have hstart : (stamper setting command).run.run host = (.ok ⟨.ok (.code 0),
      fun _ => .ok (some (.code 0)), .ofMs, fun _ host =>
        (⟨[], [], .zero⟩, { host with files := stamp host.files loc })⟩, host) := by
    change stamper setting command host = _
    rw [stamper, h]
  rw [Action.perform, run_bind_eq hstart]
  rfl

theorem execute_stamper {files : FileStore} {ws : Path} (plan : Plan) (fresh : Nat)
    (h : files.resolve setting.directory true ws = .ok loc) :
    (execute ((Host.scratch setting).environment stamper) hellosConfig plan ws none).run ⟨files, fresh⟩ =
      (performedResult hellosConfig plan ws none (programFor setting hellosConfig) .zero
        (.ok (.ok (.ended (.code 0)), ⟨[], [], .zero⟩)), ⟨stamp files loc, fresh⟩) := by
  refine run_execute (?_ : ((stamper setting _).perform none).run _ = _)
  exact perform_stamper h

theorem confined_stamper (setting : Setting) (base : FileStore) (plan : Plan) :
    Confined setting stamper base hellosConfig plan none := by
  intro ws loc host after answer _ hrooted hresolve hdir hperform
  obtain ⟨-, rfl⟩ := Prod.mk.inj (hperform.symm.trans (perform_stamper hresolve))
  exact ⟨within_stamp host.files loc, rooted_stamp hrooted hdir⟩

theorem deterministic_stamper (setting : Setting) (base : FileStore) (plan : Plan) :
    Deterministic setting stamper base hellosConfig plan none stampEffect := by
  intro ws loc host after answer _ _ hresolve _ hperform
  obtain ⟨rfl, rfl⟩ := Prod.mk.inj (hperform.symm.trans (perform_stamper hresolve))
  change Shows _ _ _ ((stamp host.files loc).tree loc)
  rw [stamp_tree]
  exact .ended rfl rfl

/-- A case that asks for the executable. -/
def stampedCase (name : String) : TestCase :=
  { name
    plan := default
    assertions := [(Check.exitCode 0).toAssertion, (Check.outputNonempty (some ⟨"a.out"⟩)).toAssertion] }

/-- Two such cases, with a fixture. -/
def stamped : Suite := ⟨"s", [stampedCase "c", stampedCase "d"], [⟨"/one/hello.c"⟩]⟩

/-- How `stamped` is run. -/
def stampedOptions : SuiteOptions := ⟨⟨"/work"⟩, none, 1⟩

theorem inside_stamped (name : String) {a : Assertion} (ha : a ∈ (stampedCase name).assertions) :
    a.Inside (leftTree (fixtureTree atRoot stamped hellosFiles) (stampEffect (stampedCase name).plan.argv
      (fixtureTree atRoot stamped hellosFiles))) (stampedCase name).plan hellosConfig.platform := by
  have hnone : fixtureTree atRoot stamped hellosFiles ["a.out"] = none := by
    have hlast : (stamped.fixtures.reverse.find? fun f => f.fileName? = some "a.out") = none := by
      decide
    rw [fixtureTree, stockTree, if_pos rfl, stock, hlast]
    rfl
  have hthere : (leftTree (fixtureTree atRoot stamped hellosFiles)
      (stampEffect (stampedCase name).plan.argv
        (fixtureTree atRoot stamped hellosFiles))).isDirectoryAt [] = true := by
    simp [leftTree, stampEffect, FileTree.isDirectoryAt, stockTree]
  have houtput : IsName "a.out" :=
    ⟨by decide, by decide, by decide, by decide⟩
  simp only [stampedCase, List.mem_cons, List.not_mem_nil, or_false] at ha
  rcases ha with rfl | rfl
  · refine .check (fun _ htime => ?_) fun _ hp => ?_
    · cases htime
    · cases hp
  · refine .check (fun _ htime => ?_) fun p hp => ?_
    · cases htime
    · obtain rfl : Path.mk "a.out" = p := Option.some.inj hp
      refine FileTree.stays_name hthere houtput fun target htarget => ?_
      simp [leftTree, stampEffect, hnone] at htarget

/-- The files after the compiler ran for the first case of `stamped`. -/
def stampedFiles : FileStore :=
  stamp ((hellosFiles.put hellosPlace (.directory true)).put (hellosPlace ++ ["hello.c"])
    (.file (Bytes.ofText "one") false)) hellosPlace

/-- The first case of `stamped` goes well. -/
theorem goes_stamped : ∃ ws report, report.timedOut = false ∧
    Goes stamped ((Host.scratch atRoot).environment stamper) hellosConfig stampedOptions (stampedCase "c")
      .waiting ⟨hellosFiles, 0⟩ (.finished ws report (.ok ())) ⟨stampedFiles.eraseTree hellosPlace, 1⟩ := by
  have hname : startFor stamped (stampedCase "c") = Workspace.nameStart "s_c" := by decide
  have hmade : hellosFiles.Keeps (hellosFiles.put hellosPlace (.directory true)) :=
    FileStore.keeps_put (by decide)
  -- the workspace is made
  have hparents : (((Host.scratch atRoot).environment stamper).makeDirectories ⟨"/work"⟩).Answers
      ⟨hellosFiles, 0⟩ (.ok ()) ⟨hellosFiles, 0⟩ := Host.scratch_makeDirectories isDirectory_work
  have hfresh : (((Host.scratch atRoot).environment stamper).makeFresh ⟨"/work"⟩
      (startFor stamped (stampedCase "c"))).Answers ⟨hellosFiles, 0⟩
      (.ok ((atRoot.absolute ⟨"/work"⟩).join ⟨"s_c_AAAAAA"⟩))
      ⟨hellosFiles.put hellosPlace (.directory true), 1⟩ := by
    rw [hname]
    exact Host.scratch_makeFresh (by decide) reached_work hellos_workspace
  rw [hellos_path] at hfresh
  -- the fixture is copied
  have hcopied := copy_hello stamper 1 hmade (by decide)
    (fun e he => by
      rw [show FileStore.entry? (hellosFiles.put hellosPlace (.directory true))
        (hellosPlace ++ ["hello.c"]) = none by decide] at he
      cases he)
    (find_one _ hmade)
  -- the compiler runs
  have hkeeps : hellosFiles.Keeps ((hellosFiles.put hellosPlace (.directory true)).put
      (hellosPlace ++ ["hello.c"]) (.file (Bytes.ofText "one") false)) :=
    hmade.trans (FileStore.keeps_put (by decide))
  have hresolve := hellos_workspace.resolve reached_work hkeeps (by decide) []
  rw [hellos_path] at hresolve
  have hran := @execute_stamper atRoot hellosPlace _ ⟨"/work/s_c_AAAAAA"⟩ (stampedCase "c").plan 1 hresolve
  -- the workspace is removed
  have hstamped : hellosFiles.Keeps stampedFiles :=
    hellos_workspace.keeps hellosFiles_rooted hkeeps (within_stamp _ hellosPlace)
  have hremoved := @Host.scratch_removeTree atRoot stamper _ _ _ _ 1 _ _ reached_work hellos_workspace
    hstamped (by decide)
  rw [hellos_path] at hremoved
  exact ⟨_, _, rfl, .head (.parents rfl hparents) (.head (.made hfresh)
    (.head (.copied (by decide) hcopied)
      (.head (.ran hran) (.head .judged (.single (.closed hremoved))))))⟩

/-- The first case of `stamped` goes well, and in another run after that, with the cases the other way
round, it has the same report if it goes well again. -/
theorem reports_isolated_stamper : atRoot.Stands hellosFiles ∧ hellosFiles.Rooted ∧
    hellosFiles.makeDirectories [] ⟨"/work"⟩ = .ok hellosFiles ∧
    (∀ f ∈ stamped.fixtures, hellosFiles.Regular [] f) ∧
    (∀ c ∈ stamped.cases ++ stamped.cases.reverse,
      Confined atRoot stamper hellosFiles hellosConfig c.plan (limitFor hellosConfig c)) ∧
    (∀ c ∈ stamped.cases ++ stamped.cases.reverse,
      Deterministic atRoot stamper hellosFiles hellosConfig c.plan (limitFor hellosConfig c) stampEffect) ∧
    (∀ c ∈ stamped.cases, ∀ a ∈ c.assertions,
      a.Inside (leftTree (fixtureTree atRoot stamped hellosFiles)
        (stampEffect c.plan.argv (fixtureTree atRoot stamped hellosFiles))) c.plan
        hellosConfig.platform) ∧
    ∃ made stages st ws report,
      Interleaved stamped ((Host.scratch atRoot).environment stamper) hellosConfig stampedOptions
        ⟨hellosFiles, 0⟩ made stages st ∧
      stages[0]? = some (.finished ws report (.ok ())) ∧ report.timedOut = false ∧
      ∀ made' stages' st' stage' report',
        Interleaved { stamped with cases := stamped.cases.reverse }
          ((Host.scratch atRoot).environment stamper) hellosConfig { stampedOptions with jobs := 2 } st
          made' stages' st' →
        stages'[1]? = some stage' → stage'.WentWell report' → report.untimed = report'.untimed := by
  have hnames : ∀ c ∈ stamped.cases ++ stamped.cases.reverse, ∃ name, c = stampedCase name := by
    intro c hc
    simp only [stamped, List.reverse_cons, List.reverse_nil, List.nil_append, List.mem_append,
      List.mem_cons, List.not_mem_nil, or_false] at hc
    rcases hc with (rfl | rfl) | (rfl | rfl) <;> exact ⟨_, rfl⟩
  have hwork : hellosFiles.makeDirectories [] ⟨"/work"⟩ = .ok hellosFiles :=
    FileStore.makeDirectories_of_isDirectory (.inr isDirectory_work)
  have hregular : ∀ f ∈ stamped.fixtures, hellosFiles.Regular [] f := by
    intro f hf
    obtain rfl := List.mem_singleton.mp hf
    exact ⟨_, _, find_one hellosFiles (.refl _)⟩
  have hconfined : ∀ c ∈ stamped.cases ++ stamped.cases.reverse,
      Confined atRoot stamper hellosFiles hellosConfig c.plan (limitFor hellosConfig c) := by
    intro c hc
    obtain ⟨name, rfl⟩ := hnames c hc
    exact confined_stamper atRoot hellosFiles _
  have hdeterministic : ∀ c ∈ stamped.cases ++ stamped.cases.reverse, Deterministic atRoot stamper
      hellosFiles hellosConfig c.plan (limitFor hellosConfig c) stampEffect := by
    intro c hc
    obtain ⟨name, rfl⟩ := hnames c hc
    exact deterministic_stamper atRoot hellosFiles _
  have hinside : ∀ c ∈ stamped.cases, ∀ a ∈ c.assertions,
      a.Inside (leftTree (fixtureTree atRoot stamped hellosFiles)
        (stampEffect c.plan.argv (fixtureTree atRoot stamped hellosFiles))) c.plan
        hellosConfig.platform := by
    intro c hc a ha
    obtain ⟨name, rfl⟩ := hnames c (List.mem_append_left _ hc)
    exact inside_stamped name ha
  obtain ⟨ws, report, hintime, hgoes⟩ := goes_stamped
  obtain ⟨made, hfirst⟩ := Interleaved.start.goes (i := 0) (c := stampedCase "c") rfl rfl
    (fun j other _ hj => by
      obtain ⟨_, -, rfl⟩ := List.mem_map.mp (List.mem_of_getElem? hj)
      rfl) hgoes
  refine ⟨stands_atRoot _, hellosFiles_rooted, hwork, hregular, hconfined, hdeterministic, hinside,
    made, _, _, ws, report, hfirst, rfl, hintime, ?_⟩
  intro made' stages' st' stage' report' hsecond hstage' hwell'
  have hisolated := Suite.reports_isolated (Host.scratch atRoot) stamper stamped stamped.cases.reverse
    hellosConfig stampedOptions 2 stampEffect ⟨hellosFiles, 0⟩ _ hellosFiles (stands_atRoot _)
    hellosFiles_rooted hwork (.inr ⟨made, _, hfirst⟩) hregular hconfined hdeterministic hinside
  exact hisolated.1 _ _ _ _ _ _ hfirst hsecond 0 1 (stampedCase "c") _ stage' report report' rfl rfl rfl
    hstage' (.finished hintime) hwell'

end Conformance
