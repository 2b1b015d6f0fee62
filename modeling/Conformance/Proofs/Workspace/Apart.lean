import Conformance.Proofs.Suite.Schedule
import Conformance.Proofs.Workspace.Scratch

/-!
# Workspaces side by side

While the cases of a suite go on side by side, each changes nothing but its own workspace.

* `Confined` : what a compiler does stays in the directory that it is started in;
* `Ground` : files with the directory of the workspaces;
* `Orderly` : each case that is in a workspace has one of its own;
* `Rests`, `Works` : an operation that changes nothing, and one in a workspace;
  `Orderly.rests_or_works` : there are no others;
* `Orderly.advance`, `Interleaved.quiet_or_orderly` : one operation, and a whole course.
-/

namespace Conformance

open FileStore (Within)

variable {setting : Setting} {scratch : Scratch setting} {subject : Subject} {s : Suite}
  {config : RunnerConfig} {options : SuiteOptions} {c : TestCase} {base before after : FileStore}
  {budget : Nat} {root : Location} {stages : List Stage} {stage stage' : Stage} {i : Nat}
  {parent : Path} {name other : String}

/-- Carrying out a plan changes nothing but the directory that the compiler is started in, as long as
what stood at first is as it was. -/
def Confined (setting : Setting) (subject : Subject) (base : FileStore) (config : RunnerConfig)
    (plan : Plan) (limit : Option Duration) : Prop :=
  ∀ (ws : Path) (loc : Location) (host after : Host) (answer : Performance),
    base.Keeps host.files → host.files.Rooted →
    host.files.resolve setting.directory true ws = .ok loc → host.files.isDirectoryAt loc = true →
    ((subject setting (commandFor (Host.environment setting subject) config plan ws)).perform
      limit).run host = (answer, after) →
    Within loc host.files after.files ∧ after.files.Rooted

/-- Files with the directory of the workspaces. -/
structure Ground (setting : Setting) (workRoot : Path) (base : FileStore) (budget : Nat)
    (root : Location) : Prop where
  rooted : base.Rooted
  there : workRoot.text.isEmpty = true ∨ base.isDirectory setting.directory workRoot = true
  /-- So it is on its absolute path. -/
  reached : base.Reached (setting.absolute workRoot) budget root

/-! ## One workspace each -/

/-- A directory with nothing but regular files in it. -/
structure Flat (files : FileStore) (loc : Location) : Prop where
  there : files.isDirectoryAt loc = true
  regular : ∀ n e, files.entry? (loc ++ [n]) = some e → ∃ content executable, e = .file content executable

/-- Each case that is in a workspace has one of its own, and what stood at first is as it was. -/
structure Orderly (base files : FileStore) (parent : Path) (root : Location) (stages : List Stage) :
    Prop where
  keeps : base.Keeps files
  rooted : files.Rooted
  /-- Workspaces stand directly in the directory for them. -/
  housed : ∀ (i : Nat) (stage : Stage) (ws : Path), stages[i]? = some stage → stage.place? = some ws →
    ∃ name, ws = parent.join ⟨name⟩ ∧ IsWorkspace base parent root name
  /-- Before anything is run in a workspace, it holds regular files only. -/
  flat : ∀ (i : Nat) (name : String) (left : List Path), IsWorkspace base parent root name →
    stages[i]? = some (.copying (parent.join ⟨name⟩) left) → Flat files (root ++ [name])
  /-- No two cases are in one workspace. -/
  apart : ∀ (i j : Nat) (stage stage' : Stage) (ws : Path), stages[i]? = some stage →
    stages[j]? = some stage' → stage.place? = some ws → stage'.place? = some ws → i = j

/-- Of the stages, one was changed. -/
theorem getElem?_set_cases {j : Nat} {found : Stage} (h : (stages.set i stage')[j]? = some found) :
    j = i ∧ found = stage' ∨ j ≠ i ∧ stages[j]? = some found := by
  by_cases hj : j = i
  · subst hj
    rw [List.getElem?_set_self'] at h
    obtain ⟨_, -, heq⟩ := Option.map_eq_some_iff.mp h
    exact .inl ⟨rfl, heq.symm⟩
  · rw [List.getElem?_set_ne (Ne.symm hj)] at h
    exact .inr ⟨hj, h⟩

/-! ## Operations -/

/-- An operation that changes nothing. -/
structure Rests (before after : FileStore) (stage stage' : Stage) : Prop where
  same : after = before
  /-- A case gets into no workspace by it. -/
  stays : ∀ ws, stage'.place? = some ws → stage.place? = some ws
  /-- It prepares no workspace. -/
  prepares : ∀ ws left, stage' ≠ .copying ws left

theorem Rests.of_idle (same : after = before) (idle : stage'.place? = none) :
    Rests before after stage stage' := by
  refine ⟨same, fun ws hplace => ?_, ?_⟩
  · rw [idle] at hplace
    cases hplace
  · rintro ws left rfl
    cases idle

/-- An operation in the workspace of a name, be it one that makes it. -/
structure Works (base before after : FileStore) (parent : Path) (root : Location)
    (stage stage' : Stage) (name : String) : Prop where
  /-- The workspace stands directly in the directory for workspaces. -/
  workspace : IsWorkspace base parent root name
  /-- The case is in it, or gets into it, and then nothing stood there. -/
  own : stage.place? = some (parent.join ⟨name⟩) ∨
    stage.made? stage' = some (parent.join ⟨name⟩) ∧ before.entry? (root ++ [name]) = none
  /-- A case gets into no other workspace by it. -/
  stays : ∀ ws, stage'.place? = some ws → ws = parent.join ⟨name⟩
  within : Within (root ++ [name]) before after
  rooted : after.Rooted
  /-- If fixtures are to be copied, there are regular files only. -/
  flat : ∀ left, stage' = .copying (parent.join ⟨name⟩) left → Flat after (root ++ [name])

/-- What stands in other workspaces is as it was. -/
theorem Works.entry?_of_ne (h : Works base before after parent root stage stage' name)
    (hne : other ≠ name) (rel : Location) :
    after.entry? (root ++ [other] ++ rel) = before.entry? (root ++ [other] ++ rel) :=
  h.within.entry?_append (by simp) (by simpa using hne.symm)

theorem Flat.congr {loc : Location} (h : Flat before loc)
    (heq : ∀ rel, after.entry? (loc ++ rel) = before.entry? (loc ++ rel)) : Flat after loc := by
  have hloc := heq []
  rw [List.append_nil] at hloc
  refine ⟨?_, fun n e hentry => h.regular n e ?_⟩
  · rw [FileStore.isDirectoryAt_congr hloc]
    exact h.there
  · rw [← heq, hentry]

/-- A new directory is empty. -/
theorem flat_put (hrooted : before.Rooted) (hnone : before.entry? (root ++ [name]) = none) :
    Flat (before.put (root ++ [name]) (.directory true)) (root ++ [name]) := by
  refine ⟨FileStore.isDirectoryAt_of_entry? (FileStore.entry?_put_self (by simp)), fun n e hentry => ?_⟩
  rw [FileStore.entry?_put_of_ne (by simp), hrooted.entry?_below hnone] at hentry
  cases hentry

/-- A regular file may be put into a directory with such files only. -/
theorem Flat.put {loc : Location} {n : String} {content : Bytes} {executable : Bool}
    (h : Flat before loc) : Flat (before.put (loc ++ [n]) (.file content executable)) loc := by
  refine ⟨?_, fun m e hentry => ?_⟩
  · rw [FileStore.isDirectoryAt_congr (FileStore.entry?_put_of_ne (by simp))]
    exact h.there
  · by_cases hm : m = n
    · subst hm
      rw [FileStore.entry?_put_self (by simp)] at hentry
      exact ⟨content, executable, (Option.some.inj hentry).symm⟩
    · rw [FileStore.entry?_put_of_ne (by simpa using hm)] at hentry
      exact h.regular m e hentry

/-- No name of a directory is in a directory with regular files only. -/
theorem Flat.isDirectoryAt_name {loc : Location} (h : Flat before loc) (n : String) :
    before.isDirectoryAt (loc ++ [n]) = false := by
  rw [Bool.eq_false_iff]
  intro hdir
  obtain ⟨readable, hentry⟩ := FileStore.isDirectoryAt_iff.mp hdir
  obtain ⟨_, _, heq⟩ := h.regular n _ hentry
  cases heq

variable {st st' : Host}

/-- A workspace is made where nothing stood. -/
theorem Orderly.made {ws : Path} (h : Orderly base st.files (setting.absolute options.workRoot) root stages)
    (ground : Ground setting options.workRoot base budget root)
    (made : ((scratch.environment subject).makeFresh options.workRoot
      (Workspace.nameStart s!"{s.name}_{c.name}")).Answers st (.ok ws) st') :
    ∃ name, Works base st.files st'.files (setting.absolute options.workRoot) root .rooted
      (.copying ws s.fixtures) name := by
  obtain ⟨ending, -, rfl, hws, hnone, hfiles⟩ := scratch.exists_workspace ground.reached h.keeps made
  refine ⟨_, hws, .inr ⟨rfl, hnone⟩, ?_, ?_, ?_, ?_⟩
  · intro ws hplace
    exact (Option.some.inj hplace).symm
  · rw [hfiles]
    exact FileStore.within_put _ _ _
  · rw [hfiles]
    exact h.rooted.put (ground.reached.keeps h.keeps).directory (by rw [FileStore.isDirectoryAt, hnone])
  · intro _ _
    rw [hfiles]
    exact flat_put h.rooted hnone

/-- A regular file is copied into a workspace. -/
theorem Orderly.exists_put {fixture : Path} {left : List Path} {n : String}
    (h : Orderly base st.files (setting.absolute options.workRoot) root stages)
    (ground : Ground setting options.workRoot base budget root)
    (hws : IsWorkspace base (setting.absolute options.workRoot) root name)
    (here : stages[i]? = some (.copying ((setting.absolute options.workRoot).join ⟨name⟩)
      (fixture :: left)))
    (named : fixture.fileName? = some n)
    (copied : ((scratch.environment subject).copyFile fixture
      (((setting.absolute options.workRoot).join ⟨name⟩).join ⟨n⟩)).Answers st (.ok ()) st') :
    ∃ content executable, st.files.find setting.directory fixture = .ok (.file content executable) ∧
      st'.files = st.files.put (root ++ [name] ++ [n]) (.file content executable) := by
  have hflat := h.flat _ _ _ hws here
  have hreached := hws.reached ground.reached h.keeps hflat.there
  rcases Scratch.copyFile_answers copied with ⟨-, hcopy⟩ | ⟨_, heq, -⟩
  · exact hreached.copy_name (Path.isName_of_fileName? named) (hflat.regular n) hcopy
  · cases heq

/-- A fixture is copied into a workspace. -/
theorem Orderly.copied {ws fixture : Path} {left : List Path} {n : String}
    (h : Orderly base st.files (setting.absolute options.workRoot) root stages)
    (ground : Ground setting options.workRoot base budget root)
    (here : stages[i]? = some (.copying ws (fixture :: left))) (named : fixture.fileName? = some n)
    (copied : ((scratch.environment subject).copyFile fixture (ws.join ⟨n⟩)).Answers st (.ok ()) st') :
    ∃ name, Works base st.files st'.files (setting.absolute options.workRoot) root
      (.copying ws (fixture :: left)) (.copying ws left) name := by
  obtain ⟨name, rfl, hws⟩ := h.housed _ _ _ here rfl
  have hflat := h.flat _ _ _ hws here
  obtain ⟨content, executable, -, hfiles⟩ := h.exists_put ground hws here named copied
  refine ⟨name, hws, .inl rfl, ?_, ?_, ?_, ?_⟩
  · intro ws hplace
    exact (Option.some.inj hplace).symm
  · rw [hfiles]
    exact (FileStore.within_put _ _ _).mono (List.prefix_append _ _)
  · rw [hfiles]
    exact h.rooted.put hflat.there (hflat.isDirectoryAt_name n)
  · intro _ _
    rw [hfiles]
    exact hflat.put

/-- A compiler is run in a workspace. -/
theorem Orderly.ran {ws : Path} {result : RunResult}
    (h : Orderly base st.files (setting.absolute options.workRoot) root stages)
    (ground : Ground setting options.workRoot base budget root)
    (confined : Confined setting subject base config c.plan (limitFor config c))
    (here : stages[i]? = some (.copying ws []))
    (executed : (execute (scratch.environment subject) config c.plan ws (limitFor config c)).run st =
      (result, st')) :
    ∃ name, Works base st.files st'.files (setting.absolute options.workRoot) root
      (.copying ws []) (.judging ws result) name := by
  obtain ⟨name, rfl, hws⟩ := h.housed _ _ _ here rfl
  have hflat := h.flat _ _ _ hws here
  obtain ⟨answer, hperform, -⟩ := exists_performance executed
  obtain ⟨hwithin, hrooted⟩ := confined _ _ _ _ answer h.keeps h.rooted
    (hws.resolve ground.reached h.keeps hflat.there _) hflat.there hperform
  refine ⟨name, hws, .inl rfl, ?_, hwithin, hrooted, ?_⟩
  · intro ws hplace
    exact (Option.some.inj hplace).symm
  · intro _ heq
    cases heq

/-- A workspace is removed, or is not. -/
theorem Orderly.removed (stage' : Stage) {ws : Path} {removal : Except Cause Unit}
    (h : Orderly base st.files (setting.absolute options.workRoot) root stages)
    (ground : Ground setting options.workRoot base budget root) (here : stages[i]? = some stage)
    (hplace : stage.place? = some ws) (hleft : stage'.place? = none)
    (removed : ((scratch.environment subject).removeTree ws).Answers st removal st') :
    ∃ name, Works base st.files st'.files (setting.absolute options.workRoot) root stage stage' name ∧
      ws = (setting.absolute options.workRoot).join ⟨name⟩ ∧
      (removal = .ok () → st'.files.entry? (root ++ [name]) = none) := by
  obtain ⟨name, rfl, hws⟩ := h.housed _ _ _ here hplace
  obtain ⟨hwithin, hrooted, hgone⟩ :=
    scratch.remove_within (ground.reached.keeps h.keeps) hws.isName removed
  refine ⟨name, ⟨hws, .inl hplace, ?_, hwithin, hrooted h.rooted, ?_⟩, rfl, hgone⟩
  · intro ws hplace'
    rw [hleft] at hplace'
    cases hplace'
  · rintro left rfl
    cases hleft

/-- **Every operation changes nothing, or is one in a single workspace.** -/
theorem Orderly.rests_or_works
    (h : Orderly base st.files (setting.absolute options.workRoot) root stages)
    (ground : Ground setting options.workRoot base budget root)
    (confined : Confined setting subject base config c.plan (limitFor config c))
    (here : stages[i]? = some stage)
    (advances : Advances s (scratch.environment subject) config options c stage st stage' st') :
    Rests st.files st'.files stage stage' ∨
      ∃ name, Works base st.files st'.files (setting.absolute options.workRoot) root stage stage' name := by
  cases advances with
  | skip => exact .inl (.of_idle rfl rfl)
  | noParents _ refused =>
    rcases Scratch.makeDirectories_answers refused with ⟨heq, -⟩ | ⟨_, -, -, hfiles⟩
    · cases heq
    · exact .inl (.of_idle hfiles rfl)
  | parents _ made =>
    -- the directory for workspaces is there already, so to make it changes nothing
    have hthere := ground.there.imp_right h.keeps.isDirectory
    rcases Scratch.makeDirectories_answers made with ⟨-, hmade⟩ | ⟨_, heq, -⟩
    · rw [FileStore.makeDirectories_of_isDirectory hthere] at hmade
      exact .inl (.of_idle (Except.ok.inj hmade).symm rfl)
    · cases heq
  | unmade refused => exact .inl (.of_idle (scratch.make_error refused) rfl)
  | made made => exact .inr (h.made ground made)
  | unnamed => exact .inl ⟨rfl, fun _ hplace => hplace, nofun⟩
  | refused _ refused =>
    rcases Scratch.copyFile_answers refused with ⟨heq, -⟩ | ⟨_, -, -, hfiles⟩
    · cases heq
    · exact .inl ⟨hfiles, fun _ hplace => hplace, nofun⟩
  | copied named copied => exact .inr (h.copied ground here named copied)
  | ran executed => exact .inr (h.ran ground confined here executed)
  | judged => exact .inl ⟨rfl, fun _ hplace => hplace, nofun⟩
  | @closed _ _ ws report removal removed =>
    obtain ⟨name, hworks, -⟩ :=
      h.removed (.finished ws (closedReport ws report removal) removal) ground here rfl rfl removed
    exact .inr ⟨name, hworks⟩
  | @dropped _ _ _ e _ removed =>
    obtain ⟨name, hworks, -⟩ := h.removed (.unprepared (c.setupFailure e)) ground here rfl rfl removed
    exact .inr ⟨name, hworks⟩

/-! ## Order is kept -/

theorem Orderly.rests (h : Orderly base before parent root stages) (here : stages[i]? = some stage)
    (hrests : Rests before after stage stage') : Orderly base after parent root (stages.set i stage') := by
  rw [hrests.same]
  constructor
  case keeps => exact h.keeps
  case rooted => exact h.rooted
  case housed =>
    intro j found ws hj hplace
    rcases getElem?_set_cases hj with ⟨-, rfl⟩ | ⟨-, hj⟩
    · exact h.housed i stage ws here (hrests.stays ws hplace)
    · exact h.housed j found ws hj hplace
  case flat =>
    intro j name left hws hj
    rcases getElem?_set_cases hj with ⟨-, heq⟩ | ⟨-, hj⟩
    · exact absurd heq.symm (hrests.prepares _ _)
    · exact h.flat j name left hws hj
  case apart =>
    -- whoever is in a workspace now was in it before
    have hbefore : ∀ (j : Nat) (found : Stage) (ws : Path), (stages.set i stage')[j]? = some found →
        found.place? = some ws → ∃ found', stages[j]? = some found' ∧ found'.place? = some ws := by
      intro j found ws hj hplace
      rcases getElem?_set_cases hj with ⟨rfl, rfl⟩ | ⟨-, hj⟩
      · exact ⟨stage, here, hrests.stays ws hplace⟩
      · exact ⟨found, hj, hplace⟩
    intro j k found found' ws hj hk hplace hplace'
    obtain ⟨_, hj, hplace⟩ := hbefore j found ws hj hplace
    obtain ⟨_, hk, hplace'⟩ := hbefore k found' ws hk hplace'
    exact h.apart j k _ _ ws hj hk hplace hplace'

/-- Who works in a workspace is the only one in it. -/
theorem Orderly.alone (h : Orderly base before parent root stages) (here : stages[i]? = some stage)
    (hworks : Works base before after parent root stage stage' name)
    (unused : ∀ ws, stage.made? stage' = some ws → ∀ other ∈ stages, other.place? ≠ some ws) {j : Nat}
    {found : Stage} (hj : stages[j]? = some found) (hji : j ≠ i) :
    found.place? ≠ some (parent.join ⟨name⟩) := by
  intro hplace
  rcases hworks.own with hown | ⟨hmade, -⟩
  · exact hji (h.apart j i found stage _ hj here hplace hown)
  · exact unused _ hmade found (List.mem_of_getElem? hj) hplace

theorem Orderly.works (h : Orderly base before parent root stages) (hrooted : base.Rooted)
    (hparent : parent.text ≠ "") (here : stages[i]? = some stage)
    (hworks : Works base before after parent root stage stage' name)
    (unused : ∀ ws, stage.made? stage' = some ws → ∀ other ∈ stages, other.place? ≠ some ws) :
    Orderly base after parent root (stages.set i stage') := by
  constructor
  case keeps => exact hworks.workspace.keeps hrooted h.keeps hworks.within
  case rooted => exact hworks.rooted
  case housed =>
    intro j found ws hj hplace
    rcases getElem?_set_cases hj with ⟨-, rfl⟩ | ⟨-, hj⟩
    · exact ⟨name, hworks.stays ws hplace, hworks.workspace⟩
    · exact h.housed j found ws hj hplace
  case flat =>
    intro j other left hws hj
    rcases getElem?_set_cases hj with ⟨-, rfl⟩ | ⟨hji, hj⟩
    · -- the stage that was changed is at the workspace that was worked in
      obtain rfl : other = name := Path.join_name_inj hparent hws.isName hworks.workspace.isName
        (hworks.stays _ rfl)
      exact hworks.flat left rfl
    · have hne : other ≠ name := by
        rintro rfl
        exact h.alone here hworks unused hj hji rfl
      exact (h.flat j other left hws hj).congr (hworks.entry?_of_ne hne)
  case apart =>
    -- nobody else is in the workspace
    have halone : ∀ (j : Nat) (found : Stage), j ≠ i → (stages.set i stage')[j]? = some found →
        found.place? ≠ some (parent.join ⟨name⟩) := by
      intro j found hji hj
      rw [List.getElem?_set_ne (Ne.symm hji)] at hj
      exact h.alone here hworks unused hj hji
    intro j k found found' ws hj hk hplace hplace'
    -- of two cases in one workspace, neither or both are the one that works
    rcases getElem?_set_cases hj with ⟨rfl, rfl⟩ | ⟨hji, hj'⟩
    · rw [hworks.stays ws hplace] at hplace'
      by_contra hjk
      exact halone k found' (Ne.symm hjk) hk hplace'
    · rcases getElem?_set_cases hk with ⟨rfl, rfl⟩ | ⟨-, hk'⟩
      · rw [hworks.stays ws hplace'] at hplace
        exact absurd hplace (halone j found hji hj)
      · exact h.apart j k found found' ws hj' hk' hplace hplace'

/-- **Every operation keeps order.** -/
theorem Orderly.advance
    (h : Orderly base st.files (setting.absolute options.workRoot) root stages)
    (ground : Ground setting options.workRoot base budget root)
    (confined : Confined setting subject base config c.plan (limitFor config c))
    (here : stages[i]? = some stage)
    (advances : Advances s (scratch.environment subject) config options c stage st stage' st')
    (unused : ∀ ws, stage.made? stage' = some ws → ∀ other ∈ stages, other.place? ≠ some ws) :
    Orderly base st'.files (setting.absolute options.workRoot) root (stages.set i stage') := by
  rcases h.rests_or_works ground confined here advances with hrests | ⟨name, hworks⟩
  · exact h.rests here hrests
  · exact h.works ground.rooted ground.reached.ne_empty here hworks unused

/-! ## From the start on -/

/-- What the files are after the directory of the workspaces was made: all that stood at first is
kept, which has that directory already. -/
def Prepares (setting : Setting) (workRoot : Path) (start base : FileStore) (budget : Nat)
    (root : Location) : Prop :=
  ∀ files, start.makeDirectories setting.directory workRoot = .ok files →
    Ground setting workRoot base budget root ∧ base.Keeps files ∧ files.Rooted

/-- Files with a working directory are prepared by making the directory for workspaces. -/
theorem prepares_of_makeDirectories {start : FileStore} {workRoot : Path}
    (stands : setting.Stands start) (rooted : start.Rooted)
    (hmade : start.makeDirectories setting.directory workRoot = .ok base) :
    start.Keeps base ∧ ∃ budget root, Prepares setting workRoot start base budget root := by
  have hchanges := FileStore.makeDirectories_changes hmade
  obtain ⟨budget, root, hreached⟩ := (stands.keeps hchanges.keeps).exists_reached hchanges.there
  refine ⟨hchanges.keeps, budget, root, fun files hfiles => ?_⟩
  rw [hmade] at hfiles
  obtain rfl := Except.ok.inj hfiles
  exact ⟨⟨hchanges.rooted rooted, hchanges.there, hreached⟩, .refl base, hchanges.rooted rooted⟩

/-- Whether the directory for workspaces can be made or not, the files are prepared for it. -/
theorem exists_prepares {start : FileStore} (stands : setting.Stands start) (rooted : start.Rooted)
    (workRoot : Path) : ∃ base budget root, start.Keeps base ∧
      Prepares setting workRoot start base budget root := by
  cases hmade : start.makeDirectories setting.directory workRoot with
  | error e =>
    refine ⟨start, 0, [], .refl start, fun files hfiles => ?_⟩
    rw [hmade] at hfiles
    cases hfiles
  | ok base =>
    obtain ⟨hkeeps, budget, root, hprepares⟩ := prepares_of_makeDirectories stands rooted hmade
    exact ⟨base, budget, root, hkeeps, hprepares⟩

/-- What is confined as long as some files are kept is so as long as more are. -/
theorem Confined.mono {start : FileStore} {plan : Plan} {limit : Option Duration}
    (h : Confined setting subject start config plan limit) (hkeeps : start.Keeps base) :
    Confined setting subject base config plan limit :=
  fun ws loc host after answer hhost => h ws loc host after answer (hkeeps.trans hhost)

/-- No directory was made for any case. -/
structure Quiet (start files : FileStore) (made : List (Nat × Path)) (stages : List Stage) : Prop where
  same : files = start
  none_made : made = []
  /-- No case is in one, or will get into one next. -/
  idle : ∀ stage ∈ stages, stage.place? = none ∧ stage ≠ .rooted

variable {start : Host} {made : List (Nat × Path)}

/-- No workspace is made before the directory for workspaces is. -/
theorem Quiet.made?_eq_none {σ : Type} {env : Environment σ} {st st' : σ} {start files : FileStore}
    (h : Quiet start files made stages) (here : stages[i]? = some stage)
    (advances : Advances s env config options c stage st stage' st') : stage.made? stage' = none := by
  rw [Option.eq_none_iff_forall_ne_some]
  intro ws hws
  exact (h.idle stage (List.mem_of_getElem? here)).2 (advances.rooted_of_made hws)

/-- The first directory that is made is the one for workspaces. -/
theorem Quiet.advance (h : Quiet start.files st.files made stages)
    (prepares : Prepares setting options.workRoot start.files base budget root)
    (here : stages[i]? = some stage)
    (advances : Advances s (scratch.environment subject) config options c stage st stage' st') :
    Quiet start.files st'.files (made ++ ((stage.made? stage').map (i, ·)).toList)
        (stages.set i stage') ∨
      Ground setting options.workRoot base budget root ∧
        Orderly base st'.files (setting.absolute options.workRoot) root (stages.set i stage') := by
  rw [h.made?_eq_none here advances, Option.map_none, Option.toList_none, List.append_nil]
  obtain ⟨hplace, hrooted⟩ := h.idle stage (List.mem_of_getElem? here)
  -- a case that is skipped or fails at once leaves all quiet
  have hquiet : ∀ report, st'.files = st.files → (stage' = .skipped report ∨ stage' = .unprepared report) →
      Quiet start.files st'.files made (stages.set i stage') := by
    intro report hfiles hstage
    refine ⟨hfiles.trans h.same, h.none_made, fun found hfound => ?_⟩
    rcases List.mem_or_eq_of_mem_set hfound with hmem | rfl
    · exact h.idle found hmem
    · rcases hstage with rfl | rfl <;> exact ⟨rfl, nofun⟩
  cases advances with
  | skip => exact .inl (hquiet _ rfl (.inl rfl))
  | noParents _ refused =>
    refine .inl ?_
    rcases Scratch.makeDirectories_answers refused with ⟨heq, -⟩ | ⟨_, -, -, hfiles⟩
    · cases heq
    · exact hquiet _ hfiles (.inr rfl)
  | parents _ made =>
    refine .inr ?_
    rcases Scratch.makeDirectories_answers made with ⟨-, hmade⟩ | ⟨_, heq, -⟩
    · rw [h.same] at hmade
      obtain ⟨hground, hkeeps, hfiles⟩ := prepares _ hmade
      -- nobody is in a workspace
      have hnone : ∀ (j : Nat) (found : Stage), (stages.set i .rooted)[j]? = some found →
          found.place? = none := by
        intro j found hj
        rcases getElem?_set_cases hj with ⟨-, rfl⟩ | ⟨-, hj⟩
        · rfl
        · exact (h.idle found (List.mem_of_getElem? hj)).1
      refine ⟨hground, hkeeps, hfiles, ?_, ?_, ?_⟩
      · intro j found ws hj hinside
        rw [hnone j found hj] at hinside
        cases hinside
      · intro j name left _ hj
        have hinside := hnone j _ hj
        cases hinside
      · intro j k found found' ws hj _ hinside
        rw [hnone j found hj] at hinside
        cases hinside
    · cases heq
  | unmade => exact absurd rfl hrooted
  | made => exact absurd rfl hrooted
  | _ => cases hplace

/-- **While cases go on side by side, there are no workspaces yet, or each case has its own.** -/
theorem Interleaved.quiet_or_orderly
    (h : Interleaved s (scratch.environment subject) config options start made stages st)
    (prepares : Prepares setting options.workRoot start.files base budget root)
    (confined : ∀ c ∈ s.cases, Confined setting subject base config c.plan (limitFor config c)) :
    Quiet start.files st.files made stages ∨ Ground setting options.workRoot base budget root ∧
      Orderly base st.files (setting.absolute options.workRoot) root stages := by
  induction h with
  | start =>
    refine .inl ⟨rfl, rfl, fun stage hstage => ?_⟩
    obtain ⟨_, -, rfl⟩ := List.mem_map.mp hstage
    exact ⟨rfl, nofun⟩
  | advance _ case here advances unused ih =>
    rcases ih with hquiet | ⟨hground, horderly⟩
    · exact hquiet.advance prepares here advances
    · exact .inr ⟨hground, horderly.advance hground (confined _ (List.mem_of_getElem? case)) here
        advances unused⟩

end Conformance
