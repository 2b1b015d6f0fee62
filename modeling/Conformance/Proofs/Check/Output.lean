import Conformance.Proofs.Check.Local

/-!
# What checks of an output say

Checks of five kinds look at the file that a run was to write, each in its own way. What they say comes
down to what the path of the file leads to.

* `OutputQuestion`, `OutputQuestion.Holds` : what a check asks, and when the answer is yes;
* `OutputQuestion.passes_check_iff` : a check passes if its path leads to what it asks for;
* `outputVerdicts_consistent` : the checks do not contradict each other;
* `passes_missing_iff` : where nothing is, every check that asks for a file fails, unless it asks for a
  file of unknown format.
-/

namespace Conformance

variable {view : FileView} {store : FileStore} {cwd : Location} {result : RunResult} {ws p : Path}
  {path : Option Path} {platform : Platform} {kind : ArtifactKind}

/-! ## Questions -/

/-- The format of what a path leads to. Only regular files have one. -/
def Entry.format : Entry → ArtifactKind
  | .file content _ => (Classification.ofFile content).kind
  | _ => .unknown

/-- What a check asks of an output. -/
inductive OutputQuestion where
  /-- Is it a regular file? -/
  | regular
  /-- Is there nothing? -/
  | absent
  /-- Is it a regular file with content? -/
  | nonempty
  /-- Does it have the format? -/
  | format (kind : ArtifactKind)
  /-- Does it have the native format of the platform? -/
  | native
  deriving DecidableEq

namespace OutputQuestion

/-- The check that asks a question of a path, or of the output that the plan is expected to write. -/
def check : OutputQuestion → Option Path → Check
  | .regular => .outputExists
  | .absent => .outputAbsent
  | .nonempty => .outputNonempty
  | .format kind => .outputKind kind
  | .native => .nativeBinary

/-- The answer is yes on a platform, where a path leads to the entry that is `there`, or to nothing. -/
def Holds (platform : Platform) (there : Entry → Prop) : OutputQuestion → Prop
  | .regular => ∃ content executable, there (.file content executable)
  | .absent => ∀ e, ¬ there e
  | .nonempty => ∃ content executable, there (.file content executable) ∧ content ≠ []
  | .format kind => (∃ e, there e ∧ e.format = kind) ∨ kind = .unknown ∧ ∀ e, ¬ there e
  | .native => ∃ kind, platform.nativeKind? = some kind ∧ ∃ e, there e ∧ e.format = kind

end OutputQuestion

/-- A check of a run passes. -/
def Check.Passes (check : Check) (view : FileView) (result : RunResult) (ws : Path) : Prop :=
  (check.evaluate view result ws).passed = true

/-! ## Looking -/

namespace FileView

theorem isFile_iff : view.isFile p = true ↔
    ∃ content executable, view.find p = .ok (.file content executable) := by
  unfold isFile
  split <;> simp_all

theorem present_iff : view.present p = true ↔ ∃ e, view.find p = .ok e := by
  unfold present
  split <;> simp_all

theorem size?_pos_iff : 0 < (view.size? p).getD 0 ↔
    ∃ content executable, view.find p = .ok (.file content executable) ∧ content ≠ [] := by
  unfold size?
  split <;> simp_all [List.length_pos_iff]

theorem classify_of_find {e : Entry} (h : view.find p = .ok e) : (view.classify p).kind = e.format := by
  unfold classify read
  rw [h]
  cases e <;> rfl

theorem classify_of_missing (h : ∀ e, view.find p ≠ .ok e) : view.classify p = .empty := by
  unfold classify read
  cases hfind : view.find p with
  | ok e => exact absurd hfind (h e)
  | error e => rfl

/-- The format that is found at a path is that of what is there, or the unknown one. -/
theorem classify_kind_eq_iff : (view.classify p).kind = kind ↔
    (∃ e, view.find p = .ok e ∧ e.format = kind) ∨ kind = .unknown ∧ ∀ e, view.find p ≠ .ok e := by
  by_cases hthere : ∃ e, view.find p = .ok e
  · obtain ⟨e, he⟩ := hthere
    rw [classify_of_find he]
    simp [he]
  · rw [classify_of_missing fun e he => hthere ⟨e, he⟩]
    simp_all [Classification.empty, eq_comm]

theorem isNativeFor_iff : view.isNativeFor p platform = true ↔
    ∃ kind, platform.nativeKind? = some kind ∧ (view.classify p).kind = kind := by
  unfold isNativeFor Classification.isNativeFor
  rw [beq_iff_eq]
  constructor
  · exact fun h => ⟨_, h, rfl⟩
  · rintro ⟨kind, h, rfl⟩
    exact h

end FileView

theorem Platform.nativeKind?_ne_unknown (platform : Platform) : platform.nativeKind? ≠ some .unknown := by
  unfold nativeKind?
  cases platform.os <;> simp

/-! ## Verdicts -/

theorem onOutput_passed_iff {judge : Path → Path → Outcome} :
    (Check.onOutput path result ws judge).passed = true ↔
      ∃ p, (path.orElse fun _ => result.expectedOutput?) = some p ∧ (judge p (ws.join p)).passed = true := by
  unfold Check.onOutput
  cases path.orElse fun _ => result.expectedOutput? <;> simp [Outcome.fail]

/-- The verdict on a native format is what sniffing says. -/
theorem nativeVerdict_passed (relative : Path) :
    (Check.nativeVerdict view platform relative p).passed = view.isNativeFor p platform := by
  unfold Check.nativeVerdict FileView.isNativeFor Classification.isNativeFor
  cases platform.nativeKind? with
  | none => rfl
  | some kind => exact decide_eq_decide.mpr eq_comm

namespace OutputQuestion

theorem looksAt?_check (q : OutputQuestion) : (q.check path).looksAt? result.plan result.platform =
    path.orElse fun _ => result.expectedOutput? := by
  cases q <;> rfl

/-- **A check of an output passes if its path leads to what it asks for.** -/
theorem passes_check_iff (q : OutputQuestion) : (q.check path).Passes view result ws ↔
    ∃ p, (q.check path).looksAt? result.plan result.platform = some p ∧
      q.Holds result.platform fun e => view.find (ws.join p) = .ok e := by
  rw [looksAt?_check]
  cases q with
  | regular =>
    refine onOutput_passed_iff.trans (exists_congr fun p => and_congr_right fun _ => ?_)
    exact FileView.isFile_iff
  | absent =>
    refine onOutput_passed_iff.trans (exists_congr fun p => and_congr_right fun _ => ?_)
    rw [Bool.not_eq_true', Bool.eq_false_iff, ne_eq, FileView.present_iff, not_exists]
    rfl
  | nonempty =>
    refine onOutput_passed_iff.trans (exists_congr fun p => and_congr_right fun _ => ?_)
    exact decide_eq_true_iff.trans FileView.size?_pos_iff
  | format kind =>
    refine onOutput_passed_iff.trans (exists_congr fun p => and_congr_right fun _ => ?_)
    exact decide_eq_true_iff.trans FileView.classify_kind_eq_iff
  | native =>
    refine onOutput_passed_iff.trans (exists_congr fun p => and_congr_right fun _ => ?_)
    rw [nativeVerdict_passed, FileView.isNativeFor_iff]
    refine exists_congr fun kind => and_congr_right fun hkind => ?_
    -- no platform has the unknown format, which is all that nothing has
    have hknown : kind ≠ .unknown := fun h => result.platform.nativeKind?_ne_unknown (h ▸ hkind)
    rw [FileView.classify_kind_eq_iff]
    simp [hknown]

theorem passes_check_iff_leads (q : OutputQuestion) :
    (q.check path).Passes (store.view cwd) result ws ↔
      ∃ p, (q.check path).looksAt? result.plan result.platform = some p ∧
        q.Holds result.platform (store.Leads cwd (ws.join p)) := by
  have hleads : ∀ p, (fun e => (store.view cwd).find (ws.join p) = .ok e) = store.Leads cwd (ws.join p) :=
    fun p => funext fun e => propext FileStore.find_eq_ok_iff_leads
  rw [q.passes_check_iff]
  simp only [hleads]

end OutputQuestion

/-! ## One output -/

/-- What checks of one output say of a run in a store of files. -/
structure OutputVerdicts (store : FileStore) (cwd : Location) (result : RunResult) (ws : Path)
    (path : Option Path) : Prop where
  /-- A check passes if its path leads to what it asks for, all links followed. -/
  passes_iff : ∀ q : OutputQuestion, (q.check path).Passes (store.view cwd) result ws ↔
    ∃ p, (q.check path).looksAt? result.plan result.platform = some p ∧
      q.Holds result.platform (store.Leads cwd (ws.join p))
  /-- What has a known format has content. -/
  nonempty_of_kind : ∀ kind, kind ≠ .unknown →
    (Check.outputKind kind path).Passes (store.view cwd) result ws →
    (Check.outputNonempty path).Passes (store.view cwd) result ws
  /-- What has content is there. -/
  exists_of_nonempty : (Check.outputNonempty path).Passes (store.view cwd) result ws →
    (Check.outputExists path).Passes (store.view cwd) result ws
  /-- What is there is not absent. -/
  not_absent_of_exists : (Check.outputExists path).Passes (store.view cwd) result ws →
    ¬ (Check.outputAbsent path).Passes (store.view cwd) result ws
  /-- A native binary has the native format, if there is one. -/
  native_iff : (Check.nativeBinary path).Passes (store.view cwd) result ws ↔
    ∃ kind, result.platform.nativeKind? = some kind ∧
      (Check.outputKind kind path).Passes (store.view cwd) result ws
  /-- Without a path, the output is meant that the plan is expected to write. -/
  implicit : ∀ p, result.expectedOutput? = some p → ∀ q : OutputQuestion,
    (q.check none).evaluate (store.view cwd) result ws =
      (q.check (some p)).evaluate (store.view cwd) result ws
  /-- If there is none, nothing can be said of it. -/
  unpredicted : result.expectedOutput? = none → ∀ q : OutputQuestion,
    ¬ (q.check none).Passes (store.view cwd) result ws

theorem Entry.exists_of_format {e : Entry} (h : e.format ≠ .unknown) :
    ∃ content executable, e = .file content executable ∧ content ≠ [] := by
  cases e with
  | file content executable =>
    refine ⟨content, executable, rfl, ?_⟩
    rintro rfl
    exact h rfl
  | _ => exact absurd rfl h

theorem OutputQuestion.evaluate_implicit (q : OutputQuestion) (h : result.expectedOutput? = some p) :
    (q.check none).evaluate view result ws = (q.check (some p)).evaluate view result ws := by
  cases q <;> simp only [check, Check.evaluate, Check.onOutput, Option.orElse, h]

/-- **Checks of one output do not contradict each other**, whatever there is in the store. -/
theorem outputVerdicts_consistent (store : FileStore) (cwd : Location) (result : RunResult)
    (ws : Path) (path : Option Path) : OutputVerdicts store cwd result ws path where
  passes_iff q := q.passes_check_iff_leads
  nonempty_of_kind kind hknown h := by
    obtain ⟨p, hp, hholds⟩ := (OutputQuestion.format kind).passes_check_iff.mp h
    obtain ⟨e, he, rfl⟩ := hholds.resolve_right fun hmissing => hknown hmissing.1
    obtain ⟨content, executable, rfl, hcontent⟩ := Entry.exists_of_format hknown
    exact OutputQuestion.nonempty.passes_check_iff.mpr ⟨p, hp, content, executable, he, hcontent⟩
  exists_of_nonempty h := by
    obtain ⟨p, hp, content, executable, he, -⟩ := OutputQuestion.nonempty.passes_check_iff.mp h
    exact OutputQuestion.regular.passes_check_iff.mpr ⟨p, hp, content, executable, he⟩
  not_absent_of_exists h habsent := by
    obtain ⟨p, hp, content, executable, he⟩ := OutputQuestion.regular.passes_check_iff.mp h
    obtain ⟨p', hp', hmissing⟩ := OutputQuestion.absent.passes_check_iff.mp habsent
    obtain rfl : p = p' := Option.some.inj (hp.symm.trans hp')
    exact hmissing _ he
  native_iff := by
    constructor
    · intro h
      obtain ⟨p, hp, kind, hkind, hformat⟩ := OutputQuestion.native.passes_check_iff.mp h
      exact ⟨kind, hkind, (OutputQuestion.format kind).passes_check_iff.mpr ⟨p, hp, .inl hformat⟩⟩
    · rintro ⟨kind, hkind, h⟩
      obtain ⟨p, hp, hholds⟩ := (OutputQuestion.format kind).passes_check_iff.mp h
      have hformat := hholds.resolve_right fun hmissing =>
        result.platform.nativeKind?_ne_unknown (hmissing.1 ▸ hkind)
      exact OutputQuestion.native.passes_check_iff.mpr ⟨p, hp, kind, hkind, hformat⟩
  implicit p h q := q.evaluate_implicit h
  unpredicted h q hpasses := by
    obtain ⟨p, hp, -⟩ := q.passes_check_iff.mp hpasses
    rw [q.looksAt?_check, h] at hp
    cases hp

/-! ## Missing outputs -/

/-- **Where nothing is, a check that asks for a file fails**, unless it asks for one of unknown format. -/
theorem passes_missing_iff (store : FileStore) (cwd : Location) (result : RunResult) (ws p : Path)
    (path : Option Path) (q : OutputQuestion) (positive : q ≠ .absent)
    (looks : (q.check path).looksAt? result.plan result.platform = some p)
    (missing : ∀ e, ¬ store.Leads cwd (ws.join p) e) :
    (q.check path).Passes (store.view cwd) result ws ↔ q = .format .unknown := by
  rw [q.passes_check_iff_leads]
  simp only [looks, Option.some.injEq, exists_eq_left']
  cases q with
  | regular => simp [OutputQuestion.Holds, missing]
  | absent => exact absurd rfl positive
  | nonempty => simp [OutputQuestion.Holds, missing]
  | format kind => simp [OutputQuestion.Holds, missing]
  | native => simp [OutputQuestion.Holds, missing]

/-- A workspace in which the output is a link to a file that is not there. -/
def danglingFiles : FileStore :=
  ⟨[(["w"], .directory true), (["w", "a.out"], .link ⟨"gone"⟩)]⟩

/-- A run that was to link in this workspace. -/
def danglingRun : RunResult where
  plan := { name := "p", sources := [⟨"main.c"⟩] }
  argv := ["cc", "main.c"]
  exitCode := 0
  stdout := ""
  stderr := ""
  workspace := ⟨"/w"⟩
  duration := .zero
  termination := .exited 0
  platform := .host

theorem reached_dangling : danglingFiles.Reached ⟨"/w"⟩ FileStore.linkLimit ["w"] :=
  ⟨by decide, FileStore.reaches_of_descends (by decide), by decide⟩

theorem find_dangling {name : String} (hname : IsName name)
    (hacc : ((Path.mk "/w").join ⟨name⟩).Accepted)
    (hwalk : danglingFiles.walk true FileStore.linkLimit ["w"] [name] = .error .notFound) :
    danglingFiles.find [] ((Path.mk "/w").join ⟨name⟩) = .error (.os .notFound) := by
  rw [FileStore.find, reached_dangling.resolve_name hname hacc, hwalk]
  rfl

/-- The link leads nowhere. -/
theorem find_dangling_output :
    danglingFiles.find [] ((Path.mk "/w").join ⟨"a.out"⟩) = .error (.os .notFound) := by
  have hname : IsName "a.out" := ⟨by decide, by decide, by decide, by decide⟩
  have hgone : IsName "gone" := ⟨by decide, by decide, by decide, by decide⟩
  have hlink : danglingFiles.entry? (["w"] ++ ["a.out"]) = some (.link ⟨"gone"⟩) := by decide
  refine find_dangling hname ⟨by decide, by decide, by decide⟩ ?_
  rw [FileStore.walk_name reached_dangling.directory hname, if_neg (by decide), hlink]
  show danglingFiles.walk true 39 ["w"] (FileStore.steps ⟨"gone"⟩) = _
  rw [FileStore.steps_name hgone]
  exact FileStore.walk_name_missing reached_dangling.directory hgone (by decide) (by decide)

/-- The native format is not found behind a link that leads nowhere. -/
theorem passes_missing_dangling : OutputQuestion.native ≠ .absent ∧
    (OutputQuestion.native.check none).looksAt? danglingRun.plan danglingRun.platform = some ⟨"a.out"⟩ ∧
    (∀ e, ¬ danglingFiles.Leads [] ((Path.mk "/w").join ⟨"a.out"⟩) e) ∧
    ¬ (OutputQuestion.native.check none).Passes (danglingFiles.view []) danglingRun ⟨"/w"⟩ := by
  have hmissing : ∀ e, ¬ danglingFiles.Leads [] ((Path.mk "/w").join ⟨"a.out"⟩) e := by
    intro e hleads
    have hfound := FileStore.find_eq_ok_iff_leads.mpr hleads
    rw [find_dangling_output] at hfound
    cases hfound
  have hlooks : (OutputQuestion.native.check none).looksAt? danglingRun.plan danglingRun.platform =
      some ⟨"a.out"⟩ := by decide
  refine ⟨by decide, hlooks, hmissing, fun hpasses => ?_⟩
  have hunknown := (passes_missing_iff danglingFiles [] danglingRun ⟨"/w"⟩ ⟨"a.out"⟩ none .native
    (by decide) hlooks hmissing).mp hpasses
  cases hunknown

/-- A file that is not there passes for a file of unknown format. -/
theorem passes_missing_unknown :
    danglingFiles.find [] ((Path.mk "/w").join ⟨"nope.o"⟩) = .error (.os .notFound) ∧
    (Check.outputKind .unknown (some ⟨"nope.o"⟩)).evaluate (danglingFiles.view []) danglingRun ⟨"/w"⟩ =
      ⟨true, "output 'nope.o': expected kind UNKNOWN, got UNKNOWN (file missing)"⟩ := by
  have hname : IsName "nope.o" := ⟨by decide, by decide, by decide, by decide⟩
  have hfind : danglingFiles.find [] ((Path.mk "/w").join ⟨"nope.o"⟩) = .error (.os .notFound) :=
    find_dangling hname ⟨by decide, by decide, by decide⟩
      (FileStore.walk_name_missing reached_dangling.directory hname (by decide) (by decide))
  refine ⟨hfind, ?_⟩
  simp only [Check.evaluate, Check.onOutput, Option.orElse, FileView.classify, FileView.read,
    FileView.missingNote, FileView.present, FileStore.view, hfind]
  decide

end Conformance
