import Conformance.Proofs.Check.Local
import Conformance.Proofs.Suite.Stage
import Conformance.Proofs.Workspace.Scratch

/-!
# Deterministic compilers

What is reported on a compiler whose doings depend on nothing but its arguments and the directory that it
is started in.

* `Effect`, `Shows` : what a compiler does, and what is seen of it;
* `Deterministic` : a compiler whose effect is a function;
* `Judged` : a report of a case in some workspace; `Judged.untimed_eq` : all of them are alike but for
  the time.
-/

namespace Conformance

/-! ## Deterministic compilers -/

/-- What a compiler does in a directory until it ends. -/
structure Effect where
  /-- How it ends, or why it cannot be waited for. -/
  ending : Except Cause ExitStatus
  stdout : Bytes
  stderr : Bytes
  /-- What it leaves in the directory. -/
  files : FileTree

/-- What is seen of a compiler, and what is left in its directory, if it cannot be started or has an
effect. Its time may be up before that. -/
inductive Shows (held : FileTree) : Except Cause Effect → Performance → FileTree → Prop where
  | refused {e : Cause} : Shows held (.error e) (.error e) held
  | ended {effect : Effect} {captured : Captured} (stdout : captured.stdout = effect.stdout)
    (stderr : captured.stderr = effect.stderr) :
    Shows held (.ok effect) (.ok (effect.ending.map .ended, captured)) effect.files
  | late {effect : Effect} {elapsed : Duration} {captured : Captured} {left : FileTree} :
    Shows held (.ok effect) (.ok (.ok (.timedOut elapsed), captured)) left

/-- What is left in a directory unless the time is up before. -/
def leftTree (held : FileTree) : Except Cause Effect → FileTree
  | .error _ => held
  | .ok effect => effect.files

/-- What comes of carrying out a plan in a directory is a function of the arguments and of what is in
the directory, as long as what stood at first is as it was. -/
def Deterministic (setting : Setting) (subject : Subject) (base : FileStore) (config : RunnerConfig)
    (plan : Plan) (limit : Option Duration) (act : List String → FileTree → Except Cause Effect) : Prop :=
  ∀ (ws : Path) (loc : Location) (host after : Host) (answer : Performance),
    base.Keeps host.files → host.files.Rooted →
    host.files.resolve setting.directory true ws = .ok loc → host.files.isDirectoryAt loc = true →
    ((subject setting (commandFor (Host.environment setting subject) config plan ws)).perform
      limit).run host = (answer, after) →
    Shows (host.files.tree loc) (act plan.argv (host.files.tree loc)) answer (after.files.tree loc)

variable {config : RunnerConfig} {c : TestCase} {budget : Nat} {parent program : Path} {held : FileTree}
  {effect : Except Cause Effect}

/-! ## What a report depends on -/

/-- The report without the time that the run took. -/
def Report.untimed (r : Report) : Report :=
  { r with run := r.run.map fun summary => { summary with durationMs := 0 } }

/-- Whether the run of a report was ended because its time was up. -/
def Report.timedOut (r : Report) : Bool :=
  match r.run with
  | some ⟨_, _, .timedOut _, _⟩ => true
  | _ => false

/-- The report on a result, by what was to be seen from a workspace then. -/
def TestCase.reportOn (c : TestCase) (view : FileView) (result : RunResult) (ws : Path) : Report :=
  .ofOutcomes c.name (c.evaluate view result ws) (some (.ofResult result))

/-- The report is one on a run of the case in a workspace of a name that starts as given, which held a
tree before, and on what the compiler left there. -/
inductive Judged (parent : Path) (start : String) (config : RunnerConfig) (program : Path) (held : FileTree)
    (effect : Except Cause Effect) (budget : Nat) (c : TestCase) : Report → Prop where
  | of {ending : String} {refusedAfter : Duration} {answer : Performance} {left : FileTree} {view : FileView} (isEnding : IsEnding ending)
    (shows : Shows held effect answer left)
    (sees : ∀ p, left.Stays p → view.find ((parent.join ⟨start ++ ending⟩).join p) =
      left.lookup budget (parent.join ⟨start ++ ending⟩).text.utf8ByteSize p) :
    Judged parent start config program held effect budget c
      (c.reportOn view (performedResult config c.plan (parent.join ⟨start ++ ending⟩)
        (limitFor config c) program refusedAfter answer) (parent.join ⟨start ++ ending⟩))

/-- If two runs of one plan were seen to end alike, their results are alike. -/
theorem Shows.alike {answer answer' : Performance} {left left' : FileTree} {plan : Plan} {ws ws' : Path}
    {limit : Option Duration} {refusedAfter refusedAfter' : Duration} (h : Shows held effect answer left) (h' : Shows held effect answer' left')
    (intime : ∀ elapsed captured, answer ≠ .ok (.ok (.timedOut elapsed), captured))
    (intime' : ∀ elapsed captured, answer' ≠ .ok (.ok (.timedOut elapsed), captured)) :
    left = leftTree held effect ∧ left' = leftTree held effect ∧
      RunResult.Alike (performedResult config plan ws limit program refusedAfter answer)
        (performedResult config plan ws' limit program refusedAfter' answer') := by
  cases h with
  | refused =>
    cases h' with
    | refused => exact ⟨rfl, rfl, rfl⟩
  | @ended effect captured stdout stderr =>
    cases h' with
    | @ended _ captured' stdout' stderr' =>
      obtain ⟨out, err, duration⟩ := captured
      obtain ⟨out', err', duration'⟩ := captured'
      obtain rfl : out = effect.stdout := stdout
      obtain rfl : err = effect.stderr := stderr
      obtain rfl : out' = effect.stdout := stdout'
      obtain rfl : err' = effect.stderr := stderr'
      refine ⟨rfl, rfl, ?_⟩
      unfold RunResult.Alike performedResult
      cases effect.ending <;> rfl
    | late => exact absurd rfl (intime' _ _)
  | late => exact absurd rfl (intime _ _)

/-- Reports on alike results, with the same to be seen, differ in the time only. -/
theorem TestCase.reportOn_untimed_eq (t : FileTree) {view view' : FileView} {result result' : RunResult}
    {ws ws' : Path} (inside : ∀ a ∈ c.assertions, a.Inside t result.plan result.platform)
    (hlooks : LooksAlike t view view' ws ws') (halike : result.Alike result') :
    (c.reportOn view result ws).untimed = (c.reportOn view' result' ws').untimed := by
  have houtcomes : c.evaluate view result ws = c.evaluate view' result' ws' := by
    have hfailure : runFailure result = runFailure result' := by
      rw [halike]
      rfl
    unfold evaluate
    rw [hfailure]
    refine congrArg _ (List.map_congr_left fun a ha => ?_)
    exact (inside a ha).outcome_eq hlooks halike rfl rfl
  unfold reportOn
  rw [houtcomes]
  unfold Report.untimed Report.ofOutcomes
  refine congrArg (fun run => Report.mk c.name _ _ none (some run)) ?_
  rw [halike]
  rfl

/-- A run whose time was up is reported so. -/
theorem TestCase.timedOut_reportOn (c : TestCase) (view : FileView) (ws ws' program : Path)
    (limit : Option Duration) (refusedAfter elapsed : Duration) (captured : Captured) :
    (c.reportOn view (performedResult config c.plan ws limit program refusedAfter
      (.ok (.ok (.timedOut elapsed), captured))) ws').timedOut = true := rfl

/-- Paths of workspaces that were made for one case are of one size. -/
theorem utf8ByteSize_join_ending {caseName ending ending' : String} (h : IsEnding ending)
    (h' : IsEnding ending') :
    (parent.join ⟨Workspace.nameStart caseName ++ ending⟩).text.utf8ByteSize =
      (parent.join ⟨Workspace.nameStart caseName ++ ending'⟩).text.utf8ByteSize := by
  rw [Path.utf8ByteSize_join_name (isName_nameStart caseName h),
    Path.utf8ByteSize_join_name (isName_nameStart caseName h'), String.utf8ByteSize_append,
    String.utf8ByteSize_append, utf8ByteSize_of_isEnding h, utf8ByteSize_of_isEnding h']

/-- **All reports on a case that ended in time are alike.** -/
theorem Judged.untimed_eq {caseName : String} {r r' : Report}
    (h : Judged parent (Workspace.nameStart caseName) config program held effect budget c r)
    (h' : Judged parent (Workspace.nameStart caseName) config program held effect budget c r')
    (inside : ∀ a ∈ c.assertions, a.Inside (leftTree held effect) c.plan config.platform)
    (intime : r.timedOut = false) (intime' : r'.timedOut = false) : r.untimed = r'.untimed := by
  obtain ⟨isEnding, shows, sees⟩ := h
  obtain ⟨isEnding', shows', sees'⟩ := h'
  have hplan : ∀ ws refusedAfter answer,
      (performedResult config c.plan ws (limitFor config c) program refusedAfter answer).plan = c.plan ∧
        (performedResult config c.plan ws (limitFor config c) program refusedAfter answer).platform =
          config.platform := by
    rintro ws refusedAfter (e | ⟨e | status | elapsed, captured⟩) <;> exact ⟨rfl, rfl⟩
  -- the time of neither run was up, since its report would tell
  obtain ⟨rfl, hleft, halike⟩ := shows.alike shows'
    (by
      rintro elapsed captured rfl
      rw [TestCase.timedOut_reportOn] at intime
      cases intime)
    (by
      rintro elapsed captured rfl
      rw [TestCase.timedOut_reportOn] at intime'
      cases intime')
  subst hleft
  refine TestCase.reportOn_untimed_eq (leftTree held effect) ?_ ?_ halike
  · rw [(hplan _ _ _).1, (hplan _ _ _).2]
    exact inside
  · -- how long a path is decides whether it is too long, and those of the two workspaces are of one size
    intro p hp
    rw [sees p hp, sees' p hp, utf8ByteSize_join_ending isEnding isEnding']

end Conformance
