import Conformance.Case
import Conformance.Proofs.Files.Tree

/-!
# What assertions depend on

* `RunResult.Alike`, `LooksAlike` : results of the same run, and what is to be seen, in two workspaces;
* `Assertion.Local` : a verdict that depends on nothing else;
* `Check.looksAt?` : the path that a check looks at;
* `Check.local_toAssertion` : checks that stay in a workspace and do not ask for the time are local;
* `Assertion.Inside`, `Assertion.Inside.outcome_eq` : such checks, and other local assertions.
-/

namespace Conformance

variable {t : FileTree} {view view' : FileView} {result result' : RunResult} {ws ws' p p' : Path}
  {plan : Plan} {platform : Platform} {path : Option Path}

/-- Results that differ in nothing but the workspace and the time that the run took. -/
def RunResult.Alike (r r' : RunResult) : Prop :=
  r' = { r with workspace := r'.workspace, duration := r'.duration }

/-- From two workspaces the same is found at each path that stays in a tree. -/
def LooksAlike (t : FileTree) (view view' : FileView) (ws ws' : Path) : Prop :=
  ∀ p, t.Stays p → view.find (ws.join p) = view'.find (ws'.join p)

/-- The verdict on a run of a plan depends neither on where the workspace is nor on the time that the
run took. -/
def Assertion.Local (a : Assertion) (t : FileTree) (plan : Plan) (platform : Platform) : Prop :=
  ∀ view view' result result' ws ws', LooksAlike t view view' ws ws' → RunResult.Alike result result' →
    result.plan = plan → result.platform = platform →
    a.judge view result ws = a.judge view' result' ws'

/-! ## Questions -/

namespace FileView

theorem isFile_congr (h : view.find p = view'.find p') : view.isFile p = view'.isFile p' := by
  unfold isFile
  rw [h]

theorem present_congr (h : view.find p = view'.find p') : view.present p = view'.present p' := by
  unfold present
  rw [h]

theorem size?_congr (h : view.find p = view'.find p') : view.size? p = view'.size? p' := by
  unfold size?
  rw [h]

theorem classify_congr (h : view.find p = view'.find p') : view.classify p = view'.classify p' := by
  unfold classify read
  rw [h]

theorem presence_congr (h : view.find p = view'.find p') : view.presence p = view'.presence p' := by
  unfold presence
  rw [isFile_congr h, present_congr h]

theorem missingNote_congr (h : view.find p = view'.find p') :
    view.missingNote p = view'.missingNote p' := by
  unfold missingNote
  rw [present_congr h]

end FileView

/-! ## Checks -/

namespace Check

/-- The path that a check of a run of a plan looks at, if it looks at one. -/
def looksAt? (plan : Plan) (platform : Platform) : Check → Option Path
  | .outputExists path => path.orElse fun _ => plan.expectedOutput? (NamingRules.forPlatform platform)
  | .outputAbsent path => path.orElse fun _ => plan.expectedOutput? (NamingRules.forPlatform platform)
  | .outputNonempty path =>
    path.orElse fun _ => plan.expectedOutput? (NamingRules.forPlatform platform)
  | .outputKind _ path => path.orElse fun _ => plan.expectedOutput? (NamingRules.forPlatform platform)
  | .nativeBinary path => path.orElse fun _ => plan.expectedOutput? (NamingRules.forPlatform platform)
  | _ => none

theorem onOutput_congr {judge judge' : Path → Path → Outcome} (alike : result.Alike result')
    (hjudge : ∀ p, (path.orElse fun _ =>
        result.plan.expectedOutput? (NamingRules.forPlatform result.platform)) = some p →
      judge p (ws.join p) = judge' p (ws'.join p)) :
    onOutput path result ws judge = onOutput path result' ws' judge' := by
  rw [alike]
  unfold onOutput RunResult.expectedOutput?
  dsimp only
  cases hpath : path.orElse fun _ =>
      result.plan.expectedOutput? (NamingRules.forPlatform result.platform) with
  | none => rfl
  | some p => exact hjudge p hpath

theorem nativeVerdict_congr (h : view.find p = view'.find p') (relative : Path) :
    nativeVerdict view platform relative p = nativeVerdict view' platform relative p' := by
  unfold nativeVerdict
  rw [FileView.classify_congr h, FileView.missingNote_congr h]

/-- **Checks that stay in a workspace and do not ask for the time are local.** -/
theorem local_toAssertion {check : Check} (timeless : ∀ millis, check ≠ .succeededWithin millis)
    (stays : ∀ p, check.looksAt? plan platform = some p → t.Stays p) :
    check.toAssertion.Local t plan platform := by
  rintro view view' result result' ws ws' hlooks halike rfl rfl
  refine congrArg Except.ok ?_
  -- a check reads fields of the result, which are the same, or looks at one path, which stays inside
  have hresult := halike
  unfold RunResult.Alike at hresult
  cases check with
  | exitCode code =>
    rw [hresult]
    rfl
  | argvContains tokens =>
    rw [hresult]
    rfl
  | stdoutContains text =>
    rw [hresult]
    rfl
  | stderrContains text =>
    rw [hresult]
    rfl
  | outputExists path =>
    simp only [evaluate]
    refine onOutput_congr halike fun p hp => ?_
    have hfind := hlooks p (stays p hp)
    rw [FileView.isFile_congr hfind, FileView.presence_congr hfind]
  | outputAbsent path =>
    simp only [evaluate]
    refine onOutput_congr halike fun p hp => ?_
    have hfind := hlooks p (stays p hp)
    rw [FileView.present_congr hfind, FileView.presence_congr hfind]
  | outputName name =>
    rw [hresult]
    rfl
  | outputNonempty path =>
    simp only [evaluate]
    refine onOutput_congr halike fun p hp => ?_
    have hfind := hlooks p (stays p hp)
    rw [FileView.size?_congr hfind]
  | outputKind artifact path =>
    simp only [evaluate]
    refine onOutput_congr halike fun p hp => ?_
    have hfind := hlooks p (stays p hp)
    rw [FileView.classify_congr hfind, FileView.missingNote_congr hfind]
  | nativeBinary path =>
    have hplatform : result'.platform = result.platform := by rw [hresult]
    refine onOutput_congr halike fun p hp => ?_
    rw [hplatform]
    exact nativeVerdict_congr (hlooks p (stays p hp)) p
  | succeededWithin millis => exact absurd rfl (timeless millis)

end Check

/-! ## Assertions -/

/-- An assertion that stays in a workspace: a check that looks at no other path and does not ask for
the time, or any other local assertion. -/
inductive Assertion.Inside (t : FileTree) (plan : Plan) (platform : Platform) : Assertion → Prop where
  | check {check : Check} (timeless : ∀ millis, check ≠ .succeededWithin millis)
    (stays : ∀ p, check.looksAt? plan platform = some p → t.Stays p) :
    Inside t plan platform check.toAssertion
  | other {a : Assertion} (isLocal : a.Local t plan platform) : Inside t plan platform a

theorem Assertion.Inside.outcome_eq {a : Assertion} (h : a.Inside t plan platform)
    (hlooks : LooksAlike t view view' ws ws') (halike : result.Alike result')
    (hplan : result.plan = plan) (hplatform : result.platform = platform) :
    a.outcome view result ws = a.outcome view' result' ws' := by
  have hlocal : a.Local t plan platform := by
    cases h with
    | check timeless stays => exact Check.local_toAssertion timeless stays
    | other isLocal => exact isLocal
  unfold outcome
  rw [hlocal view view' result result' ws ws' hlooks halike hplan hplatform]

end Conformance
