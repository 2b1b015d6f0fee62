import Conformance.Check
import Conformance.FileView
import Conformance.Outcome
import Conformance.Run
import Conformance.Text.Lowercase
import Conformance.Text.Space

/-!
# Verdicts

* `excerpt` : the part of a stream that a message quotes;
* `windows` : the parts of a list that have a given length;
* `hasContiguous` : whether tokens stand together in a list;
* `Check.onOutput` : a check of the file that a path, or the plan, stands for;
* `Check.evaluate` : the outcome of a check.
-/

namespace Conformance

/-- How many characters of a stream a message quotes. -/
def excerptLength : Nat := 240

/-- The part of a stream that a message quotes: without blanks at its ends, and cut. -/
def excerpt (s : String) : String :=
  let cs := Text.trimChars s.toList
  if cs.length ≤ excerptLength then String.ofList cs
  else String.ofList (cs.take excerptLength) ++ "..."

/-- The parts of `n` elements of a list, in the order in which they start. There are none of no
elements, and none if the list is shorter. -/
def windows {α : Type} (n : Nat) (some_elements : 0 < n) : List α → List (List α)
  | [] => []
  | x :: xs =>
    if n ≤ (x :: xs).length then (x :: xs).take n :: windows n some_elements xs else []

/-- Whether tokens stand together in a list. No tokens do, in any list, without a search. -/
def hasContiguous (tokens argv : List String) : Bool :=
  if h : tokens = [] then true
  else (windows tokens.length (List.length_pos_iff.mpr h) argv).any (· == tokens)

/-- What stands at a path, in words. -/
def FileView.presence (view : FileView) (p : Path) : String :=
  if view.isFile p then "found file"
  else if view.present p then "found non-file"
  else "not found"

/-- A remark for a path where nothing stands. -/
def FileView.missingNote (view : FileView) (p : Path) : String :=
  if view.present p then "" else " (file missing)"

namespace Check

/-- Hands the checked path and its place in the workspace to `judge`. A plan that writes no file
leaves nothing to check. -/
def onOutput (path : Option Path) (result : RunResult) (workspace : Path)
    (judge : Path → Path → Outcome) : Outcome :=
  match path.orElse fun _ => result.expectedOutput? with
  | some relative => judge relative (workspace.join relative)
  | none =>
    .fail (s!"output: plan '{result.plan.name}' produces no file to check " ++
      s!"({result.plan.mode.label} mode)")

/-- The outcome of looking for a text in a stream. -/
def streamVerdict (stream actual needle : String) : Outcome :=
  ⟨Text.contains actual needle,
    s!"{stream}: expected to contain {Text.quoted needle}, got {Text.quoted (excerpt actual)}"⟩

/-- The outcome of comparing the exit code. -/
def exitVerdict (expected : Int) (result : RunResult) : Outcome :=
  let passed := decide (result.exitCode = expected)
  let note :=
    if passed || (Text.trim result.stderr).isEmpty then ""
    else s!" (stderr: {excerpt result.stderr})"
  ⟨passed, s!"exit code: expected {expected}, got {result.exitCode}{note}"⟩

/-- The outcome of comparing the named output. -/
def nameVerdict (name : Path) (result : RunResult) : Outcome :=
  match result.plan.explicitOutput? with
  | some actual =>
    ⟨actual.same name, s!"output name: expected '{name.text}', got '{actual.text}'"⟩
  | none => .fail s!"output name: expected '{name.text}', but the plan names no output"

/-- The outcome of asking for the native format. -/
def nativeVerdict (view : FileView) (platform : Platform) (relative absolute : Path) : Outcome :=
  match platform.nativeKind? with
  | none => .fail s!"output '{relative.text}': no native artifact kind known for {platform.label}"
  | some expected =>
    let actual := (view.classify absolute).kind
    ⟨actual = expected,
      s!"output '{relative.text}': expected native {expected.label} for {platform.label}, " ++
        s!"got {actual.label}{view.missingNote absolute}"⟩

/-- The outcome of a check of a finished run. -/
def evaluate (view : FileView) (result : RunResult) (workspace : Path) : Check → Outcome
  | .exitCode code => exitVerdict code result
  | .argvContains tokens =>
    ⟨hasContiguous tokens result.argv,
      s!"argv: expected contiguous {Text.quotedList tokens}, got {Text.quotedList result.argv}"⟩
  | .stdoutContains text => streamVerdict "stdout" result.stdout text
  | .stderrContains text => streamVerdict "stderr" result.stderr text
  | .outputExists path => onOutput path result workspace fun relative absolute =>
    ⟨view.isFile absolute,
      s!"output '{relative.text}': expected to exist, {view.presence absolute}"⟩
  | .outputAbsent path => onOutput path result workspace fun relative absolute =>
    ⟨!view.present absolute,
      s!"output '{relative.text}': expected to be absent, {view.presence absolute}"⟩
  | .outputName name => nameVerdict name result
  | .outputNonempty path => onOutput path result workspace fun relative absolute =>
    let size := view.size? absolute
    let actual := match size with
      | some n => s!"{n} bytes"
      | none => "missing"
    ⟨0 < size.getD 0, s!"output '{relative.text}': expected nonempty, got {actual}"⟩
  | .outputKind artifact path => onOutput path result workspace fun relative absolute =>
    let actual := (view.classify absolute).kind
    ⟨actual = artifact,
      s!"output '{relative.text}': expected kind {artifact.label}, " ++
        s!"got {actual.label}{view.missingNote absolute}"⟩
  | .nativeBinary path =>
    onOutput path result workspace (nativeVerdict view result.platform)
  | .succeededWithin millis =>
    ⟨!result.timedOut && result.launched && result.durationMs ≤ millis,
      s!"duration: expected <= {millis} ms, took {result.durationMs} ms"⟩

end Check

end Conformance
