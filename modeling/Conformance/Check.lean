import Conformance.Plan
import Conformance.Text.Quoted

/-!
# Checks

* `Check` : what a scenario may expect of a finished run;
* `Check.describe` : a check in a few words;
* `Check.toData`, `Check.ofData?` : the document form, a mapping whose `check` entry names the kind.
-/

namespace Conformance

/-- An expectation about a finished run. Where a path is optional, its absence means the output
that the plan is expected to write. -/
inductive Check where
  /-- The exit code is the given one. -/
  | exitCode (code : Int)
  /-- The tokens stand together, in order, in the executed arguments. -/
  | argvContains (tokens : List String)
  /-- Standard output holds the text. -/
  | stdoutContains (text : String)
  /-- Standard error holds the text. -/
  | stderrContains (text : String)
  /-- A regular file stands at the path. -/
  | outputExists (path : Option Path)
  /-- Nothing stands at the path. -/
  | outputAbsent (path : Option Path)
  /-- The plan names its output, and this is the name. -/
  | outputName (name : Path)
  /-- A regular file with content stands at the path. -/
  | outputNonempty (path : Option Path)
  /-- The file at the path has the given format. -/
  | outputKind (artifact : ArtifactKind) (path : Option Path)
  /-- The file at the path has the native format of the run's platform. -/
  | nativeBinary (path : Option Path)
  /-- The run ended by itself within the given time. -/
  | succeededWithin (millis : Nat)
  deriving DecidableEq, Repr

namespace Check

/-- A path as a description names it. -/
def target : Option Path → String
  | some p => s!"'{p.text}'"
  | none => "<implicit>"

/-- A check in a few words. -/
def describe : Check → String
  | .exitCode code => s!"exit code == {code}"
  | .argvContains tokens => s!"argv contains {Text.quotedList tokens}"
  | .stdoutContains text => s!"stdout contains {Text.quoted text}"
  | .stderrContains text => s!"stderr contains {Text.quoted text}"
  | .outputExists path => s!"output {target path} exists"
  | .outputAbsent path => s!"output {target path} absent"
  | .outputName name => s!"output named '{name.text}'"
  | .outputNonempty path => s!"output {target path} nonempty"
  | .outputKind artifact path => s!"output {target path} is {artifact.label}"
  | .nativeBinary path => s!"output {target path} is native"
  | .succeededWithin millis => s!"finished within {millis} ms"

/-! ## Document form -/

/-- The kinds of checks. -/
inductive Kind where
  | exitCode
  | argvContains
  | stdoutContains
  | stderrContains
  | outputExists
  | outputAbsent
  | outputName
  | outputNonempty
  | outputKind
  | nativeBinary
  | succeededWithin
  deriving DecidableEq, Repr

namespace Kind

/-- Every kind. -/
def all : List Kind :=
  [.exitCode, .argvContains, .stdoutContains, .stderrContains, .outputExists, .outputAbsent,
    .outputName, .outputNonempty, .outputKind, .nativeBinary, .succeededWithin]

/-- The name of a kind in documents. -/
def name : Kind → String
  | .exitCode => "exit_code"
  | .argvContains => "argv_contains"
  | .stdoutContains => "stdout_contains"
  | .stderrContains => "stderr_contains"
  | .outputExists => "output_exists"
  | .outputAbsent => "output_absent"
  | .outputName => "output_name"
  | .outputNonempty => "output_nonempty"
  | .outputKind => "output_kind"
  | .nativeBinary => "native_binary"
  | .succeededWithin => "succeeded_within"

/-- The kind of a document name. -/
def ofName? (s : String) : Option Kind := all.find? fun k => k.name = s

/-- The fields of a kind, in order. -/
def fields : Kind → List String
  | .exitCode => ["code"]
  | .argvContains => ["tokens"]
  | .stdoutContains => ["text"]
  | .stderrContains => ["text"]
  | .outputExists => ["path"]
  | .outputAbsent => ["path"]
  | .outputName => ["name"]
  | .outputNonempty => ["path"]
  | .outputKind => ["artifact", "path"]
  | .nativeBinary => ["path"]
  | .succeededWithin => ["millis"]

end Kind

/-- The kind of a check. -/
def kind : Check → Kind
  | .exitCode _ => .exitCode
  | .argvContains _ => .argvContains
  | .stdoutContains _ => .stdoutContains
  | .stderrContains _ => .stderrContains
  | .outputExists _ => .outputExists
  | .outputAbsent _ => .outputAbsent
  | .outputName _ => .outputName
  | .outputNonempty _ => .outputNonempty
  | .outputKind _ _ => .outputKind
  | .nativeBinary _ => .nativeBinary
  | .succeededWithin _ => .succeededWithin

/-- The document form of an optional path. -/
def pathData (path : Option Path) : Data := .textOrNull (path.map Path.text)

/-- The values of the fields of a check, in order. -/
def values : Check → List Data
  | .exitCode code => [.int code]
  | .argvContains tokens => [.texts tokens]
  | .stdoutContains text => [.text text]
  | .stderrContains text => [.text text]
  | .outputExists path => [pathData path]
  | .outputAbsent path => [pathData path]
  | .outputName name => [.text name.text]
  | .outputNonempty path => [pathData path]
  | .outputKind artifact path => [.text artifact.name, pathData path]
  | .nativeBinary path => [pathData path]
  | .succeededWithin millis => [.int millis]

/-- The document form. -/
def toData (c : Check) : Data :=
  .record (("check", .text c.kind.name) :: c.kind.fields.zip c.values)

/-- A check of a kind from the values of its fields; an optional path may be left out. -/
def ofValues? (kind : Kind) (values : List (Option Data)) : Option Check :=
  let path? : Option Data → Option (Option Path) := fun d =>
    (d.map (Data.optional? Plan.path?)).getD (some none)
  match kind, values with
  | .exitCode, [code] => do return .exitCode (← (← code).int32?)
  | .argvContains, [tokens] => do return .argvContains (← (← tokens).listOf? Data.text?)
  | .stdoutContains, [text] => do return .stdoutContains (← (← text).text?)
  | .stderrContains, [text] => do return .stderrContains (← (← text).text?)
  | .outputExists, [path] => (path? path).map .outputExists
  | .outputAbsent, [path] => (path? path).map .outputAbsent
  | .outputName, [name] => do return .outputName (← Plan.path? (← name))
  | .outputNonempty, [path] => (path? path).map .outputNonempty
  | .outputKind, [artifact, path] => do
    let artifact ← Data.unit? ArtifactKind.all ArtifactKind.name Data.isEmptyMap (← artifact)
    return .outputKind artifact (← path? path)
  | .nativeBinary, [path] => (path? path).map .nativeBinary
  | .succeededWithin, [millis] => do return .succeededWithin (← (← millis).word64?)
  | _, _ => none

/-- The field that a key stands for, if any: by name, or by position. -/
def fieldOf? (fields : List String) : Key → Option String
  | .name s => if fields.contains s then some s else none
  | .position n => fields[n]?
  | .other => none

/-- The value of a field; nothing at all if the field is given twice. -/
def valueOf? (fields : List String) (entries : List (Key × Data)) (field : String) :
    Option (Option Data) :=
  match entries.filter fun e => fieldOf? fields e.1 = some field with
  | [] => some none
  | [e] => some (some e.2)
  | _ => none

/-- A check from its document form: a mapping with the kind under `check`, in which entries of
other names are passed over, or a list of the kind and all fields. -/
def ofData? : Data → Option Check
  | .map entries => do
    let (tags, rest) := entries.partition fun e => e.1 = .name "check"
    let [(_, tag)] := tags | none
    let kind ← Kind.ofName? (← tag.text?)
    if rest.any fun e => e.1 = .other then none
    ofValues? kind (← kind.fields.mapM (valueOf? kind.fields rest))
  | .list (tag :: values) => do
    let kind ← Kind.ofName? (← tag.text?)
    ofValues? kind (values.map some)
  | _ => none

end Check

end Conformance
