import Conformance.CommandLine.Grammar
import Conformance.Path

/-!
# Requests

What a user can ask for on the command line.

* `RunOptions`, `Request` : a request, with its options and operands;
* `Request.parse` : the request that arguments stand for.
-/

namespace Conformance.CommandLine

/-- The form in which results are written. -/
inductive Format where
  /-- Lines for a reader. -/
  | console
  /-- A document. -/
  | json
  deriving DecidableEq, Repr

/-- The options of a run. -/
structure RunOptions where
  /-- Where fixtures are, in place of the directories that scenarios name. -/
  fixtures : Option Path := none
  workRoot : Option Path := none
  /-- How many seconds a case may take that does not say it. -/
  timeoutSecs : Nat := 60
  /-- A text that the names of cases have to contain. -/
  filter : Option String := none
  /-- How many cases run at a time. -/
  jobs : Nat := 1
  format : Format := .console
  /-- Whether colors are left out. -/
  plain : Bool := false
  /-- Whether progress is told. -/
  verbose : Bool := false
  deriving DecidableEq, Repr

/-- What a user asks for. -/
inductive Request where
  /-- To run the cases of scenarios with a compiler. -/
  | run (compiler : Path) (options : RunOptions) (paths : List Path)
  /-- To list the cases of scenarios. -/
  | list (paths : List Path)
  /-- To tell the format of files. -/
  | inspect (files : List Path) (format : Format)
  deriving DecidableEq, Repr

/-! ## Values -/

/-- A path; it is not empty. -/
def pathValue (s : String) : Except UsageError Path :=
  if s.isEmpty then .error .missingValue else .ok ⟨s⟩

/-- A number in sixty-four bits, in digits, with a plus sign if one likes. -/
def numberValue (s : String) : Except UsageError Nat :=
  let digits := match s.toList with
    | '+' :: cs => cs
    | cs => cs
  let n := Nat.ofDigitChars 10 digits 0
  if !digits.isEmpty && digits.all Char.isDigit && n < UInt64.size then .ok n
  else .error .malformedValue

/-- The name of a form. -/
def formatValue : String → Except UsageError Format
  | "console" => .ok .console
  | "json" => .ok .json
  | _ => .error .missingValue

/-! ## Commands -/

/-- The option that asks for help. -/
def helpRule {α : Type} : Rule α := ⟨"help", some 'h', .help⟩

/-- What is known of a run while its arguments are read. -/
structure RunDraft where
  compiler : Option Path := none
  options : RunOptions := {}
  paths : List Path := []

/-- An option of a run that changes its options with a value. -/
def RunDraft.setting {β : Type} (read : String → Except UsageError β)
    (change : RunOptions → β → RunOptions) : Effect RunDraft :=
  .value fun s draft => do return { draft with options := change draft.options (← read s) }

/-- A switch of a run. -/
def RunDraft.turning (change : RunOptions → RunOptions) : Effect RunDraft :=
  .switch fun draft => { draft with options := change draft.options }

open RunDraft in
/-- The arguments of a run. -/
def runGrammar : Grammar RunDraft where
  rules :=
    [⟨"compiler", none, .value fun s draft => do
        return { draft with compiler := some (← pathValue s) }⟩,
      ⟨"fixtures", none, setting pathValue fun o p => { o with fixtures := some p }⟩,
      ⟨"work-dir", none, setting pathValue fun o p => { o with workRoot := some p }⟩,
      ⟨"timeout", none, setting numberValue fun o n => { o with timeoutSecs := n }⟩,
      ⟨"filter", none, setting .ok fun o s => { o with filter := some s }⟩,
      ⟨"jobs", some 'j', setting numberValue fun o n => { o with jobs := n }⟩,
      ⟨"format", none, setting formatValue fun o f => { o with format := f }⟩,
      ⟨"no-color", none, turning fun o => { o with plain := true }⟩,
      ⟨"verbose", some 'v', turning fun o => { o with verbose := true }⟩,
      helpRule]
  operand := fun s draft => do return { draft with paths := draft.paths ++ [← pathValue s] }

/-- The arguments of a listing. -/
def listGrammar : Grammar (List Path) where
  rules := [helpRule]
  operand := fun s paths => do return paths ++ [← pathValue s]

/-- The arguments of an inspection. -/
def inspectGrammar : Grammar (Format × List Path) where
  rules := [⟨"format", none, .value fun s draft => do return (← formatValue s, draft.2)⟩, helpRule]
  operand := fun s draft => do return (draft.1, draft.2 ++ [← pathValue s])

/-- Operands, of which there is at least one. -/
def nonempty (paths : List Path) : Except UsageError (List Path) :=
  if paths.isEmpty then .error .missingArgument else .ok paths

namespace Request

/-- The names of the commands. -/
def commandNames : List String := ["run", "list", "inspect", "help"]

/-- The request of a command with arguments, if there is such a command. -/
def ofCommand? (command : String) (args : List String) : Option (Except UsageError Request) :=
  match command with
  | "run" => some do
    let draft ← runGrammar.read {} args
    match draft.compiler with
    | some compiler => return .run compiler draft.options (← nonempty draft.paths)
    | none => throw .missingArgument
  | "list" => some do return .list (← nonempty (← listGrammar.read [] args))
  | "inspect" => some do
    let (format, files) ← inspectGrammar.read (.console, []) args
    return .inspect (← nonempty files) format
  | "help" => some <|
    match args with
    | [] => .error .helpRequested
    | [topic] => .error (if commandNames.contains topic then .helpRequested else .unknownCommand)
    | _ => .error .unknownCommand
  | _ => none

/-- What comes of a first argument that is no command. -/
def withoutCommand (arg : String) : UsageError :=
  match formOf arg with
  | .long "help" none => .helpRequested
  | .long "version" none => .versionRequested
  | .long "help" (some _) => .unwantedValue
  | .long "version" (some _) => .unwantedValue
  | .long _ _ => .unknownArgument
  | .short ('h' :: _) => .helpRequested
  | .short ('V' :: _) => .versionRequested
  | .short _ => .unknownArgument
  | _ => .unknownCommand

/-- The request that arguments stand for. A command is not one after a `--`. -/
def parse : List String → Except UsageError Request
  | [] => .error .noCommand
  | ["--"] => .error .noCommand
  | "--" :: arg :: _ =>
    .error (if commandNames.contains arg then .unknownArgument else .unknownCommand)
  | arg :: args => (ofCommand? arg args).getD (.error (withoutCommand arg))

end Request

end Conformance.CommandLine
