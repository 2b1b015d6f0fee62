/-!
# Reading arguments

Arguments of a command are switches, options with a value, and operands, in any order. A value that
stands in an argument of its own is taken over only when the next argument has been looked at, and
operands are taken over together; so an argument of no meaning is reported before a value that is
refused.

* `UsageError` : why arguments are not read to the end;
* `Rule`, `Grammar` : the options of a command, and what they do to its settings;
* `Reading` : the settings so far, and what waits to be taken over;
* `Grammar.read` : the settings that arguments stand for.
-/

namespace Conformance.CommandLine

/-- Why arguments are not read to the end. -/
inductive UsageError where
  | helpRequested
  | versionRequested
  | noCommand
  | unknownCommand
  /-- An argument has no meaning here. -/
  | unknownArgument
  /-- An option or an operand that has to be there is not. -/
  | missingArgument
  /-- A value is missing, empty, or none of those allowed. -/
  | missingValue
  /-- A value is no number of the right size. -/
  | malformedValue
  | repeatedOption
  /-- A switch is given a value. -/
  | unwantedValue
  deriving DecidableEq, Repr

/-- The exit status that goes with it: asking for something is no failure. -/
def UsageError.exitStatus : UsageError → Nat
  | .helpRequested => 0
  | .versionRequested => 0
  | _ => 2

/-- The wording of a usage error. -/
def UsageError.message : UsageError → String
  | .helpRequested => "usage: run --compiler PATH SCENARIO... | list SCENARIO... | inspect FILE..."
  | .versionRequested => "driverprobe 0.1.0"
  | .noCommand => "error: a command is required: run, list, inspect or help"
  | .unknownCommand => "error: unrecognized command"
  | .unknownArgument => "error: unexpected argument"
  | .missingArgument => "error: a required argument was not provided"
  | .missingValue => "error: a value is required, or is not one of the possible values"
  | .malformedValue => "error: a value is not a number of the right size"
  | .repeatedOption => "error: an option cannot be used multiple times"
  | .unwantedValue => "error: an unexpected value was found for a switch"

/-- What an option does to settings of type `α`. -/
inductive Effect (α : Type) where
  /-- It changes them. -/
  | switch (on : α → α)
  /-- It has a value, and changes them with it. -/
  | value (set : String → α → Except UsageError α)
  | help

/-- An option. -/
structure Rule (α : Type) where
  long : String
  short : Option Char := none
  /-- What it does. -/
  effect : Effect α

/-- The options and operands of a command. -/
structure Grammar (α : Type) where
  rules : List (Rule α)
  /-- What an operand does. -/
  operand : String → α → Except UsageError α

/-- What waits to be taken over. -/
inductive Waiting (α : Type) where
  | nothing
  /-- An option with its value, if that has been seen. -/
  | option (rule : Rule α) (value : Option String)
  | operands (values : List String)

/-- The settings so far. -/
structure Reading (α : Type) where
  settings : α
  /-- The long names of the options that have been taken over. -/
  taken : List String := []
  /-- What waits. -/
  waiting : Waiting α := .nothing

namespace Reading

variable {α : Type}

/-- Takes an option over. None is taken over twice. -/
def take (r : Reading α) (rule : Rule α) (change : α → Except UsageError α) :
    Except UsageError (Reading α) := do
  if r.taken.contains rule.long then throw .repeatedOption
  return ⟨← change r.settings, rule.long :: r.taken, .nothing⟩

/-- Takes a value over. -/
def takeValue (r : Reading α) (rule : Rule α) (value : String) : Except UsageError (Reading α) :=
  match rule.effect with
  | .value set => r.take rule (set value)
  | _ => .error .unwantedValue

/-- Takes over all that waits. -/
def settle (g : Grammar α) (r : Reading α) : Except UsageError (Reading α) :=
  match r.waiting with
  | .nothing => .ok r
  | .option _ none => .error .missingValue
  | .option rule (some value) => r.takeValue rule value
  | .operands values => do
    return { r with
      settings := ← values.foldlM (fun settings v => g.operand v settings) r.settings
      waiting := .nothing }

/-- An option without a value of its own in the argument. -/
def option (g : Grammar α) (r : Reading α) (rule : Rule α) : Except UsageError (Reading α) := do
  let r ← r.settle g
  match rule.effect with
  | .switch on => r.take rule fun settings => .ok (on settings)
  | .value _ => return { r with waiting := .option rule none }
  | .help => throw .helpRequested

/-- An option with a value in the same argument. -/
def optionWith (g : Grammar α) (r : Reading α) (rule : Rule α) (value : String) :
    Except UsageError (Reading α) := do
  (← r.settle g).takeValue rule value

/-- An operand. -/
def operand (g : Grammar α) (r : Reading α) (arg : String) : Except UsageError (Reading α) :=
  match r.waiting with
  | .operands values => .ok { r with waiting := .operands (values ++ [arg]) }
  | _ => do return { ← r.settle g with waiting := .operands [arg] }

end Reading

/-! ## Forms of arguments -/

/-- What an argument looks like. -/
inductive Form where
  /-- After it all arguments are operands. -/
  | mark
  /-- A long option, with a value if there is one. -/
  | long (name : String) (value : Option String)
  /-- Short options, or one with a value. -/
  | short (letters : List Char)
  /-- A value or an operand. -/
  | plain
  deriving DecidableEq, Repr

/-- What an argument looks like. -/
def formOf (arg : String) : Form :=
  match arg.toList with
  | ['-', '-'] => .mark
  | '-' :: '-' :: cs =>
    let name := cs.takeWhile (· ≠ '=')
    .long (String.ofList name) ((cs.drop name.length).tail?.map String.ofList)
  | '-' :: c :: cs => .short (c :: cs)
  | _ => .plain

namespace Grammar

variable {α : Type}

/-- A long option. -/
def readLong (g : Grammar α) (r : Reading α) (name : String) (value : Option String) :
    Except UsageError (Reading α) :=
  match g.rules.find? fun rule => rule.long = name with
  | none => .error .unknownArgument
  | some rule =>
    match rule.effect, value with
    | .value _, some v => r.optionWith g rule v
    | _, some _ => .error .unwantedValue
    | _, none => r.option g rule

/-- Short options. What follows one with a value is the value. -/
def readShort (g : Grammar α) : Reading α → List Char → Except UsageError (Reading α)
  | r, [] => .ok r
  | r, c :: cs =>
    match g.rules.find? fun rule => rule.short = some c with
    | none => .error .unknownArgument
    | some rule =>
      match rule.effect, cs with
      | .value _, '=' :: value => r.optionWith g rule (String.ofList value)
      | .value _, c :: cs => r.optionWith g rule (String.ofList (c :: cs))
      | _, cs => do g.readShort (← r.option g rule) cs

/-- All arguments, one after the other. -/
def readAll (g : Grammar α) : Reading α → List String → Except UsageError (Reading α)
  | r, [] => r.settle g
  | r, arg :: args =>
    match formOf arg, r.waiting with
    | .mark, _ => do (← args.foldlM (fun r arg => r.operand g arg) r).settle g
    | .long name value, _ => do g.readAll (← g.readLong r name value) args
    | .short letters, _ => do g.readAll (← g.readShort r letters) args
    | .plain, .option rule none => g.readAll { r with waiting := .option rule (some arg) } args
    | .plain, _ => do g.readAll (← r.operand g arg) args

/-- The settings that arguments stand for, from those without any. -/
def read (g : Grammar α) (settings : α) (args : List String) : Except UsageError α := do
  return (← g.readAll { settings } args).settings

end Grammar

end Conformance.CommandLine
