import Conformance.Path
import Conformance.Plan.Naming

/-!
# Invocation plans

A plan describes one compiler call: sources, extra arguments, and an output that may be named
apart from the arguments or inside them.

* `Plan.argv` : sources, then extra arguments, then `-o` and the output if it is named apart;
* `Plan.mode` : what the options among the extra arguments make the driver produce;
* `Plan.explicitOutput?`, `Plan.primarySource?` : the output and the first source as named;
* `Plan.expectedOutput?` : where the driver writes, relative to its working directory;
* `Plan.toData`, `Plan.ofData?` : the document form.
-/

namespace Conformance

/-- One compiler call. -/
structure Plan where
  /-- What the call is known as. -/
  name : String
  /-- The source files in order. -/
  sources : List Path := []
  /-- The output, if it is named apart from the arguments. -/
  out : Option Path := none
  /-- Further arguments, passed on as they are. -/
  extraArgs : List String := []
  deriving DecidableEq, Repr, Inhabited

/-- Options whose value is the next argument. -/
def flagsWithValue : List String :=
  ["-o", "-x", "-D", "-U", "-I", "-L", "-include", "-isystem", "-iquote", "-MF", "-MT", "-Xclang",
    "-Xlinker"]

/-- Extensions of files that a driver compiles. -/
def sourceExtensions : List String :=
  ["c", "cc", "cpp", "cxx", "c++", "C", "m", "mm", "i", "ii", "ll", "bc"]

/-- Options that print the module instead of writing a file. -/
def inMemoryFlags : List String := ["--in-mem", "--in-memory"]

/-- The rest of a text after a leading part. -/
def afterStart? (start s : String) : Option String :=
  if start.toList.isPrefixOf s.toList then some (String.ofList (s.toList.drop start.length))
  else none

/-- Whether an argument has the extension of a source file. -/
def looksLikeSource (arg : String) : Bool :=
  match (Path.mk arg).extension? with
  | some ext => sourceExtensions.contains ext
  | none => false

namespace Plan

/-- The arguments of the call, without the executable. -/
def argv (p : Plan) : List String :=
  p.sources.map Path.text ++ p.extraArgs ++
    match p.out with
    | some out => ["-o", out.text]
    | none => []

/-- The extra arguments that are read as options: all before a `--`. -/
def options (p : Plan) : List String := p.extraArgs.takeWhile (· != "--")

/-- What the options make the driver produce. It stops at the earliest phase that is asked for,
so `-S` wins over `-c`. -/
def mode (p : Plan) : OutputMode :=
  let given := fun flag => p.options.contains flag
  if inMemoryFlags.any given then .inMemory
  else
    match given "-S", given "-c", given "-emit-llvm" with
    | true, _, true => .irText
    | true, _, false => .assembly
    | false, true, true => .bitcode
    | false, true, false => .object
    | false, false, _ => .link

/-- The last output that a list of options names, as `-o NAME` or as `-o=NAME`. -/
def namedOutput? : Option Path → List String → Option Path
  | found, [] => found
  | found, [arg] =>
    match afterStart? "-o=" arg with
    | some value => some ⟨value⟩
    | none => found
  | found, arg :: value :: rest =>
    if arg = "-o" then namedOutput? (some ⟨value⟩) rest
    else
      match afterStart? "-o=" arg with
      | some named => namedOutput? (some ⟨named⟩) (value :: rest)
      | none => namedOutput? found (value :: rest)

/-- The output that the plan names, apart or among its options. -/
def explicitOutput? (p : Plan) : Option Path :=
  match p.out with
  | some out => some out
  | none => namedOutput? none p.options

/-- The first argument that is no option, no value of one, and looks like a source file. After a
`--` nothing is an option. -/
def firstSource? (positionalOnly : Bool) : List String → Option Path
  | [] => none
  | arg :: rest =>
    let here := if looksLikeSource arg then some ⟨arg⟩ else firstSource? positionalOnly rest
    if positionalOnly then here
    else if arg = "--" then firstSource? true rest
    else if flagsWithValue.contains arg then
      match rest with
      | [] => none
      | _ :: rest => firstSource? false rest
    else if arg.toList.head? == some '-' then firstSource? false rest
    else here

/-- The first source: of the sources, or else among the extra arguments. -/
def primarySource? (p : Plan) : Option Path :=
  match p.sources with
  | first :: _ => some first
  | [] => firstSource? false p.extraArgs

/-- Where the driver writes its output. A named output wins; a linked executable has the default
name; any other file is named after the primary source. -/
def expectedOutput? (p : Plan) (rules : NamingRules) : Option Path :=
  match p.explicitOutput? with
  | some out => some out
  | none =>
    match p.mode with
    | .inMemory => none
    | .link => some ⟨rules.defaultExecutable⟩
    | mode => do
      let source ← p.primarySource?
      let stem ← source.stem?
      let ext ← rules.extensionFor? mode
      return (Path.mk stem).withExtension ext

/-- The document form. -/
def toData (p : Plan) : Data :=
  .record [("name", .text p.name), ("sources", .texts (p.sources.map Path.text)),
    ("out", .textOrNull (p.out.map Path.text)), ("args", .texts p.extraArgs)]

/-- A path from a document. -/
def path? (d : Data) : Option Path := d.text?.map Path.mk

/-- The fields of a plan from their documents, where they are given. -/
def ofFields? (name : Option Data) (sources out args : Option Data) : Option Plan := do
  let name ← (← name).text?
  let sources ← (sources.map (Data.listOf? path?)).getD (some [])
  let out ← (out.map (Data.optional? path?)).getD (some none)
  let args ← (args.map (Data.listOf? Data.text?)).getD (some [])
  return ⟨name, sources, out, args⟩

/-- A plan from its document form: a mapping, or its fields in order. All but the name may be
left out, in a list only from the end. -/
def ofData? : Data → Option Plan
  | .map entries =>
    let field := Data.field? entries
    ofFields? (field "name") (field "sources") (field "out") (field "args")
  | .list items =>
    if items.length ≤ 4 then ofFields? items[0]? items[1]? items[2]? items[3]? else none
  | _ => none

end Plan

end Conformance
