import Conformance.CommandLine.Execution
import Conformance.Host.Image
import Conformance.Host.Launch

/-!
# The program

Requests are carried out on a host in memory. Its files come as a document, a list of files, from
standard input.
-/

namespace Conformance

/-- The directory that requests are carried out in. -/
def homeLocation : Location := ["home"]

/-- The standard files, and those of a document. -/
def imageOf? (text : String) : Option FileStore := do
  let files ← (← Data.ofJson? text).listOf? some
  files.foldlM (Image.place? homeLocation) (Host.standardFiles.put homeLocation (.directory true))

/-- The platform that a host in memory has. -/
def hostPlatform : Platform := ⟨.linux, .x86_64⟩

/-- Where requests are carried out, with workers that take turns one after the other. -/
def homeSite : CommandLine.Site :=
  ⟨hostPlatform, ⟨homeLocation, Host.standardVariables⟩, Host.launch, id⟩

/-- What an error looks like to a reader. -/
def HarnessError.diagnostic (e : HarnessError) : String :=
  let cause := match e.cause with
    | some c => s!"\n  caused by: {c.message}"
    | none => ""
  let help := match e.help with
    | some h => s!"\n  help: {h}"
    | none => ""
  s!"{e.code}: {e.message}{cause}{help}"

/-- Carries a request out on the files of standard input. -/
def carryOut (request : CommandLine.Request) : IO UInt32 := do
  match imageOf? (← (← IO.getStdin).readToEnd) with
  | none =>
    IO.eprintln "error: standard input is not a list of files"
    return 2
  | some files =>
    let (answer, _, output, progress) := (request.deliver homeSite .kept).run.run ({ files }, "", "")
    IO.eprint progress
    IO.print output
    match answer with
    | .ok status => return UInt32.ofNat status
    | .error e =>
      IO.eprintln e.diagnostic
      return UInt32.ofNat e.exitStatus

end Conformance

/-- Reads the arguments and carries the request out. -/
def main (args : List String) : IO UInt32 := do
  match Conformance.CommandLine.Request.parse args with
  | .error e =>
    IO.eprintln e.message
    return UInt32.ofNat e.exitStatus
  | .ok request => Conformance.carryOut request
