import Conformance.Platform

/-!
# Naming rules of a compiler driver

* `OutputMode` : what an invocation produces, as far as naming is concerned;
* `NamingRules` : the name of a linked executable and the extension for each other mode;
* `NamingRules.forPlatform` : the conventions of a platform.
-/

namespace Conformance

/-- What an invocation produces. -/
inductive OutputMode where
  | link
  | object
  | assembly
  | irText
  | bitcode
  /-- Text on standard output, and no file. -/
  | inMemory
  deriving DecidableEq, Repr

namespace OutputMode

/-- The name of a mode in documents. -/
def name : OutputMode → String
  | .link => "link"
  | .object => "object"
  | .assembly => "assembly"
  | .irText => "ir_text"
  | .bitcode => "bitcode"
  | .inMemory => "in_memory"

/-- The name of a mode in messages. -/
def label : OutputMode → String
  | .link => "Link"
  | .object => "Object"
  | .assembly => "Assembly"
  | .irText => "IrText"
  | .bitcode => "Bitcode"
  | .inMemory => "InMemory"

end OutputMode

/-- How a driver names its output when none is given. -/
structure NamingRules where
  /-- The name of a linked executable. -/
  defaultExecutable : String
  objectExt : String
  assemblyExt : String
  irTextExt : String
  bitcodeExt : String
  deriving DecidableEq, Repr, Inhabited

namespace NamingRules

/-- The usual conventions. -/
def standard : NamingRules := ⟨"a.out", "o", "s", "ll", "bc"⟩

/-- The conventions of a platform. -/
def forPlatform (p : Platform) : NamingRules :=
  match p.os with
  | .windows => { standard with defaultExecutable := "a.exe", objectExt := "obj" }
  | _ => standard

/-- The extension for a mode that writes a file named after its source. -/
def extensionFor? (rules : NamingRules) : OutputMode → Option String
  | .object => some rules.objectExt
  | .assembly => some rules.assemblyExt
  | .irText => some rules.irTextExt
  | .bitcode => some rules.bitcodeExt
  | .link => none
  | .inMemory => none

/-- The document form. -/
def toData (rules : NamingRules) : Data :=
  .record [("default_executable", .text rules.defaultExecutable),
    ("object_ext", .text rules.objectExt), ("assembly_ext", .text rules.assemblyExt),
    ("ir_text_ext", .text rules.irTextExt), ("bitcode_ext", .text rules.bitcodeExt)]

/-- Naming rules from their document form: a mapping with all five names, or a list of them. -/
def ofData? : Data → Option NamingRules
  | .map entries => do
    let field := fun name => (Data.field? entries name).bind Data.text?
    return ⟨← field "default_executable", ← field "object_ext", ← field "assembly_ext",
      ← field "ir_text_ext", ← field "bitcode_ext"⟩
  | .list [a, b, c, d, e] => do return ⟨← a.text?, ← b.text?, ← c.text?, ← d.text?, ← e.text?⟩
  | _ => none

end NamingRules

end Conformance
