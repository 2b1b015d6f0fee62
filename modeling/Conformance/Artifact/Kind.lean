/-!
# Artifact kinds

* `ArtifactKind` : the formats that are told apart;
* `ArtifactKind.label` : the name in messages; `ArtifactKind.name` : the name in documents.
-/

namespace Conformance

/-- The format of an artifact. -/
inductive ArtifactKind where
  /-- An ELF object or executable. -/
  | elf
  /-- A Mach-O object, thin or universal. -/
  | machO
  /-- A PE image. -/
  | pe
  /-- An LLVM bitcode stream, wrapped or not. -/
  | llvmBitcode
  /-- A textual LLVM module. -/
  | llvmIrText
  /-- Anything else. -/
  | unknown
  deriving DecidableEq, Repr, Inhabited

namespace ArtifactKind

/-- Every kind, in declaration order. -/
def all : List ArtifactKind := [.elf, .machO, .pe, .llvmBitcode, .llvmIrText, .unknown]

/-- The name of a kind in messages. -/
def label : ArtifactKind → String
  | .elf => "ELF"
  | .machO => "MACHO"
  | .pe => "PE"
  | .llvmBitcode => "LLVM_BITCODE"
  | .llvmIrText => "LLVM_IR_TEXT"
  | .unknown => "UNKNOWN"

/-- The name of a kind in documents. -/
def name : ArtifactKind → String
  | .elf => "elf"
  | .machO => "macho"
  | .pe => "pe"
  | .llvmBitcode => "llvm_bitcode"
  | .llvmIrText => "llvm_ir_text"
  | .unknown => "unknown"

/-- The kind of a document name. -/
def ofName? (s : String) : Option ArtifactKind := all.find? fun k => k.name = s

theorem ofName?_name (k : ArtifactKind) : ofName? k.name = some k := by
  cases k <;> decide +kernel

/-- Whether an operating system loads artifacts of this kind. -/
def isNativeBinary : ArtifactKind → Bool
  | .elf => true
  | .machO => true
  | .pe => true
  | _ => false

end ArtifactKind

end Conformance
