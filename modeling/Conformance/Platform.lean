import Conformance.Data
import Conformance.Artifact.Kind

/-!
# Platforms

* `Os`, `Arch` : the families that are told apart;
* `Platform` : a pair of them;
* `Platform.nativeKind?` : the artifact kind that a native compile produces there;
* `Platform.toData`, `Platform.ofData?` : the document form.
-/

namespace Conformance

/-- An operating system family. -/
inductive Os where
  | linux
  | macos
  | windows
  | other
  deriving DecidableEq, Repr, Inhabited

namespace Os

/-- Every family. -/
def all : List Os := [.linux, .macos, .windows, .other]

/-- The name of a family. -/
def name : Os → String
  | .linux => "linux"
  | .macos => "macos"
  | .windows => "windows"
  | .other => "other"

/-- The family of a name. -/
def ofName? (s : String) : Option Os := all.find? fun os => os.name = s

theorem ofName?_name (os : Os) : ofName? os.name = some os := by cases os <;> decide +kernel

end Os

/-- A processor architecture. -/
inductive Arch where
  | x86_64
  | aarch64
  | x86
  | arm
  | other
  deriving DecidableEq, Repr, Inhabited

namespace Arch

/-- Every architecture. -/
def all : List Arch := [.x86_64, .aarch64, .x86, .arm, .other]

/-- The name of an architecture. -/
def name : Arch → String
  | .x86_64 => "x86_64"
  | .aarch64 => "aarch64"
  | .x86 => "x86"
  | .arm => "arm"
  | .other => "other"

/-- The architecture of a name. -/
def ofName? (s : String) : Option Arch := all.find? fun arch => arch.name = s

theorem ofName?_name (arch : Arch) : ofName? arch.name = some arch := by
  cases arch <;> decide +kernel

end Arch

/-- Where a compiler runs and what it compiles for. -/
structure Platform where
  os : Os
  arch : Arch
  deriving DecidableEq, Repr, Inhabited

namespace Platform

/-- The platform that the command line works on. -/
def host : Platform := ⟨.linux, .x86_64⟩

/-- The two names joined by a hyphen. -/
def label (p : Platform) : String := p.os.name ++ "-" ++ p.arch.name

/-- The artifact kind that a native compile produces, where one is known. -/
def nativeKind? (p : Platform) : Option ArtifactKind :=
  match p.os with
  | .linux => some .elf
  | .macos => some .machO
  | .windows => some .pe
  | .other => none

/-- The document form. -/
def toData (p : Platform) : Data :=
  .record [("os", .text p.os.name), ("arch", .text p.arch.name)]

/-- A platform from the document forms of its two parts. -/
def ofParts? (os arch : Data) : Option Platform := do
  let os ← Data.unit? Os.all Os.name (fun _ => false) os
  let arch ← Data.unit? Arch.all Arch.name (fun _ => false) arch
  return ⟨os, arch⟩

/-- A platform from its document form: a mapping, or its two fields in order. -/
def ofData? : Data → Option Platform
  | .map entries => do ofParts? (← Data.field? entries "os") (← Data.field? entries "arch")
  | .list [os, arch] => ofParts? os arch
  | _ => none

end Platform

end Conformance
