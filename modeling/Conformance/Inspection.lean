import Conformance.Artifact
import Conformance.Data.JsonText
import Conformance.Path
import Conformance.Report.Styled

/-!
# Inspections

* `Inspection` : a file, its summary, and whether it is native to a platform;
* `Inspection.console`, `inspectionsJson` : the two forms of output.
-/

namespace Conformance

open Styled

/-- What is told about one inspected file. -/
structure Inspection where
  path : Path
  summary : ArtifactSummary
  native : Bool
  deriving DecidableEq, Repr

namespace Inspection

/-- The inspection of a file for a platform. -/
def ofSummary (path : Path) (summary : ArtifactSummary) (p : Platform) : Inspection :=
  ⟨path, summary, !summary.isEmpty && p.nativeKind? == some summary.kind⟩

/-- The lines of an inspection. -/
def console (i : Inspection) : List Piece :=
  styled .cyan true i.path.text ++
    [.text (s!"\n  kind:   {i.summary.kind.label}\n  empty:  {i.summary.isEmpty}\n" ++
      s!"  size:   {i.summary.size} bytes\n  sha256: {i.summary.sha256}\n" ++
      s!"  native: {i.native}\n")]

/-- The document form. -/
def toData (i : Inspection) : Data :=
  .record [("path", .text i.path.text), ("kind", .text i.summary.kind.name),
    ("is_empty", .bool i.summary.isEmpty), ("size", .int i.summary.size),
    ("sha256", .text i.summary.sha256), ("native", .bool i.native)]

end Inspection

/-- Inspections as a document, with a line end. -/
def inspectionsJson (is : List Inspection) : String :=
  (Data.list (is.map Inspection.toData)).pretty ++ "\n"

end Conformance
