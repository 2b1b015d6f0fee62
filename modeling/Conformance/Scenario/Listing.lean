import Conformance.Report.Styled
import Conformance.Scenario

/-!
# Listings of scenarios

* `CaseSpec.isFor` : whether a case is for a system, as it stands in the file;
* `Scenario.listing` : the name of a suite and its cases, each with its arguments and a mark if it
  is not for the system.
-/

namespace Conformance

open Styled

/-- Whether a case is for the system of a platform. -/
def CaseSpec.isFor (c : CaseSpec) (p : Platform) : Bool :=
  (c.platforms.map fun systems => systems.contains p.os).getD true

/-- The lines of a case on a platform. -/
def CaseSpec.listing (c : CaseSpec) (p : Platform) : List Piece :=
  [.text s!"  {c.name}"] ++
    (if c.isFor p then [] else styled .yellow false s!" [not on {p.os.name}]") ++
    [.text ("\n    argv: <compiler> " ++ String.intercalate " " c.plan.argv ++ "\n")]

/-- The lines of a scenario on a platform. -/
def Scenario.listing (s : Scenario) (p : Platform) : List Piece :=
  styled .cyan true s.name ++ [.text s!" ({s.path.text})\n"] ++
    s.file.cases.flatMap fun c => c.listing p

/-- The lines of scenarios on a platform. -/
def listing (ss : List Scenario) (p : Platform) : List Piece := ss.flatMap fun s => s.listing p

end Conformance
