import Conformance.Case

/-!
# Suites

* `Suite` : cases that share their fixtures.
-/

namespace Conformance

/-- Cases that share their fixtures. -/
structure Suite where
  name : String
  cases : List TestCase := []
  /-- Files that are copied into the workspace of every case. -/
  fixtures : List Path := []

end Conformance
