import Conformance.HarnessError
import Conformance.Host
import Conformance.Report.Styled

/-!
# Hosts and streams

* `Console` : the streams that results and progress are written to;
* `Console.kept` : streams in memory;
* `Attempt` : a request that is being carried out; `Attempt.look`, `Attempt.act`, `Attempt.write`,
  `Attempt.tell` : what it can do on the way.
-/

namespace Conformance.CommandLine

open Styled

/-- The streams of the harness, whose state is of type `ω`. Nothing is said about when writing
fails, nor about what is left of a text then. -/
structure Console (ω : Type) where
  /-- Writes to standard output. -/
  write : List Piece → Action ω Unit
  /-- Writes to standard error. -/
  tell : String → StateM ω Unit

/-- Streams in memory: what was written to standard output, and to standard error. Writing never
fails. -/
def Console.kept : Console (String × String) where
  write := fun pieces streams => (.ok (), streams.1 ++ plain pieces, streams.2)
  tell := fun text streams => ((), streams.1, streams.2 ++ text)

/-- A request that is being carried out on a host, and writes to streams. -/
abbrev Attempt (ω : Type) := ExceptT HarnessError (StateM (Host × ω))

namespace Attempt

variable {ω α : Type}

/-- Finds something out about the host. -/
def look (f : Host → Except HarnessError α) : Attempt ω α := fun s => (f s.1, s)

/-- Does something on the host. -/
def act (a : StateM Host α) : Attempt ω α := fun s =>
  let (x, host) := a.run s.1
  (.ok x, host, s.2)

/-- Writes to standard output. -/
def write (console : Console ω) (pieces : List Piece) : Attempt ω Unit := fun s =>
  let (answer, streams) := (console.write pieces).run.run s.2
  (answer.mapError .reportWrite, s.1, streams)

/-- Writes to standard error. -/
def tell (console : Console ω) (text : String) : Attempt ω Unit := fun s =>
  (.ok (), s.1, ((console.tell text).run s.2).2)

end Attempt

end Conformance.CommandLine
