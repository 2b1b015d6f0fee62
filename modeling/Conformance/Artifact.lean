import Conformance.Artifact.Sniff
import Conformance.Digest
import Conformance.Platform

/-!
# Artifacts

* `Classification.isNativeFor` : whether the kind is the native one of a platform;
* `reads`, `Tally.onward` : a file is counted and digested a read at a time;
* `ArtifactSummary` : kind, size and digest of a file.
-/

namespace Conformance

/-- Whether the kind is the native one of a platform. -/
def Classification.isNativeFor (c : Classification) (p : Platform) : Bool :=
  p.nativeKind? == some c.kind

/-! ## Reading -/

/-- How many bytes a read asks for. -/
def readLength : Nat := 8192

/-- What the reads of a content return, one after another; the last one returns nothing. -/
def reads (content : Bytes) : List Bytes :=
  if content.isEmpty then [[]]
  else content.take readLength :: reads (content.drop readLength)
  termination_by content.length
  decreasing_by
    have hlength : content.length ≠ 0 := by simpa using ‹¬content.isEmpty = true›
    simp only [List.length_drop, readLength]
    omega

/-- What is known of a content while it is read. -/
structure Tally where
  /-- How many bytes were read. -/
  size : Nat := 0
  /-- What is to be digested, the last piece first. -/
  pieces : List Bytes := []

namespace Tally

/-- All that was read. -/
def message (t : Tally) : Bytes := t.pieces.reverse.flatten

/-- Counts and keeps what is read, until a read returns nothing. -/
def onward (t : Tally) : List Bytes → Tally
  | [] => t
  | piece :: rest =>
    if piece.isEmpty then t else onward ⟨t.size + piece.length, piece :: t.pieces⟩ rest

end Tally

/-! ## Summaries -/

/-- What is told about a file. -/
structure ArtifactSummary where
  kind : ArtifactKind
  isEmpty : Bool
  size : Nat
  sha256 : String
  deriving DecidableEq, Repr

/-- The summary of a file's content. -/
def ArtifactSummary.ofContent (content : Bytes) : ArtifactSummary :=
  let c := Classification.ofFile content
  let t := Tally.onward {} (reads content)
  ⟨c.kind, c.isEmpty, t.size, Digest.sha256Hex t.message⟩

end Conformance
