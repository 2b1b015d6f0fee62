import Conformance.Artifact.Kind
import Conformance.Text.Utf8

/-!
# Formats by content

The kind of an artifact is read off its first bytes, never off its name.

* `sniffMagic?` : ELF, bitcode and Mach-O, by their leading four bytes;
* `peOffset?`, `peAt?` : where a DOS header announces a PE signature, and whether it stands there;
* `sniffIrText?` : a textual module, by a header line among the first `sniffLength` bytes;
* `Classification.ofBytes` : the kind of a byte string.
-/

namespace Conformance

/-- How many leading bytes of a file are looked at. -/
def sniffLength : Nat := 4096

/-- What sniffing says about a file. -/
structure Classification where
  kind : ArtifactKind
  /-- Whether the file holds no bytes or cannot be read. -/
  isEmpty : Bool
  deriving DecidableEq, Repr

namespace Classification

/-- The classification of nothing. -/
def empty : Classification := ⟨.unknown, true⟩

/-- The number that four bytes denote, most significant first. -/
def bigEndian (p q r s : UInt8) : Nat :=
  ((p.toNat * 256 + q.toNat) * 256 + r.toNat) * 256 + s.toNat

/-- The largest number of slices that a universal container is taken to have. Class files of
another format share its magic, and their version number stands where the count would be. -/
def maxSlices : Nat := 30

/-- A universal container, if the slice count after its magic is plausible. The count is written
in the byte order of the magic. -/
def universal? (bigFirst : Bool) : Bytes → Option ArtifactKind
  | p :: q :: r :: s :: _ =>
    let count := if bigFirst then bigEndian p q r s else bigEndian s r q p
    if 1 ≤ count ∧ count ≤ maxSlices then some .machO else none
  | _ => none

/-- The kinds that the first four bytes decide. -/
def sniffMagic? : Bytes → Option ArtifactKind
  | p :: q :: r :: s :: rest =>
    let magic := bigEndian p q r s
    if magic = 0x7F454C46 then some .elf
    else if magic = 0x4243C0DE ∨ magic = 0xDEC0170B then some .llvmBitcode
    else if magic = 0xFEEDFACE ∨ magic = 0xCEFAEDFE ∨ magic = 0xFEEDFACF ∨ magic = 0xCFFAEDFE then
      some .machO
    else if magic = 0xCAFEBABE ∨ magic = 0xCAFEBABF then universal? true rest
    else if magic = 0xBEBAFECA ∨ magic = 0xBFBAFECA then universal? false rest
    else none
  | _ => none

/-- Where a DOS header keeps the offset of the PE header. -/
def peFieldOffset : Nat := 0x3C

/-- The offset of the PE header that a DOS header announces; it lies behind the DOS header. -/
def peOffset? (bs : Bytes) : Option Nat :=
  match bs with
  | 0x4D :: 0x5A :: _ =>
    match bs.drop peFieldOffset with
    | p :: q :: r :: s :: _ =>
      let offset := bigEndian s r q p
      if peFieldOffset + 4 ≤ offset then some offset else none
    | _ => none
  | _ => none

/-- The mark of a PE header. -/
def peSignature : Bytes := [0x50, 0x45, 0, 0]

/-- Whether the bytes at an offset are the mark of a PE header. -/
def hasPeAt (bs : Bytes) (offset : Nat) : Bool := (bs.drop offset).take 4 == peSignature

/-- A PE image whose mark lies inside the given bytes. -/
def sniffPe? (bs : Bytes) : Option ArtifactKind :=
  match peOffset? bs with
  | some offset => if hasPeAt bs offset then some .pe else none
  | none => none

/-- How a header line of a textual module starts. -/
def headerMarks : List (List Char) :=
  ["; ModuleID = ".toList, "source_filename = ".toList, "target datalayout = ".toList,
    "target triple = ".toList]

/-- Whether a line is a header line: blanks, then one of the marks. -/
def isHeaderLine (line : List Char) : Bool :=
  let body := line.dropWhile fun c => c = ' ' || c = '\t'
  headerMarks.any fun mark => mark.isPrefixOf body

/-- Whether some line of a text, here or after a line feed, is a header line. -/
def hasHeaderLine : List Char → Bool
  | [] => isHeaderLine []
  | c :: cs => isHeaderLine (c :: cs) || laterHeader (c :: cs)
where
  /-- Whether a line that starts after a line feed is a header line. -/
  laterHeader : List Char → Bool
    | [] => false
    | c :: cs => (c = '\n' && isHeaderLine cs) || laterHeader cs

/-- A textual module. The window may end inside a character. -/
def sniffIrText? (bs : Bytes) : Option ArtifactKind :=
  let window := bs.take sniffLength
  if window.contains 0 then none
  else
    match Utf8.decodeCut? window with
    | some text => if hasHeaderLine text then some .llvmIrText else none
    | none => none

/-- The classification of a whole byte string. -/
def ofBytes (bs : Bytes) : Classification :=
  if bs.isEmpty then empty
  else
    ⟨((sniffMagic? bs).orElse fun _ => (sniffPe? bs).orElse fun _ => sniffIrText? bs).getD
      .unknown, false⟩

/-- The classification of a file by its leading bytes, and by the four bytes at the announced
offset where a DOS header points past them. -/
def ofFile (content : Bytes) : Classification :=
  let window := content.take sniffLength
  let found := ofBytes window
  if found.kind ≠ .unknown ∨ found.isEmpty then found
  else
    match peOffset? window with
    | some offset =>
      if offset + 4 > window.length ∧ hasPeAt content offset then ⟨.pe, false⟩ else found
    | none => found

end Classification

end Conformance
