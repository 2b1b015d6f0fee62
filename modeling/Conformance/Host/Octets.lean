import Conformance.FileStore

/-!
# Strings of octets

A host passes names, arguments and contents of files on as octets. Here they are strings, of which
every character stands for one octet.

* `octets`, `ofOctets` : octets from a string, and back;
* `encoded`, `pathOf` : the octets of a text, and the path that octets name.
-/

namespace Conformance.Host

/-- The octets of a string of octets. -/
def octets (s : String) : Bytes := s.toList.map fun c => UInt8.ofNat c.toNat

/-- A string of octets. -/
def ofOctets (bs : Bytes) : String := String.ofList (bs.map fun b => Char.ofNat b.toNat)

/-- A text as a string of octets. -/
def encoded (s : String) : String := ofOctets (Bytes.ofText s)

/-- The path that a string of octets names. -/
def pathOf (s : String) : Path := ⟨(octets s).toText⟩

end Conformance.Host
