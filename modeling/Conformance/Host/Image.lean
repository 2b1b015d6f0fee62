import Conformance.Data.JsonReader
import Conformance.FileStore
import Conformance.Plan

/-!
# Images of files

A list of files as a document, from which a store is filled.

* `bytesOf?` : contents, as text or in parts;
* `FileStore.place?` : a store with one more file, directory or link.
-/

namespace Conformance.Image

/-- The octet that two hexadecimal digits denote. -/
def octet? (p q : Char) : Option UInt8 := do
  return UInt8.ofNat ((← Json.hexValue? p) * 16 + (← Json.hexValue? q))

/-- The octets that pairs of hexadecimal digits denote. -/
def octets? : List Char → Option Bytes
  | [] => some []
  | p :: q :: rest => do return (← octet? p q) :: (← octets? rest)
  | _ => none

/-- A part of a content: a text or octets, repeated `n` times. -/
def part? (d : Data) : Option Bytes := do
  let n ←
    match d.get? "n" with
    | none => some 1
    | some .null => some 1
    | some n => n.word64?
  let octets ←
    match d.get? "t" with
    | some t => t.text?.map Bytes.ofText
    | none => (d.get? "h").bind fun h => h.text?.bind fun s => octets? s.toList
  return (List.replicate n octets).flatten

/-- A content: a text, or a list of parts. -/
def bytesOf? : Data → Option Bytes
  | .null => some []
  | .text s => some (Bytes.ofText s)
  | .list parts => (parts.mapM part?).map List.flatten
  | _ => none

/-- Whether an entry under a name is true. -/
def isSet (d : Data) (name : String) : Bool := ((d.get? name).bind Data.bool?).getD false

/-- The store with one more file, directory or link, and all its missing parents. -/
def place? (cwd : Location) (store : FileStore) (d : Data) : Option FileStore := do
  let path ← (d.get? "path").bind Plan.path?
  let store :=
    match path.parent? with
    | some parent => (store.makeDirectories cwd parent).toOption.getD store
    | none => store
  if isSet d "dir" then return (store.makeDirectories cwd path).toOption.getD store
  match (d.get? "symlink").bind Data.text? with
  | some target =>
    match store.resolveParent cwd path with
    | .ok (dir, last) => return store.put (dir ++ [last]) (.link ⟨target⟩)
    | .error _ => return store
  | none =>
    let content ← bytesOf? ((d.get? "data").getD .null)
    return (store.write cwd path content (isSet d "exec")).toOption.getD store

end Conformance.Image
