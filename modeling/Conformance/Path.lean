/-!
# Paths

A path is kept as it was written; its meaning is its list of components.

* `Path.components` : the root mark, a leading `.`, every `..` and every name; separators at the
  end, repeated separators and any other `.` carry no meaning;
* `Path.same` : equality of components;
* `Path.fileName?`, `Path.stem?`, `Path.extension?` : the last name, and its two parts at the last
  dot;
* `Path.parent?`, `Path.join`, `Path.withExtension` : paths from paths;
* `Path.le` : the order of paths, component by component.
-/

namespace Conformance

/-- A path as it was written. -/
structure Path where
  /-- The written form. -/
  text : String
  deriving DecidableEq, Repr, Inhabited

/-- One component of a path. -/
inductive Component where
  /-- The mark of an absolute path. -/
  | root
  /-- A `.` at the start of a relative path. -/
  | current
  /-- A step to the parent directory. -/
  | parent
  /-- A name. -/
  | normal (name : String)
  deriving DecidableEq, Repr

/-- The rank of a component among components of different kinds. -/
def Component.rank : Component → Nat
  | .root => 0
  | .current => 1
  | .parent => 2
  | .normal _ => 3

/-- The order of components: by kind, names by their characters. -/
def Component.lt : Component → Component → Bool
  | .normal a, .normal b => decide (a < b)
  | a, b => a.rank < b.rank

/-- The parts of a list between occurrences of a separator. -/
def splitOnChar (sep : Char) : List Char → List (List Char)
  | [] => [[]]
  | c :: cs =>
    if c = sep then [] :: splitOnChar sep cs
    else
      match splitOnChar sep cs with
      | part :: parts => (c :: part) :: parts
      | [] => [[c]]

namespace Path

/-- The parts of the written form between separators. -/
def segments (p : Path) : List String := (splitOnChar '/' p.text.toList).map String.ofList

/-- Whether the path starts at the root. -/
def isAbsolute (p : Path) : Bool := p.text.toList.head? == some '/'

/-- The component that a segment stands for, if it is not the first of its path. -/
def componentOf? (segment : String) : Option Component :=
  if segment = "" ∨ segment = "." then none
  else if segment = ".." then some .parent
  else some (.normal segment)

/-- The meaning of a path. -/
def components (p : Path) : List Component :=
  match p.segments with
  | [] => []
  | first :: rest =>
    let body := rest.filterMap componentOf?
    if p.isAbsolute then .root :: body
    else if first = "." then .current :: body
    else (componentOf? first).toList ++ body

/-- Whether two paths have the same components. -/
def same (p q : Path) : Bool := p.components == q.components

/-- The last component, if it is a name. -/
def fileName? (p : Path) : Option String :=
  match p.components.getLast? with
  | some (.normal name) => some name
  | _ => none

/-- The parts of a name before and after its last dot; a name without a dot, or with its only dot
at the start, has no second part. -/
def splitName (name : String) : String × Option String :=
  let cs := name.toList.reverse
  let after := cs.takeWhile (· != '.')
  match cs.drop after.length with
  | _ :: before =>
    if before.isEmpty then (name, none)
    else (String.ofList before.reverse, some (String.ofList after.reverse))
  | [] => (name, none)

/-- The last name without its extension. -/
def stem? (p : Path) : Option String := p.fileName?.map fun n => (splitName n).1

/-- The part of the last name after its last dot. -/
def extension? (p : Path) : Option String := p.fileName?.bind fun n => (splitName n).2

/-- Drops trailing segments that are no component; the first segment of a path is kept. -/
def trimSegments (segs : List String) : List String :=
  match segs with
  | [] => []
  | first :: rest =>
    first :: (rest.reverse.dropWhile fun s => s = "" ∨ s = ".").reverse

/-- The path of a list of segments; a lone empty segment is the root of an absolute path. -/
def ofSegments (absolute : Bool) (segs : List String) : Path :=
  if absolute ∧ segs.length ≤ 1 then ⟨"/"⟩ else ⟨String.intercalate "/" segs⟩

/-- The path without its last component, as far as it was written before it. -/
def parent? (p : Path) : Option Path :=
  match p.components.getLast? with
  | none => none
  | some .root => none
  | some _ =>
    let segs := (trimSegments p.segments).dropLast
    some (ofSegments p.isAbsolute (trimSegments segs))

/-- A path read from a directory: an absolute path stays, any other is appended. -/
def join (base p : Path) : Path :=
  if p.isAbsolute then p
  else if base.text.isEmpty then p
  else if base.text.toList.getLast? == some '/' then ⟨base.text ++ p.text⟩
  else ⟨base.text ++ "/" ++ p.text⟩

/-- A path with the extension of its last name replaced; a path without a last name is left as it
is. -/
def setExtension (p : Path) (ext : String) : Path :=
  match p.stem? with
  | none => p
  | some stem =>
    let name := if ext.isEmpty then stem else stem ++ "." ++ ext
    let front := (trimSegments p.segments).dropLast
    ⟨String.intercalate "/" (front ++ [name])⟩

/-- A path with its extension replaced. An old extension is cut off up to its dot first, which can
leave a path without a last name. -/
def withExtension (p : Path) (ext : String) : Path :=
  match p.extension? with
  | none => p.setExtension ext
  | some old =>
    let cs := p.text.toList
    (Path.mk (String.ofList (cs.take (cs.length - old.length)))).setExtension ext

/-- The order of component lists: the first difference decides, a proper start comes first. -/
def componentsLe : List Component → List Component → Bool
  | [], _ => true
  | _ :: _, [] => false
  | a :: as, b :: bs => if a = b then componentsLe as bs else a.lt b

/-- The order of paths. -/
def le (p q : Path) : Bool := componentsLe p.components q.components

end Path

end Conformance
