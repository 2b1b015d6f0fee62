import Conformance.Yaml.Scalar

/-!
# Values in YAML trees

Where a certain type is expected, a scalar is taken as it is written, whatever its own type.

* `Tree.text?`, `Tree.word64?`, `Tree.listOf?`, `Tree.optional?`, `Tree.member?` : the values that a
  tree stands for;
* `Tree.fields?` : the fields of a record, each at most once and none that is not known.
-/

namespace Conformance.Yaml.Tree

/-- The text of a scalar. -/
def text? : Tree → Option String
  | .scalar _ value _ => some value
  | _ => none

/-- Whether nothing is written, which also stands for an empty collection. -/
def isBlank : Tree → Bool
  | .void => true
  | .scalar _ value style => value.isEmpty && style = .plain
  | _ => false

/-- The items of a sequence, each read by `read`. -/
def listOf? {α : Type} (read : Tree → Option α) (t : Tree) : Option (List α) :=
  match t with
  | .sequence _ items => items.mapM read
  | t => if t.isBlank then some [] else none

/-- The entries of a mapping. -/
def entries? : Tree → Option (List (Tree × Tree))
  | .mapping _ entries => some entries
  | t => if t.isBlank then some [] else none

/-- Whether a value is absent. A null tag is an error on anything else than a word for it. -/
def isAbsent? : Tree → Option Bool
  | .void => some true
  | .scalar tag value style =>
    if style ≠ .plain then some false
    else
      match tag with
      | some t =>
        if t = coreTag "null" then (if isNullWord value then some true else none) else some false
      | none => some (value.isEmpty || isNullWord value)
  | _ => some false

/-- A value that may be absent, read by `read` if it is not. -/
def optional? {α : Type} (read : Tree → Option α) (t : Tree) : Option (Option α) := do
  if ← t.isAbsent? then some none else (read t).map some

/-- The value of an unsigned integer of sixty-four bits. It may be written as a block only under
its tag. -/
def word64? : Tree → Option Nat
  | .scalar tag value style =>
    if style = .plain || (style = .literal && tag = some (coreTag "int")) then
      (unsigned? value).filter fun n => n < UInt64.size
    else none
  | _ => none

/-- The member of an enumeration that a scalar names, or the local tag of an absent value. -/
def member? {α : Type} (all : List α) (name : α → String) : Tree → Option α
  | .scalar tag value style =>
    match tag with
    | some t =>
      match t.toList with
      | '!' :: named =>
        if style = .plain && (value.isEmpty || isNullWord value) then
          all.find? fun a => name a = String.ofList named
        else none
      | _ => all.find? fun a => name a = value
    | none => all.find? fun a => name a = value
  | _ => none

/-- Adds a field to those behind it, if it is known and none of them has its name. -/
def addField? (known : List String) (entry : Tree × Tree) (later : List (String × Tree)) :
    Option (List (String × Tree)) := do
  let name ← entry.1.text?
  if known.contains name && !later.any (fun e => e.1 = name) then some ((name, entry.2) :: later)
  else none

/-- The fields of a record. Each is known and stands there once. -/
def fields? (known : List String) (t : Tree) : Option (List (String × Tree)) := do
  (← t.entries?).foldrM (addField? known) []

/-- The value of a field, or `default` where it is left out. -/
def fieldOr? {α : Type} (fields : List (String × Tree)) (name : String) (default : α)
    (read : Tree → Option α) : Option α :=
  match fields.lookup name with
  | some t => read t
  | none => some default

end Conformance.Yaml.Tree
