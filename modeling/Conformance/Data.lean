/-!
# Document trees

What a plan, a check or a report looks like between text and value: scalars, lists and mappings.

* `Key` : the key of a mapping entry. Keys are names in most documents; a document format with
  typed scalars can also produce positions and keys of other types;
* `Data` : a tree. Integers are exact; a number that is written in another way is kept as its text;
* `Data.field?` : the value of a name in a list of entries;
* `Data.text?`, `Data.int32?`, `Data.word64?`, `Data.listOf?`, `Data.optional?`, `Data.unit?` : the
  values that a tree stands for.
-/

namespace Conformance

/-- The key of a mapping entry. -/
inductive Key where
  /-- A name. -/
  | name (s : String)
  /-- A nonnegative integer, which some readers take as the position of a field. -/
  | position (n : Nat)
  /-- A key of any other type. -/
  | other
  deriving DecidableEq, Repr

/-- A document tree. -/
inductive Data where
  | null
  | bool (b : Bool)
  | int (i : Int)
  /-- A number that is not an exact integer, as it was written. -/
  | float (written : String)
  | text (s : String)
  | list (items : List Data)
  /-- A mapping, in the order of its entries. -/
  | map (entries : List (Key × Data))
  deriving Repr, Inhabited

namespace Data

/-- A mapping whose keys are names. -/
def record (entries : List (String × Data)) : Data :=
  .map (entries.map fun e => (.name e.1, e.2))

/-- A list of texts. -/
def texts (xs : List String) : Data := .list (xs.map .text)

/-- A text, or null. -/
def textOrNull : Option String → Data
  | some s => .text s
  | none => .null

/-- The value of the entry with the given name. -/
def field? (entries : List (Key × Data)) (name : String) : Option Data :=
  (entries.find? fun e => e.1 = .name name).map (·.2)

/-- The value under a name, if the tree is a mapping. -/
def get? (d : Data) (name : String) : Option Data :=
  match d with
  | .map entries => field? entries name
  | _ => none

/-- The text of a text. -/
def text? : Data → Option String
  | .text s => some s
  | _ => none

/-- The value of an integer that lies between two bounds. -/
def intIn? (lo hi : Int) : Data → Option Int
  | .int i => if lo ≤ i ∧ i ≤ hi then some i else none
  | _ => none

/-- The least signed integer of thirty-two bits. -/
def int32Min : Int := -2147483648

/-- The greatest signed integer of thirty-two bits. -/
def int32Max : Int := 2147483647

/-- The greatest unsigned integer of sixty-four bits. -/
def word64Max : Int := 18446744073709551615

/-- The value of a signed integer of thirty-two bits. -/
def int32? (d : Data) : Option Int := d.intIn? int32Min int32Max

/-- The value of an unsigned integer of sixty-four bits. -/
def word64? (d : Data) : Option Nat := (d.intIn? 0 word64Max).map Int.toNat

/-- The items of a list, each read by `read`. -/
def listOf? {α : Type} (read : Data → Option α) : Data → Option (List α)
  | .list items => items.mapM read
  | _ => none

/-- The truth value of a truth value. -/
def bool? : Data → Option Bool
  | .bool b => some b
  | _ => none

/-- The member of an enumeration that a key names; a position counts from zero. -/
def memberOf? {α : Type} (all : List α) (name : α → String) : Key → Option α
  | .name s => all.find? fun a => name a = s
  | .position n => all[n]?
  | .other => none

/-- A member of an enumeration: its name, or a mapping from it to nothing. What counts as nothing
besides null is told by `nothing`. -/
def unit? {α : Type} (all : List α) (name : α → String) (nothing : Data → Bool) :
    Data → Option α
  | .text s => memberOf? all name (.name s)
  | .map [(key, .null)] => memberOf? all name key
  | .map [(key, payload)] => if nothing payload then memberOf? all name key else none
  | _ => none

/-- Whether a tree is the mapping without entries. -/
def isEmptyMap : Data → Bool
  | .map [] => true
  | _ => false

/-- A value that may be null, read by `read` if it is not. -/
def optional? {α : Type} (read : Data → Option α) : Data → Option (Option α)
  | .null => some none
  | d => (read d).map some

end Data

end Conformance
