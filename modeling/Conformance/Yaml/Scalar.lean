import Conformance.Data
import Conformance.Decimal
import Conformance.Yaml.Tree

/-!
# Types of YAML scalars

A scalar without quotes can stand for something other than its text.

* `isNullWord`, `truth?`, `unsigned?`, `negative?`, `isFloat` : the forms of the types;
* `plainData?`, `Tree.toData?` : the document tree of a scalar, and of a tree.
-/

namespace Conformance.Yaml

/-- Whether a text is a word for the absent value. -/
def isNullWord (s : String) : Bool := ["null", "Null", "NULL", "~"].contains s

/-- The truth value that a text is a word for. -/
def truth? (s : String) : Option Bool :=
  if ["true", "True", "TRUE"].contains s then some true
  else if ["false", "False", "FALSE"].contains s then some false
  else none

/-! ## Integers -/

/-- The number that digits of a base denote. -/
def digits? (base : Nat) (cs : List Char) : Option Nat :=
  if cs.isEmpty then none
  else cs.foldlM (fun n c => do
    let d ← hexValue? c
    if d < base then some (n * base + d) else none) 0

/-- Whether a text has more than one decimal digit, the first a zero; such a text is no number. -/
def isPadded (cs : List Char) : Bool :=
  match cs with
  | '0' :: rest => !rest.isEmpty && rest.all Char.isDigit
  | _ => false

/-- The number that a text without a sign denotes, which may name its base. -/
def magnitude? (cs : List Char) : Option Nat :=
  match cs with
  | '0' :: 'x' :: rest => digits? 16 rest
  | '0' :: 'o' :: rest => digits? 8 rest
  | '0' :: 'b' :: rest => digits? 2 rest
  | _ => if isPadded cs then none else digits? 10 cs

/-- The number that a text denotes that is no negative number. -/
def unsigned? (s : String) : Option Nat :=
  match s.toList with
  | '+' :: rest => magnitude? rest
  | cs => magnitude? cs

/-- The number that a text with a minus sign denotes. -/
def negative? (s : String) : Option Int :=
  match s.toList with
  | '-' :: rest => (magnitude? rest).map fun n => -(n : Int)
  | _ => none

/-- The number that a text denotes. -/
def integer? (s : String) : Option Int :=
  match unsigned? s with
  | some n => some n
  | none => negative? s

/-- Whether a number fits into `bits` bits, with a sign or without. -/
def fits (bits : Nat) (n : Int) : Bool :=
  decide (-(Nat.pow 2 (bits - 1) : Int) ≤ n ∧ n < Nat.pow 2 bits)

/-! ## Other numbers -/

/-- Whether digits with a point and an exponent, both of which can be left out, denote a number
that is not too large for the double-precision format. -/
def isFiniteDecimal (cs : List Char) : Bool :=
  let whole := cs.takeWhile Char.isDigit
  let rest := cs.drop whole.length
  let fraction := match rest with
    | '.' :: rest => rest.takeWhile Char.isDigit
    | _ => []
  let rest := match rest with
    | '.' :: rest => rest.drop fraction.length
    | _ => rest
  let mantissa := Decimal.ofDigits (whole ++ fraction)
  let scaled := fun (exponent : Int) =>
    !Decimal.exceedsDouble mantissa (exponent - (fraction.length : Int))
  if whole.isEmpty && fraction.isEmpty then false
  else
    match rest with
    | [] => scaled 0
    | e :: rest =>
      let (negative, digits) := match rest with
        | '-' :: digits => (true, digits)
        | '+' :: digits => (false, digits)
        | digits => (false, digits)
      if (e = 'e' || e = 'E') && !digits.isEmpty && digits.all Char.isDigit then
        let n : Int := Decimal.ofDigits digits
        scaled (if negative then -n else n)
      else false

/-- Whether a text denotes a number in the double-precision format, or one of its special
values. -/
def isFloat (s : String) : Bool :=
  [".inf", ".Inf", ".INF", "+.inf", "+.Inf", "+.INF", "-.inf", "-.Inf", "-.INF",
    ".nan", ".NaN", ".NAN"].contains s ||
  match s.toList with
  | '+' :: rest => isFiniteDecimal rest
  | '-' :: rest => isFiniteDecimal rest
  | cs => isFiniteDecimal cs

/-- Whether a text with a sign or without is padded. -/
def isPaddedNumber (s : String) : Bool :=
  match s.toList with
  | '+' :: rest => isPadded rest
  | '-' :: rest => isPadded rest
  | cs => isPadded cs

/-! ## Document trees -/

/-- The tree of an integer. Sixty-four bits are kept; a number that needs more is refused up to
one hundred and twenty-eight bits, and no integer beyond. -/
def intData? (n : Int) (otherwise : Option Data) : Option Data :=
  if fits 64 n then some (.int n)
  else if fits 128 n then none
  else otherwise

/-- The tree of a scalar without quotes and tag. -/
def plainData? (s : String) : Option Data :=
  let otherwise := if !isPaddedNumber s && isFloat s then Data.float s else .text s
  if s.isEmpty || isNullWord s then some .null
  else
    match truth? s, integer? s with
    | some b, _ => some (.bool b)
    | none, some n => intData? n (some otherwise)
    | none, none => some otherwise

/-- The tag of a type that every reader knows. -/
def coreTag (type : String) : String := "tag:yaml.org,2002:" ++ type

/-- Whether a tag has a meaning only to the reader of the document. -/
def isLocalTag (tag : Option String) : Bool :=
  match tag with
  | some t => t.toList.head? == some '!'
  | none => false

/-- The tree of a scalar. A tag of a known type has to be met; any other makes it a text, and a
local one is refused. -/
def scalarData? (tag : Option String) (value : String) (style : ScalarStyle) : Option Data :=
  match tag with
  | none => if style = .plain then plainData? value else some (.text value)
  | some t =>
    if isLocalTag tag then none
    else if t = coreTag "bool" then (truth? value).map .bool
    else if t = coreTag "int" then (integer? value).bind fun n => intData? n none
    else if t = coreTag "float" then if isFloat value then some (.float value) else none
    else if t = coreTag "null" then if isNullWord value then some .null else none
    else some (.text value)

/-- The key that a scalar stands for, whose tree is given. -/
def keyOf (written : Tree) (d : Data) : Key :=
  match written, d with
  | _, .text s => .name s
  | .scalar _ value _, .int n => if (unsigned? value).isSome then .position n.toNat else .other
  | _, _ => .other

mutual

/-- The document tree of a tree. -/
def Tree.toData? : Tree → Option Data
  | .void => some .null
  | .scalar tag value style => scalarData? tag value style
  | .sequence tag items => do
    if isLocalTag tag then none
    return .list (← itemsData? items)
  | .mapping tag entries => do
    if isLocalTag tag then none
    return .map (← entriesData? entries)

/-- The document trees of items. -/
def itemsData? : List Tree → Option (List Data)
  | [] => some []
  | item :: items => do return (← item.toData?) :: (← itemsData? items)

/-- The document trees of entries. -/
def entriesData? : List (Tree × Tree) → Option (List (Key × Data))
  | [] => some []
  | (key, value) :: entries => do
    let name ← key.toData?
    return (keyOf key name, ← value.toData?) :: (← entriesData? entries)

end

end Conformance.Yaml
