import Conformance.Data
import Conformance.Decimal

/-!
# Reading JSON

* `readText` : the characters of a string, after its opening quote;
* `readNumber` : a number; integers that fit sixty-four bits are exact, all others are kept as
  written, and a number beyond the finite doubles is refused;
* `readValue` : a value of at most `depthLimit` nested lists and mappings;
* `addEntry` : an entry before the entries that follow it; a repeated name keeps its last value;
* `Data.ofJson?` : the tree of a whole text.
-/

namespace Conformance.Json

/-- How many lists and mappings may be open at once. -/
def depthLimit : Nat := 127

/-- Whether blanks may stand here between tokens. -/
def isBlank (c : Char) : Bool := c = ' ' || c = '\t' || c = '\n' || c = '\r'

/-- The text after leading blanks. -/
def skipBlanks (cs : List Char) : List Char := cs.dropWhile isBlank

/-- The value of a hexadecimal digit. -/
def hexValue? (c : Char) : Option Nat :=
  if '0' ≤ c ∧ c ≤ '9' then some (c.toNat - '0'.toNat)
  else if 'a' ≤ c ∧ c ≤ 'f' then some (c.toNat - 'a'.toNat + 10)
  else if 'A' ≤ c ∧ c ≤ 'F' then some (c.toNat - 'A'.toNat + 10)
  else none

/-- The number that four hexadecimal digits denote. -/
def hexFour? (p q r s : Char) : Option Nat := do
  return (((← hexValue? p) * 16 + (← hexValue? q)) * 16 + (← hexValue? r)) * 16 + (← hexValue? s)

/-- The character that a short escape stands for. -/
def shortEscape? (c : Char) : Option Char :=
  if c = '"' then some '"'
  else if c = '\\' then some '\\'
  else if c = '/' then some '/'
  else if c = 'b' then some '\x08'
  else if c = 'f' then some '\x0c'
  else if c = 'n' then some '\n'
  else if c = 'r' then some '\r'
  else if c = 't' then some '\t'
  else none

/-- The characters up to the closing quote, and what follows it. Half of a surrogate pair stands
for no character, so it is refused unless its other half follows. -/
def readText : List Char → Option (List Char × List Char)
  | [] => none
  | '"' :: rest => some ([], rest)
  | '\\' :: 'u' :: p :: q :: r :: s :: rest =>
    match hexFour? p q r s with
    | none => none
    | some n =>
      if 0xD800 ≤ n ∧ n ≤ 0xDBFF then
        match rest with
        | '\\' :: 'u' :: p' :: q' :: r' :: s' :: rest =>
          match hexFour? p' q' r' s' with
          | none => none
          | some m =>
            if 0xDC00 ≤ m ∧ m ≤ 0xDFFF then
              (readText rest).map fun t =>
                (Char.ofNat (0x10000 + (n - 0xD800) * 0x400 + (m - 0xDC00)) :: t.1, t.2)
            else none
        | _ => none
      else if 0xDC00 ≤ n ∧ n ≤ 0xDFFF then none
      else (readText rest).map fun t => (Char.ofNat n :: t.1, t.2)
  | '\\' :: c :: rest =>
    match shortEscape? c with
    | some e => (readText rest).map fun t => (e :: t.1, t.2)
    | none => none
  | c :: rest =>
    if c.toNat < 0x20 || c = '\\' then none
    else (readText rest).map fun t => (c :: t.1, t.2)

/-- The fraction of a number, if there is one: its digits and what follows. -/
def readFraction : List Char → Option (Option (List Char) × List Char)
  | '.' :: rest =>
    let ds := rest.takeWhile Char.isDigit
    if ds.isEmpty then none else some (some ds, rest.dropWhile Char.isDigit)
  | rest => some (none, rest)

/-- The exponent of a number, if there is one: its value and what follows. -/
def readExponent : List Char → Option (Option Int × List Char)
  | c :: rest =>
    if c = 'e' ∨ c = 'E' then
      let signed := match rest with
        | '+' :: r => (false, r)
        | '-' :: r => (true, r)
        | r => (false, r)
      let ds := signed.2.takeWhile Char.isDigit
      if ds.isEmpty then none
      else
        let n : Int := Decimal.ofDigits ds
        some (some (if signed.1 then -n else n), signed.2.dropWhile Char.isDigit)
    else some (none, c :: rest)
  | [] => some (none, [])

/-- The tree of a number with the given parts, written as `written`. -/
def numberOf? (negative : Bool) (whole : List Char) (fraction : Option (List Char))
    (exponent : Option Int) (written : String) : Option Data :=
  let n := Decimal.ofDigits whole
  match fraction, exponent with
  | none, none =>
    if negative then
      if n ≠ 0 ∧ n ≤ 9223372036854775808 then some (.int (-(n : Int)))
      else if Decimal.exceedsDouble n 0 then none else some (.float written)
    else if n ≤ 18446744073709551615 then some (.int n)
    else if Decimal.exceedsDouble n 0 then none
    else some (.float written)
  | _, _ =>
    let digits := fraction.getD []
    let e : Int := exponent.getD 0 - digits.length
    if Decimal.exceedsDouble (Decimal.ofDigits (whole ++ digits)) e then none
    else some (.float written)

/-- A number and what follows it. -/
def readNumber (cs : List Char) : Option (Data × List Char) := do
  let (negative, rest) := match cs with
    | '-' :: r => (true, r)
    | r => (false, r)
  let whole := rest.takeWhile Char.isDigit
  if whole.isEmpty || (whole.head? == some '0' && whole.length > 1) then none
  let (fraction, rest) ← readFraction (rest.dropWhile Char.isDigit)
  let (exponent, rest) ← readExponent rest
  let written := String.ofList (cs.take (cs.length - rest.length))
  return (← numberOf? negative whole fraction exponent written, rest)

/-- What follows `word`, if the text starts with it. -/
def readWord? (word cs : List Char) : Option (List Char) :=
  if word.isPrefixOf cs then some (cs.drop word.length) else none

/-- An entry before others, unless one of them has the same key. -/
def addEntry (entry : Key × Data) (later : List (Key × Data)) : List (Key × Data) :=
  if later.any (fun e => e.1 = entry.1) then later else entry :: later

mutual

/-- A value and what follows it. The first argument bounds the number of steps, the second the
number of lists and mappings that may still be opened. -/
def readValue : Nat → Nat → List Char → Option (Data × List Char)
  | 0, _, _ => none
  | fuel + 1, depth, cs =>
    match skipBlanks cs with
    | [] => none
    | '"' :: rest => (readText rest).map fun t => (.text (String.ofList t.1), t.2)
    | '[' :: rest =>
      match depth with
      | 0 => none
      | depth + 1 =>
        match skipBlanks rest with
        | ']' :: rest => some (.list [], rest)
        | rest => (readItems fuel depth rest).map fun t => (.list t.1, t.2)
    | '\x7b' :: rest =>
      match depth with
      | 0 => none
      | depth + 1 =>
        match skipBlanks rest with
        | '\x7d' :: rest => some (.map [], rest)
        | rest => (readEntries fuel depth rest).map fun t => (.map t.1, t.2)
    | 'n' :: rest => (readWord? ['u', 'l', 'l'] rest).map fun r => (.null, r)
    | 't' :: rest => (readWord? ['r', 'u', 'e'] rest).map fun r => (.bool true, r)
    | 'f' :: rest => (readWord? ['a', 'l', 's', 'e'] rest).map fun r => (.bool false, r)
    | cs => readNumber cs

/-- At least one item, up to the closing bracket. -/
def readItems : Nat → Nat → List Char → Option (List Data × List Char)
  | 0, _, _ => none
  | fuel + 1, depth, cs =>
    match readValue fuel depth cs with
    | none => none
    | some (d, rest) =>
      match skipBlanks rest with
      | ',' :: rest => (readItems fuel depth rest).map fun t => (d :: t.1, t.2)
      | ']' :: rest => some ([d], rest)
      | _ => none

/-- At least one entry, up to the closing brace. -/
def readEntries : Nat → Nat → List Char → Option (List (Key × Data) × List Char)
  | 0, _, _ => none
  | fuel + 1, depth, cs =>
    match skipBlanks cs with
    | '"' :: rest =>
      match readText rest with
      | none => none
      | some (k, rest) =>
        match skipBlanks rest with
        | ':' :: rest =>
          match readValue fuel depth rest with
          | none => none
          | some (d, rest) =>
            let entry := (Key.name (String.ofList k), d)
            match skipBlanks rest with
            | ',' :: rest => (readEntries fuel depth rest).map fun t =>
                (addEntry entry t.1, t.2)
            | '\x7d' :: rest => some ([entry], rest)
            | _ => none
        | _ => none
    | _ => none

end

end Conformance.Json

namespace Conformance

/-- The tree of a JSON text; nothing but blanks may follow the value. -/
def Data.ofJson? (s : String) : Option Data :=
  let cs := s.toList
  match Json.readValue (2 * cs.length + 2) Json.depthLimit cs with
  | some (d, rest) => if (Json.skipBlanks rest).isEmpty then some d else none
  | none => none

end Conformance
