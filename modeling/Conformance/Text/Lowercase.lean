import Conformance.Text.CaseTable
import Conformance.Text.Quoted

/-!
# Lower case

* `lowerChar` : the lower-case form of one character, by itself;
* `lowercase` : the lower-case form of a text; a capital sigma that ends a word becomes the
  final form of the letter;
* `containsIgnoringCase` : whether one text occurs in another once both are lower-cased.
-/

namespace Conformance.Text

/-- The code points that a run covers. -/
def LowerRun.covers (r : LowerRun) (n : Nat) : Bool :=
  r.first ≤ n && n ≤ r.last && (n - r.first) % r.step == 0

/-- The lower-case form of a character without regard to its neighbours. -/
def lowerChar (c : Char) : List Char :=
  if c = '\u0130' then ['i', '\u0307']
  else
    match lowerRuns.find? (·.covers c.toNat) with
    | some r => [Char.ofNat (Int.toNat (c.toNat + r.shift))]
    | none => [c]

/-- Whether the first character that is not case-ignorable is cased. -/
def startsCased (cs : List Char) : Bool :=
  match cs.dropWhile (fun c => inRanges caseIgnorableRanges c.toNat) with
  | c :: _ => inRanges casedRanges c.toNat
  | [] => false

/-- Lower-cases `rest`, where `before` holds the preceding characters in reverse. -/
def lowerFrom (before : List Char) : List Char → List Char
  | [] => []
  | c :: rest =>
    let here :=
      if c = 'Σ' then
        if startsCased before && !startsCased rest then ['ς'] else ['σ']
      else lowerChar c
    here ++ lowerFrom (c :: before) rest

/-- The lower-case form of a text. -/
def lowercase (s : String) : String := String.ofList (lowerFrom [] s.toList)

/-- Whether `needle` occurs in `hay` as a contiguous part. -/
def occursIn (needle hay : List Char) : Bool :=
  match hay with
  | [] => needle.isEmpty
  | _ :: rest => needle.isPrefixOf hay || occursIn needle rest

/-- Whether `needle` occurs in `hay`. -/
def contains (hay needle : String) : Bool := occursIn needle.toList hay.toList

/-- Whether the lower-case form of `needle` occurs in the lower-case form of `hay`. -/
def containsIgnoringCase (hay needle : String) : Bool :=
  contains (lowercase hay) (lowercase needle)

end Conformance.Text
