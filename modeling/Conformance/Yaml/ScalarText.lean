import Conformance.Yaml.Cursor

/-!
# Scalars in a YAML text

* `Fold` : blanks and line ends that are held back until more text follows;
* `quotedScalar?` : a scalar between quotes;
* `plainScalar?` : a scalar without quotes;
* `blockScalar?` : a scalar that is a block of lines.
-/

namespace Conformance.Yaml

/-- The value of a hexadecimal digit. -/
def hexValue? (c : Char) : Option Nat :=
  if '0' ≤ c ∧ c ≤ '9' then some (c.toNat - '0'.toNat)
  else if 'a' ≤ c ∧ c ≤ 'f' then some (c.toNat - 'a'.toNat + 10)
  else if 'A' ≤ c ∧ c ≤ 'F' then some (c.toNat - 'A'.toNat + 10)
  else none

/-- The number that hexadecimal digits denote. -/
def hexNumber? (ds : List Char) : Option Nat :=
  ds.foldlM (fun n c => (hexValue? c).map (n * 16 + ·)) 0

/-- What is held back between two parts of a scalar. -/
structure Fold where
  /-- Blanks within a line. -/
  blanks : List Char := []
  /-- Whether a line end was passed. -/
  broken : Bool := false
  /-- The first line end. -/
  first : List Char := []
  /-- The line ends after it. -/
  later : List Char := []

namespace Fold

/-- What the held back characters stand for: a single line feed is a blank, more of them lose the
first, and blanks within a line are kept. -/
def text (f : Fold) : List Char :=
  if f.broken then
    if f.first = ['\n'] then (if f.later.isEmpty then [' '] else f.later)
    else f.first ++ f.later
  else f.blanks

/-- Holds back a blank or a line end at a position. -/
def add (f : Fold) (c : Cursor) : Fold × Cursor :=
  match c.rest with
  | ch :: _ =>
    if isBlank ch then
      (if f.broken then f else { f with blanks := f.blanks ++ [ch] }, c.skip)
    else if f.broken then ({ f with later := f.later ++ c.lineText }, c.skipLine)
    else ({ f with blanks := [], broken := true, first := c.lineText }, c.skipLine)
  | [] => (f, c)

end Fold

/-! ## Quoted scalars -/

/-- What the character after a backslash stands for, if it stands for one character. -/
def simpleEscape? (c : Char) : Option Char :=
  match c with
  | '0' => some '\x00'
  | 'a' => some '\x07'
  | 'b' => some '\x08'
  | 't' => some '\t'
  | '\t' => some '\t'
  | 'n' => some '\n'
  | 'v' => some '\x0b'
  | 'f' => some '\x0c'
  | 'r' => some '\r'
  | 'e' => some '\x1b'
  | ' ' => some ' '
  | '"' => some '"'
  | '/' => some '/'
  | '\\' => some '\\'
  | 'N' => some '\u0085'
  | '_' => some '\u00A0'
  | 'L' => some '\u2028'
  | 'P' => some '\u2029'
  | _ => none

/-- How many hexadecimal digits follow the character after a backslash. -/
def escapeLength? (c : Char) : Option Nat :=
  match c with
  | 'x' => some 2
  | 'u' => some 4
  | 'U' => some 8
  | _ => none

/-- The character of an escape whose letter is `c`, at the position of the letter, and the
position behind it. -/
def escape? (c : Char) (here : Cursor) : Option (Char × Cursor) :=
  match simpleEscape? c with
  | some e => some (e, here.skip)
  | none => do
    let n ← escapeLength? c
    let digits := here.skip.rest.take n
    let code ← hexNumber? digits
    if digits.length = n ∧ code.isValidChar then
      return (Char.ofNat code, here.skip.skipBy n)
    else none

/-- The rest of a quoted scalar. The fold holds what was passed since the last character of the
scalar; `taken` holds the scalar so far in reverse. -/
def quotedRest? (double : Bool) : Nat → Fold → List Char → Cursor → Option (List Char × Cursor)
  | 0, _, _, _ => none
  | fuel + 1, fold, taken, c =>
    let gap := fold.broken || !fold.blanks.isEmpty
    match c.rest with
    | [] => none
    | ch :: rest =>
      if c.documentMark?.isSome then none
      else if isBlank ch || isBreak ch then
        let (fold, c) := fold.add c
        quotedRest? double fuel fold taken c
      else
        let taken := if gap then fold.text.reverse ++ taken else taken
        if double then
          if ch = '"' then some (taken.reverse, c.skip)
          else if ch = '\\' then
            match rest with
            | [] => none
            | e :: _ =>
              if isBreak e then
                quotedRest? double fuel { broken := true } taken c.skip.skipLine
              else
                match escape? e c.skip with
                | some (e, c) => quotedRest? double fuel {} (e :: taken) c
                | none => none
          else quotedRest? double fuel {} (ch :: taken) c.skip
        else if ch = '\'' then
          match rest with
          | '\'' :: _ => quotedRest? double fuel {} ('\'' :: taken) c.skip.skip
          | _ => some (taken.reverse, c.skip)
        else quotedRest? double fuel {} (ch :: taken) c.skip

/-- A quoted scalar whose opening quote is at the position, and the position behind it. -/
def quotedScalar? (double : Bool) (c : Cursor) : Option (String × Cursor) :=
  (quotedRest? double (c.rest.length + 1) {} [] c.skip).map fun r => (String.ofList r.1, r.2)

/-! ## Plain scalars -/

/-- Whether a character ends or starts a collection in brackets or braces, or separates its
items. -/
def isFlowMark (c : Char) : Bool :=
  c = ',' || c = '[' || c = ']' || c = '\x7b' || c = '\x7d'

/-- The rest of a plain scalar: its characters, whether a line end was passed after the last one,
and the position behind it. -/
def plainRest? (inFlow : Bool) (indent : Int) :
    Nat → Fold → List Char → Cursor → Option (List Char × Bool × Cursor)
  | 0, _, _, _ => none
  | fuel + 1, fold, taken, c =>
    let done := some (taken.reverse, fold.broken, c)
    let gap := fold.broken || !fold.blanks.isEmpty
    match c.rest with
    | [] => done
    | ch :: _ =>
      if isBlank ch || isBreak ch then
        if ch = '\t' && fold.broken && decide ((c.column : Int) < indent) then none
        else
          let (fold, c) := fold.add c
          plainRest? inFlow indent fuel fold taken c
      else if gap && !inFlow && decide ((c.column : Int) < indent) then done
      else if (gap || taken.isEmpty) && (c.documentMark?.isSome || ch = '#') then done
      else
        let next := c.at? 1
        if inFlow && ch = ':' && next.any (fun n => isFlowMark n || n = '?') then none
        else if (ch = ':' && c.gapAt 1) || (inFlow && isFlowMark ch) then done
        else
          let taken := if gap then fold.text.reverse ++ taken else taken
          plainRest? inFlow indent fuel {} (ch :: taken) c.skip

/-- A plain scalar at the position, in a block of the given column. -/
def plainScalar? (inFlow : Bool) (block : Int) (c : Cursor) : Option (String × Bool × Cursor) :=
  (plainRest? inFlow (block + 1) (c.rest.length + 1) {} [] c).map fun r =>
    (String.ofList r.1, r.2)

/-! ## Block scalars -/

/-- What happens to the line ends at the end of a block scalar. -/
inductive Chomping where
  /-- None is kept. -/
  | strip
  /-- One is kept. -/
  | clip
  /-- All are kept. -/
  | keep
  deriving DecidableEq, Repr

/-- The chomping that a character asks for. -/
def chomping? : Char → Option Chomping
  | '-' => some .strip
  | '+' => some .keep
  | _ => none

/-- The number that a digit asks to indent by. -/
def indentDigit? (c : Char) : Option Nat :=
  if '1' ≤ c ∧ c ≤ '9' then some (c.toNat - '0'.toNat) else none

/-- The chomping and the indentation that the first line of a block scalar asks for, in any order,
and the position behind them. -/
def blockHeader? (c : Cursor) : Option (Chomping × Option Nat × Cursor) :=
  let digit := fun (c : Cursor) =>
    match c.rest with
    | ch :: _ => if ch = '0' then none else some (indentDigit? ch)
    | [] => some none
  match (c.at? 0).bind chomping? with
  | some chomp => do
    match ← digit c.skip with
    | some n => return (chomp, some n, c.skip.skip)
    | none => return (chomp, none, c.skip)
  | none => do
    match ← digit c with
    | some n =>
      match (c.at? 1).bind chomping? with
      | some chomp => return (chomp, some n, c.skip.skip)
      | none => return (.clip, some n, c.skip)
    | none => return (.clip, none, c)

/-- Passes indentation and empty lines. The indentation may be still unknown; the result has the
line ends that were passed, the deepest column, and the position. -/
def blockBreaks? (indent : Option Nat) :
    Nat → Nat → List Char → Cursor → Option (List Char × Nat × Cursor)
  | 0, _, _, _ => none
  | fuel + 1, deepest, passed, c =>
    let open_ := match indent with
      | some n => decide (c.column < n)
      | none => true
    match c.rest with
    | [] => some (passed, max deepest c.column, c)
    | ch :: _ =>
      if open_ && ch = ' ' then blockBreaks? indent fuel deepest passed c.skip
      else
        let deepest := max deepest c.column
        if open_ && ch = '\t' then none
        else if isBreak ch then
          blockBreaks? indent fuel deepest (passed ++ c.lineText) c.skipLine
        else some (passed, deepest, c)

/-- The lines of a block scalar. `first` is the end of the line before, `later` the empty lines
after it, `blankBefore` whether the line before started with a blank. -/
def blockLines? (folded : Bool) (indent : Nat) : Nat → List Char → List Char → Bool → List Char →
    Cursor → Option (List Char × List Char × List Char × Cursor)
  | 0, _, _, _, _, _ => none
  | fuel + 1, first, later, blankBefore, taken, c =>
    match c.rest with
    | [] => some (taken, first, later, c)
    | ch :: _ =>
      if c.column = indent then
        let blankHere := isBlank ch
        let joint :=
          if folded && first = ['\n'] && !blankBefore && !blankHere then
            if later.isEmpty then [' '] else later
          else first ++ later
        let (line, c) := c.takeWhile fun ch => !isBreak ch
        let ending := c.lineText
        match blockBreaks? (some indent) (c.rest.length + 1) 0 [] c.skipLine with
        | none => none
        | some (breaks, _, c) =>
          blockLines? folded indent fuel ending breaks blankHere (taken ++ joint ++ line) c
      else some (taken, first, later, c)

/-- A block scalar whose mark is at the position, in a block of the given column. -/
def blockScalar? (folded : Bool) (block : Int) (c : Cursor) : Option (String × Cursor) := do
  let (chomp, increment, c) ← blockHeader? c.skip
  let c := (c.skipWhile isBlank).skipComment
  if !c.lineEnds then none
  let c := c.skipLine
  let known := increment.map fun n => (if block ≥ 0 then block + n else n).toNat
  let (breaks, deepest, c) ← blockBreaks? known (c.rest.length + 1) 0 [] c
  let indent := known.getD (max deepest (max (block + 1).toNat 1))
  let (taken, first, later, c) ←
    blockLines? folded indent (c.rest.length + 1) [] breaks false [] c
  let tail := match chomp with
    | .strip => []
    | .clip => first
    | .keep => first ++ later
  return (String.ofList (taken ++ tail), c)

end Conformance.Yaml
