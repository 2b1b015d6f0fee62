/-!
# Reading positions in a YAML text

* `Cursor` : the rest of a text, and where it starts;
* `isBreak`, `isBlank` : line ends, and blanks within a line;
* `Cursor.skip`, `Cursor.skipLine`, `Cursor.takeLine` : steps over a character and over a line end.
-/

namespace Conformance.Yaml

/-- Whether a character ends a line. -/
def isBreak (c : Char) : Bool :=
  c = '\n' || c = '\r' || c = '\u0085' || c = '\u2028' || c = '\u2029'

/-- Whether a character separates tokens within a line. -/
def isBlank (c : Char) : Bool := c = ' ' || c = '\t'

/-- Whether a character may stand in the names of anchors, tags and directives. -/
def isWordChar (c : Char) : Bool := c.isAlphanum || c = '_' || c = '-'

/-- Whether a character may stand in a YAML text at all. -/
def isAllowed (c : Char) : Bool :=
  let n := c.toNat
  n == 0x9 || n == 0xA || n == 0xD || (0x20 ≤ n && n ≤ 0x7E) || n == 0x85 ||
    (0xA0 ≤ n && n ≤ 0xD7FF) || (0xE000 ≤ n && n ≤ 0xFFFD) || 0x10000 ≤ n

/-- The rest of a text, and where it starts. -/
structure Cursor where
  /-- The characters that are left. -/
  rest : List Char
  /-- How many characters came before. -/
  index : Nat
  /-- How many lines ended before. -/
  line : Nat
  /-- How many characters of the line came before. -/
  column : Nat

namespace Cursor

/-- The start of a text; a byte order mark is no part of it. -/
def ofText (s : String) : Cursor :=
  match s.toList with
  | '\uFEFF' :: rest => ⟨rest, 0, 0, 0⟩
  | rest => ⟨rest, 0, 0, 0⟩

/-- The character `n` places ahead. -/
def at? (c : Cursor) (n : Nat) : Option Char := c.rest[n]?

/-- Whether `ch` stands `n` places ahead. -/
def hasAt (c : Cursor) (n : Nat) (ch : Char) : Bool := c.at? n == some ch

/-- Whether a blank, a line end or the end of the text is `n` places ahead. -/
def gapAt (c : Cursor) (n : Nat) : Bool :=
  match c.at? n with
  | some ch => isBlank ch || isBreak ch
  | none => true

/-- Whether a line end or the end of the text comes next. -/
def lineEnds (c : Cursor) : Bool :=
  match c.rest with
  | ch :: _ => isBreak ch
  | [] => true

/-- The position behind the next character. -/
def skip (c : Cursor) : Cursor :=
  match c.rest with
  | _ :: rest => ⟨rest, c.index + 1, c.line, c.column + 1⟩
  | [] => c

/-- The position behind the next `n` characters. -/
def skipBy (c : Cursor) : Nat → Cursor
  | 0 => c
  | n + 1 => c.skip.skipBy n

/-- The position behind the next line end. -/
def skipLine (c : Cursor) : Cursor :=
  match c.rest with
  | '\r' :: '\n' :: rest => ⟨rest, c.index + 2, c.line + 1, 0⟩
  | ch :: rest => if isBreak ch then ⟨rest, c.index + 1, c.line + 1, 0⟩ else c
  | [] => c

/-- What the next line end stands for in a scalar: a line feed, unless it is a separator that
keeps its form. -/
def lineText (c : Cursor) : List Char :=
  match c.rest with
  | ch :: _ => if ch = '\u2028' || ch = '\u2029' then [ch] else if isBreak ch then ['\n'] else []
  | [] => []

/-- Whether a document mark, `---` or `...`, starts the line here. -/
def documentMark? (c : Cursor) : Option Char :=
  if c.column = 0 && c.gapAt 3 then
    match c.rest with
    | '-' :: '-' :: '-' :: _ => some '-'
    | '.' :: '.' :: '.' :: _ => some '.'
    | _ => none
  else none

/-- The longest run of characters with a property, and the position behind it. -/
def takeWhile (c : Cursor) (p : Char → Bool) : List Char × Cursor :=
  let taken := c.rest.takeWhile p
  (taken, c.skipBy taken.length)

/-- The position behind the longest run of characters with a property. -/
def skipWhile (c : Cursor) (p : Char → Bool) : Cursor := (c.takeWhile p).2

/-- The position behind a comment, if one starts here. -/
def skipComment (c : Cursor) : Cursor :=
  if c.hasAt 0 '#' then c.skipWhile fun ch => !isBreak ch else c

end Cursor

end Conformance.Yaml
