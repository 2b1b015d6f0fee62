import Conformance.Yaml.ScalarText
import Conformance.Yaml.Token
import Conformance.Text.Utf8

/-!
# Tokens from a YAML text

Block structure follows from columns, and a key is known only when its colon is seen; so the lexer
remembers the columns of the open blocks and the place where a key may have started.

* `KeyPlace` : where a key may have started;
* `Lexer` : the state between two tokens;
* `Lexer.step?` : the token that comes next, and those that follow from its column;
* `Token.scan?` : all tokens of a text.
-/

namespace Conformance.Yaml

/-- A place where a key may have started. -/
structure KeyPlace where
  /-- How many tokens came before it. -/
  tokens : Nat
  /-- Whether nothing but a key can stand there. -/
  required : Bool
  /-- Where it is. -/
  start : Cursor

/-- The state between two tokens. -/
structure Lexer where
  /-- The text that is left. -/
  cursor : Cursor
  /-- The tokens so far. -/
  tokens : Array Token := #[]
  /-- The columns of the open blocks, the innermost first. -/
  blocks : List Nat := []
  /-- Whether a key may start here. -/
  keyAllowed : Bool := true
  /-- For each open bracket or brace, the innermost first, and for the text outside of them, where
  a key may have started. -/
  keys : List (Option KeyPlace) := [none]

namespace Lexer

/-- Whether a bracket or brace is open. -/
def inFlow (s : Lexer) : Bool := s.keys.length > 1

/-- The column of the innermost block, one less than any column if there is none. -/
def indent (s : Lexer) : Int :=
  match s.blocks with
  | column :: _ => column
  | [] => -1

/-- Adds a token. -/
def push (s : Lexer) (t : Token) : Lexer := { s with tokens := s.tokens.push t }

/-- Goes to another position. -/
def goTo (s : Lexer) (c : Cursor) : Lexer := { s with cursor := c }

/-- Says whether a key may start here. -/
def allowKey (s : Lexer) (allowed : Bool) : Lexer := { s with keyAllowed := allowed }

/-! ## Places of keys -/

/-- Forgets where a key may have started; it is an error if there had to be one. -/
def dropKey? (s : Lexer) : Option Lexer :=
  match s.keys with
  | some k :: outer => if k.required then none else some { s with keys := none :: outer }
  | _ => some s

/-- Remembers that a key may start here. It has to be one at the column of the innermost block. -/
def saveKey? (s : Lexer) : Option Lexer :=
  if s.keyAllowed then do
    let required := !s.inFlow && s.indent == (s.cursor.column : Int)
    let s ← s.dropKey?
    return { s with keys := some ⟨s.tokens.size, required, s.cursor⟩ :: s.keys.tail }
  else some s

/-- How many characters a key may have that is not marked as one. -/
def keyLimit : Nat := 1024

/-- Whether a key that started at a place is too long, or goes over a line end. -/
def isStale (s : Lexer) (k : KeyPlace) : Bool :=
  k.start.line < s.cursor.line || k.start.index + keyLimit < s.cursor.index

/-- Forgets the places where no key can have started after all. -/
def expireKeys? (s : Lexer) : Option Lexer := do
  let keys ← s.keys.mapM fun place =>
    match place with
    | some k => if s.isStale k then (if k.required then none else some none) else some (some k)
    | none => some none
  return { s with keys }

/-! ## Blocks -/

/-- Closes the blocks at columns of which `closes` holds, as far as they are innermost. -/
def closeBlocks (s : Lexer) (closes : Nat → Bool) : Lexer :=
  if s.inFlow then s
  else
    let closed := s.blocks.takeWhile closes
    { s with
      blocks := s.blocks.drop closed.length
      tokens := s.tokens ++ (closed.map fun _ => Token.blockEnd).toArray }

/-- Opens a block at a column deeper than the innermost one; its token comes after the first
`position` tokens. -/
def openBlock (s : Lexer) (column : Nat) (t : Token) (position : Nat) : Lexer :=
  if !s.inFlow && decide (s.indent < (column : Int)) then
    { s with
      blocks := column :: s.blocks
      tokens := s.tokens.insertIdxIfInBounds position t }
  else s

/-- Opens a block here if it is deeper than the innermost one. Outside of brackets and braces this
takes a place where a key may start. -/
def openBlockHere? (s : Lexer) (t : Token) : Option Lexer :=
  if s.inFlow then some s
  else if s.keyAllowed then some (s.openBlock s.cursor.column t s.tokens.size)
  else none

/-! ## Space between tokens -/

/-- Whether a character separates tokens here. A tab does so only where no key may start. -/
def isSpace (s : Lexer) (c : Char) : Bool :=
  c = ' ' || (c = '\t' && (s.inFlow || !s.keyAllowed))

/-- Passes space, comments and line ends. Outside of brackets and braces a key may start on a new
line. -/
def skipSpace : Nat → Lexer → Lexer
  | 0, s => s
  | fuel + 1, s =>
    let marked := s.cursor.column = 0 && s.cursor.hasAt 0 '\uFEFF'
    let start := if marked then s.cursor.skip else s.cursor
    let c := (start.skipWhile s.isSpace).skipComment
    if c.rest.isEmpty || !c.lineEnds then s.goTo c
    else skipSpace fuel ((s.goTo c.skipLine).allowKey (s.keyAllowed || !s.inFlow))

/-! ## Directives, anchors and tags -/

/-- The longest number of a version. -/
def versionDigits : Nat := 9

/-- A number of a version, and the position behind it. -/
def versionNumber? (c : Cursor) : Option (Nat × Cursor) :=
  let (digits, rest) := c.takeWhile Char.isDigit
  if digits.isEmpty || decide (digits.length > versionDigits) then none
  else some (Nat.ofDigitChars 10 digits 0, rest)

/-- Whether a character may stand in a tag. Some may only between `<` and `>` or in a directive. -/
def isTagChar (verbatim : Bool) (c : Char) : Bool :=
  isWordChar c || ";/?:@&=+$.%!~*'()".toList.contains c ||
    (verbatim && (c = ',' || c = '[' || c = ']'))

/-- How many octets a character has whose first octet is given. -/
def octetCount? (octet : Nat) : Option Nat :=
  if octet < 0x80 then some 1
  else if octet < 0xC0 then none
  else if octet < 0xE0 then some 2
  else if octet < 0xF0 then some 3
  else if octet < 0xF8 then some 4
  else none

/-- The octet of a percent sign and two hexadecimal digits, and what follows. -/
def escapedOctet? : List Char → Option (Nat × List Char)
  | '%' :: a :: b :: rest => (hexNumber? [a, b]).map fun n => (n, rest)
  | _ => none

/-- `n` further octets of an escaped character, and what follows. -/
def escapedTail? : Nat → List Char → Option (Bytes × List Char)
  | 0, cs => some ([], cs)
  | n + 1, cs => do
    let (octet, cs) ← escapedOctet? cs
    if octet / 64 ≠ 2 then none
    let (octets, cs) ← escapedTail? n cs
    return (UInt8.ofNat octet :: octets, cs)

/-- The text of a tag with percent escapes. -/
def unescapeTag? : Nat → List Char → Option Bytes
  | 0, _ => none
  | _, [] => some []
  | fuel + 1, c :: cs =>
    if c = '%' then do
      let (octet, rest) ← escapedOctet? (c :: cs)
      let (octets, rest) ← escapedTail? ((← octetCount? octet) - 1) rest
      return UInt8.ofNat octet :: octets ++ (← unescapeTag? fuel rest)
    else do return String.utf8EncodeChar c ++ (← unescapeTag? fuel cs)

/-- The part of a tag that starts here, with escapes resolved, and the position behind it. -/
def tagText? (verbatim : Bool) (c : Cursor) : Option (String × Cursor) := do
  let (chars, rest) := c.takeWhile (isTagChar verbatim)
  return (Bytes.toText (← unescapeTag? (chars.length + 1) chars), rest)

/-- The handle of a tag: a `!`, a word, and a second `!` if there is one. -/
def tagHandle? (c : Cursor) : Option (String × Cursor) :=
  if c.hasAt 0 '!' then
    let (word, rest) := c.skip.takeWhile isWordChar
    if rest.hasAt 0 '!' then some (String.ofList ('!' :: word ++ ['!']), rest.skip)
    else some (String.ofList ('!' :: word), rest)
  else none

/-- Whether a handle has its second `!`. -/
def isFullHandle (handle : String) : Bool :=
  handle.length > 1 && handle.toList.getLast? == some '!'

/-- A directive at its percent sign, and the position behind its line. -/
def directive? (c : Cursor) : Option (Token × Cursor) := do
  let (name, c) := c.skip.takeWhile isWordChar
  if !c.gapAt 0 then none
  let c := c.skipWhile isBlank
  let (token, c) ←
    if name = "YAML".toList then do
      let (major, c) ← versionNumber? c
      if !c.hasAt 0 '.' then none
      let (minor, c) ← versionNumber? c.skip
      some (Token.version major minor, c)
    else if name = "TAG".toList then do
      let (handle, c) ← tagHandle? c
      if handle ≠ "!" && !isFullHandle handle then none
      if !(c.at? 0).any isBlank then none
      let (start, c) ← tagText? true (c.skipWhile isBlank)
      if start.isEmpty || !c.gapAt 0 then none
      some (Token.tagDirective handle start, c)
    else none
  let c := (c.skipWhile isBlank).skipComment
  if !c.lineEnds then none
  return (token, c.skipLine)

/-- The name behind the mark of an anchor or alias, and the position behind it. -/
def anchorName? (c : Cursor) : Option (String × Cursor) :=
  let (name, rest) := c.skip.takeWhile isWordChar
  let ended := rest.gapAt 0 || (rest.at? 0).any "?:,]\x7d%@\x60".toList.contains
  if name.isEmpty || !ended then none else some (String.ofList name, rest)

/-- A tag, and the position behind it. A lone `!` has no handle. -/
def tag? (inFlow : Bool) (c : Cursor) : Option (Token × Cursor) := do
  let (token, c) ←
    if c.hasAt 1 '<' then do
      let (suffix, c) ← tagText? true c.skip.skip
      if suffix.isEmpty || !c.hasAt 0 '>' then none
      some (Token.tag "" suffix, c.skip)
    else do
      let (handle, c) ← tagHandle? c
      let (rest, c) ← tagText? false c
      if isFullHandle handle then
        if rest.isEmpty then none else some (Token.tag handle rest, c)
      else
        let suffix := (handle.drop 1).toString ++ rest
        some (if suffix.isEmpty then Token.tag "" "!" else Token.tag "!" suffix, c)
  if c.gapAt 0 || (inFlow && c.hasAt 0 ',') then some (token, c) else none

/-! ## The next token -/

/-- Adds a token of `n` characters. -/
def mark (s : Lexer) (n : Nat) (t : Token) : Lexer := (s.goTo (s.cursor.skipBy n)).push t

/-- The end of the text closes all blocks. -/
def atEnd? (s : Lexer) : Option Lexer := do
  let s ← (s.closeBlocks fun _ => true).dropKey?
  return (s.allowKey false).push .streamEnd

/-- A directive closes all blocks. -/
def atDirective? (s : Lexer) : Option Lexer := do
  let s ← (s.closeBlocks fun _ => true).dropKey?
  let (token, c) ← directive? s.cursor
  return ((s.allowKey false).goTo c).push token

/-- A document mark closes all blocks. -/
def atDocumentMark? (s : Lexer) (t : Token) : Option Lexer := do
  let s ← (s.closeBlocks fun _ => true).dropKey?
  return (s.allowKey false).mark 3 t

/-- An opening bracket or brace. -/
def atOpening? (s : Lexer) (t : Token) : Option Lexer := do
  let s ← s.saveKey?
  return ({ s with keys := none :: s.keys }.allowKey true).mark 1 t

/-- A closing bracket or brace. -/
def atClosing? (s : Lexer) (t : Token) : Option Lexer := do
  let s ← s.dropKey?
  let s := if s.inFlow then { s with keys := s.keys.tail } else s
  return (s.allowKey false).mark 1 t

/-- A comma in brackets or braces. -/
def atComma? (s : Lexer) : Option Lexer := do
  return ((← s.dropKey?).allowKey true).mark 1 .flowEntry

/-- The mark of an item. -/
def atItem? (s : Lexer) : Option Lexer := do
  let s ← (← s.openBlockHere? .blockSequenceStart).dropKey?
  return (s.allowKey true).mark 1 .blockEntry

/-- The mark of a key. -/
def atKey? (s : Lexer) : Option Lexer := do
  let s ← (← s.openBlockHere? .blockMappingStart).dropKey?
  return (s.allowKey !s.inFlow).mark 1 .key

/-- The mark of a value. If a key may have started, it did. -/
def atValue? (s : Lexer) : Option Lexer :=
  match s.keys with
  | some k :: outer =>
    let s := { s with
      tokens := s.tokens.insertIdxIfInBounds k.tokens .key
      keys := none :: outer }
    let s := s.openBlock k.start.column .blockMappingStart k.tokens
    some ((s.allowKey false).mark 1 .value)
  | _ => do
    let s ← s.openBlockHere? .blockMappingStart
    return (s.allowKey !s.inFlow).mark 1 .value

/-- A token that may be a key: its text and position are found by `read`. -/
def atName? (s : Lexer) (read : Cursor → Option (Token × Cursor)) : Option Lexer := do
  let s ← s.saveKey?
  let (token, c) ← read s.cursor
  return ((s.allowKey false).goTo c).push token

/-- A block scalar. -/
def atBlockScalar? (s : Lexer) (style : ScalarStyle) : Option Lexer := do
  let s ← s.dropKey?
  let (value, c) ← blockScalar? (style = .folded) s.indent s.cursor
  return ((s.allowKey true).goTo c).push (.scalar value style)

/-- A plain scalar. If it goes over line ends up to another token, a key may start there. -/
def atPlainScalar? (s : Lexer) : Option Lexer := do
  let s ← s.saveKey?
  let (value, broken, c) ← plainScalar? s.inFlow s.indent s.cursor
  return ((s.allowKey broken).goTo c).push (.scalar value .plain)

/-- A quoted scalar. -/
def quoted? (style : ScalarStyle) (c : Cursor) : Option (Token × Cursor) :=
  (quotedScalar? (style = .double) c).map fun r => (.scalar r.1 style, r.2)

/-- Whether a plain scalar starts at the position, where `ch` stands. -/
def startsPlain (s : Lexer) (ch : Char) : Bool :=
  if ch = '-' then !(s.cursor.at? 1).any isBlank
  else if ch = '?' || ch = ':' then !s.inFlow && !s.cursor.gapAt 1
  else !("#%@\x60".toList.contains ch || isBlank ch || isBreak ch)

/-- The token at a position where the next one starts. -/
def token? (s : Lexer) : Option Lexer :=
  let c := s.cursor
  match c.rest with
  | [] => s.atEnd?
  | ch :: _ =>
    if c.column = 0 && ch = '%' then s.atDirective?
    else
      match c.documentMark?, ch with
      | some m, _ => s.atDocumentMark? (if m = '-' then .documentStart else .documentEnd)
      | none, '[' => s.atOpening? .flowSequenceStart
      | none, '\x7b' => s.atOpening? .flowMappingStart
      | none, ']' => s.atClosing? .flowSequenceEnd
      | none, '\x7d' => s.atClosing? .flowMappingEnd
      | none, ',' => s.atComma?
      | none, '*' => s.atName? fun c => (anchorName? c).map fun r => (.alias r.1, r.2)
      | none, '&' => s.atName? fun c => (anchorName? c).map fun r => (.anchor r.1, r.2)
      | none, '!' => s.atName? (tag? s.inFlow)
      | none, '\'' => s.atName? (quoted? .single)
      | none, '"' => s.atName? (quoted? .double)
      | none, _ =>
        if ch = '-' && c.gapAt 1 then s.atItem?
        else if ch = '?' && (s.inFlow || c.gapAt 1) then s.atKey?
        else if ch = ':' && (s.inFlow || c.gapAt 1) then s.atValue?
        else if ch = '|' && !s.inFlow then s.atBlockScalar? .literal
        else if ch = '>' && !s.inFlow then s.atBlockScalar? .folded
        else if ch = '|' || ch = '>' then none
        else if s.startsPlain ch then s.atPlainScalar?
        else none

/-- Adds the next token, and before it the ends of the blocks that its column closes. -/
def step? (s : Lexer) : Option Lexer := do
  let s ← (skipSpace (s.cursor.rest.length + 1) s).expireKeys?
  (s.closeBlocks fun column => decide (s.cursor.column < column)).token?

/-- Adds tokens up to the end of the text. -/
def run? : Nat → Lexer → Option (Array Token)
  | 0, _ => none
  | fuel + 1, s =>
    match s.step? with
    | none => none
    | some s => if s.tokens.back? = some .streamEnd then some s.tokens else run? fuel s

end Lexer

/-- The tokens of a text, if there are no errors. -/
def Token.scan? (text : String) : Option (List Token) :=
  let c := Cursor.ofText text
  if c.rest.all isAllowed then
    (Lexer.run? (c.rest.length + 1) { cursor := c }).map Array.toList
  else none

end Conformance.Yaml
