import Conformance.Host.Shell.Script

/-!
# The text of a shell script

* `Source` : the rest of a text, and its line;
* `Refusal` : why a text cannot be read;
* `Place` : where a word stands, which decides what ends it;
* `Word.assignment?` : a word that is an assignment;
* `backquoted?`, `bracketed?`, `documentLines` : texts between marks.
-/

namespace Conformance.Shell

/-- The rest of a text, and the number of its line. -/
structure Source where
  /-- The characters that are left. -/
  rest : List Char
  /-- The line, counted from one. -/
  line : Nat := 1
  /-- How many lines behind this one were read already. -/
  ahead : Nat := 0

namespace Source

/-- The source behind a part of it that may go over line ends. -/
def behind (src : Source) (part rest : List Char) : Source :=
  let lines := part.count '\n'
  if lines = 0 then { src with rest } else ⟨rest, src.line + lines + src.ahead, 0⟩

/-- The source behind `n` characters of a line. -/
def drop (src : Source) (n : Nat) : Source := { src with rest := src.rest.drop n }

/-- The source behind a line end. -/
def newLine (src : Source) (n : Nat) : Source := ⟨src.rest.drop n, src.line + 1 + src.ahead, 0⟩

/-- Whether the source starts with a text. -/
def startsWith (src : Source) (s : String) : Bool := s.toList.isPrefixOf src.rest

/-- Passes blanks, comments, and line ends behind a backslash. -/
def skipBlanks : Nat → Source → Source
  | 0, src => src
  | fuel + 1, src =>
    match src.rest with
    | ' ' :: _ => skipBlanks fuel (src.drop 1)
    | '\t' :: _ => skipBlanks fuel (src.drop 1)
    | '\\' :: '\n' :: _ => skipBlanks fuel (src.newLine 2)
    | '#' :: _ => { src with rest := src.rest.dropWhile (· != '\n') }
    | _ => src

/-- Passes blanks and comments. -/
def blanks (src : Source) : Source := skipBlanks (src.rest.length + 1) src

/-- Passes blanks, comments and line ends. -/
def skipLines : Nat → Source → Source
  | 0, src => src
  | fuel + 1, src =>
    let src := src.blanks
    match src.rest with
    | '\n' :: _ => skipLines fuel (src.newLine 1)
    | _ => src

/-- Passes blanks, comments and line ends. -/
def lines (src : Source) : Source := skipLines (src.rest.length + 1) src

end Source

/-- Whether a character ends a word. -/
def isMeta (c : Char) : Bool := " \t\n;&|<>()".toList.contains c

/-- Whether a character can stand in a name. -/
def isNameChar (c : Char) : Bool := c.isAlphanum || c = '_'

/-- Whether a name is followed by something else. -/
def isName (cs : List Char) : Bool :=
  match cs with
  | c :: _ => !c.isDigit && cs.all isNameChar
  | [] => false

/-- The names of variables that are one character. -/
def specialNames : List Char := "@*#?-$!0123456789".toList

/-- Words that end a sequence of commands. -/
def closers : List String := ["then", "do", "done", "fi", "elif", "else", "esac", "\x7d"]

/-- Words with a meaning of their own in front of a command. -/
def keywords : List String :=
  closers ++ ["if", "while", "until", "for", "case", "in", "\x7b", "!"]

/-- Where a word stands, which decides what ends it. -/
inductive Place where
  /-- Among other words. -/
  | plain
  /-- Between double quotes. -/
  | quotes
  /-- In the braces of a variable. -/
  | braces (quoted : Bool)
  /-- On its own, up to the end of the text. -/
  | whole
  /-- In lines of text, where quotes have no meaning. -/
  | document
  deriving DecidableEq

namespace Place

/-- Whether a character ends the word. -/
def ends (p : Place) (c : Char) : Bool :=
  match p with
  | .plain => isMeta c
  | .quotes => c = '"'
  | .braces _ => c = '\x7d'
  | .whole => false
  | .document => false

/-- Whether text without quotes of its own is quoted. -/
def quoted : Place → Bool
  | .plain => false
  | .quotes => true
  | .braces q => q
  | .whole => true
  | .document => true

/-- Whether a backslash takes the meaning of a character. -/
def escapes (p : Place) (c : Char) : Bool :=
  match p with
  | .quotes => "$\x60\"\\".toList.contains c
  | .document => "$\x60\\".toList.contains c
  | _ => true

/-- Whether single quotes have a meaning. -/
def takesSingle (p : Place) : Bool := p != .quotes && p != .document

/-- What is missing where the text ends in the word, if anything is. -/
def missing? (p : Place) : Option String :=
  match p with
  | .quotes => some "Unterminated quoted string"
  | .braces true => some "Unterminated quoted string"
  | .braces false => some "Missing '\x7d'"
  | _ => none

end Place

/-- A text before other parts. -/
def addText (s : String) (quoted : Bool) (parts : Word) : Word :=
  match parts with
  | .text t q :: rest =>
    if q = quoted then .text (s ++ t) quoted :: rest else .text s quoted :: parts
  | _ => .text s quoted :: parts

/-- The word that comes next without quotes, up to something that ends it. -/
def Source.peekWord (src : Source) : String := String.ofList (src.rest.takeWhile fun c => !isMeta c)

/-- The name and the value of a word that is an assignment. -/
def Word.assignment? : Word → Option (String × Word)
  | .text s false :: rest =>
    let name := s.toList.takeWhile (· != '=')
    match s.toList.drop name.length with
    | '=' :: value =>
      if isName name then
        let rest := if value.isEmpty then rest else .text (String.ofList value) false :: rest
        some (String.ofList name, rest)
      else none
    | _ => none
  | _ => none

/-- The text before the backquote that ends it, with its escapes resolved, and what follows. -/
def backquoted? : List Char → Option (List Char × List Char)
  | [] => none
  | '\x60' :: rest => some ([], rest)
  | '\\' :: c :: rest =>
    (backquoted? rest).map fun r =>
      (if "$\x60\\".toList.contains c then c :: r.1 else '\\' :: c :: r.1, r.2)
  | c :: rest => (backquoted? rest).map fun r => (c :: r.1, r.2)

/-- The text before two closing brackets, and what follows them. Brackets in between match. -/
def bracketed? : Nat → List Char → Option (List Char × List Char)
  | 0, ')' :: ')' :: rest => some ([], rest)
  | depth, '(' :: rest => (bracketed? (depth + 1) rest).map fun r => ('(' :: r.1, r.2)
  | depth + 1, ')' :: rest => (bracketed? depth rest).map fun r => (')' :: r.1, r.2)
  | depth, c :: rest => (bracketed? depth rest).map fun r => (c :: r.1, r.2)
  | _, [] => none

/-! ## What cannot be read -/

/-- Why a text cannot be read, and at which line. -/
structure Refusal where
  line : Nat
  why : String

namespace Source

/-- Signs that stand between words. -/
def signs : List String := ["&&", "||", ";;", ";", "&", "|", "(", ")"]

/-- What comes next, as an error names it, and the line that it ends in. -/
def upcoming (src : Source) : String × Nat :=
  let src := src.blanks
  let word := src.peekWord
  match src.rest with
  | [] => ("end of file", src.line)
  | '\n' :: _ => ("newline", src.line + 1)
  | _ =>
    match signs.find? src.startsWith with
    | some sign => (s!"\"{sign}\"", src.line)
    | none =>
      let digits := src.rest.takeWhile Char.isDigit
      if ((src.drop digits.length).rest.head?).any fun c => c = '<' || c = '>' then
        ("redirection", src.line)
      else if keywords.contains word then (s!"\"{word}\"", src.line)
      else ("word", src.line)

/-- The error that something stands where it cannot. -/
def unexpected {α : Type} (src : Source) : Except Refusal α :=
  .error ⟨src.upcoming.2, src.upcoming.1 ++ " unexpected"⟩

/-- The error that something else has to stand there. -/
def lacks {α : Type} (src : Source) (expected : String) : Except Refusal α :=
  .error ⟨src.upcoming.2, s!"{src.upcoming.1} unexpected (expecting \"{expected}\")"⟩

/-- The error that something is wrong with what comes next. -/
def refused {α : Type} (src : Source) (why : String) : Except Refusal α :=
  .error ⟨src.line, why⟩

/-- The source behind a word that has to come next. -/
def close (src : Source) (word : String) : Except Refusal Source :=
  if src.peekWord = word then .ok (src.drop word.length) else src.lacks word

/-- The source behind a bracket that has to come next. -/
def closeBracket (src : Source) : Except Refusal Source :=
  let src := src.blanks
  if src.startsWith ")" then .ok (src.drop 1) else src.lacks ")"

/-- Whether something comes next that ends a sequence of commands. -/
def atCloser (src : Source) : Bool :=
  src.startsWith ")" || src.startsWith ";;" || closers.contains src.peekWord

end Source

/-! ## Lines of text -/

/-- The lines of a text up to one that is the delimiter, and what follows it. Tabs in front of lines
are dropped if `dedent` says so. -/
def documentLines (delimiter : List Char) (dedent : Bool) :
    Nat → List Char → List Char × List Char
  | 0, cs => ([], cs)
  | _, [] => ([], [])
  | fuel + 1, cs =>
    let cs := if dedent then cs.dropWhile (· = '\t') else cs
    let line := cs.takeWhile (· != '\n')
    let rest := cs.drop (line.length + 1)
    if line = delimiter then ([], rest)
    else if line.length = cs.length then (line, [])
    else
      let (more, rest) := documentLines delimiter dedent fuel rest
      (line ++ '\n' :: more, rest)

/-- The text of a word, and whether any of it is quoted. -/
def Word.delimiter : Word → String × Bool
  | [] => ("", false)
  | .text s quoted :: rest =>
    let (t, q) := Word.delimiter rest
    (s ++ t, quoted || q)
  | _ :: rest => Word.delimiter rest

end Conformance.Shell
