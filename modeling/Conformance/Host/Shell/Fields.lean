import Conformance.Host.Shell.Format
import Conformance.Host.Shell.Pattern
import Conformance.Host.Shell.Utility

/-!
# The words that a word expands to

* `Fields` : the words so far; an expansion is split at separators unless it is quoted;
* `globbed` : the paths that a pattern stands for;
* `Machine.value?` : the value of a variable or of a special name.
-/

namespace Conformance.Shell

open Host

/-! ## Fields -/

/-- The words that a word expands to, as far as it is expanded. -/
structure Fields where
  /-- The words before the last one, in reverse. -/
  complete : List (List Mark) := []
  /-- The last word in reverse, if it was started. -/
  current : Option (List Mark) := none

namespace Fields

/-- Adds a text to the last word. -/
def put (f : Fields) (s : String) (quoted : Bool) : Fields :=
  { f with current := some ((marks s quoted).reverse ++ f.current.getD []) }

/-- Ends the last word. -/
def cut (f : Fields) : Fields :=
  match f.current with
  | some w => ⟨w :: f.complete, none⟩
  | none => f

/-- Adds a text that is split at separators. A separator that is no blank ends a word even if it
is empty. -/
def split (f : Fields) (separators s : String) : Fields :=
  s.toList.foldl (fun f c =>
    if !separators.contains c then { f with current := some ((c, false) :: f.current.getD []) }
    else if c.isWhitespace then f.cut
    else { f with current := some (f.current.getD []) }.cut) f

/-- Adds texts, of which each but the first starts a word. -/
def many (f : Fields) (texts : List String) : Fields :=
  match texts with
  | [] => f
  | first :: rest => rest.foldl (fun f s => f.cut.put s true) (f.put first true)

/-- All words. -/
def toList (f : Fields) : List (List Mark) :=
  (f.cut.complete.map List.reverse).reverse

end Fields

/-- The separators of words. -/
def Machine.separators (m : Machine) : String := (m.get? "IFS").getD " \t\n"

/-- Adds the value of an expansion. -/
def Fields.add (f : Fields) (m : Machine) (s : String) (quoted : Bool) : Fields :=
  if quoted then f.put s true else f.split m.separators s

/-- A part whose value is not split. -/
def Part.protect : Part → Part
  | .value name change _ => .value name change true
  | .arithmetic expr _ => .arithmetic expr true
  | .output script _ => .output script true
  | p => p

/-- A word whose own text is split as well. -/
def Word.spread (w : Word) : Word :=
  w.map fun p => match p with
    | .text s false => .spread s
    | p => p

/-- A word that starts with a tilde, with the directory that this stands for. -/
def Word.atHome (home : String) : Word → Word
  | .text s false :: rest =>
    let cs := s.toList
    let name := cs.takeWhile (· ≠ '/')
    let known := if name = ['~'] then some home
      else if name = "~root".toList then some "/root"
      else none
    match known with
    | some dir =>
      if name.length = cs.length && !rest.isEmpty then .text s false :: rest
      else .text dir true :: .text (String.ofList (cs.drop name.length)) false :: rest
    | none => .text s false :: rest
  | w => w

/-- A word that is not split. -/
def Word.protect (w : Word) : Word := w.map Part.protect

/-- The marks of a word that is neither split nor matched with file names. -/
def Fields.joined (f : Fields) : List Mark :=
  match f.toList with
  | [] => []
  | first :: rest => rest.foldl (fun ms w => ms ++ (' ', true) :: w) first

/-! ## Names of files -/

/-- The names in a directory, sorted, that match a pattern. Names that start with a dot have to be
asked for. -/
def namesMatching (m : Machine) (dir : String) (pattern : List Mark) : List String :=
  let hidden := match pattern with
    | c :: _ => c.1 = '.'
    | [] => false
  match m.files.resolve m.frame.directory true (pathOf (if dir.isEmpty then "." else dir)) with
  | .ok loc =>
    let names := (m.files.namesBelow loc).map fun n => encoded n
    sorted (names.filter fun n => (hidden || n.toList.head? != some '.') && Mark.matches pattern n)
  | .error _ => []

/-- The paths that a pattern of several names matches, below the directory of a path that ends in
a separator. -/
def pathsMatching (m : Machine) : String → List (List Mark) → List String
  | front, [] => [front]
  | front, [last] =>
    if isPattern last then (namesMatching m front last).map (front ++ ·)
    else
      let path := front ++ plainText last
      if m.entryIs path fun _ => true then [path] else []
  | front, name :: rest =>
    let names := if isPattern name then namesMatching m front name else [plainText name]
    names.flatMap fun n => pathsMatching m (front ++ n ++ "/") rest

/-- The names of a pattern, between separators. -/
def patternNames (w : List Mark) : List (List Mark) :=
  w.foldr (fun c names =>
    if c.1 = '/' then [] :: names
    else match names with
      | name :: rest => (c :: name) :: rest
      | [] => [[c]]) [[]]

/-- The words that a pattern stands for: the paths that match it, or the word itself. -/
def globbed (m : Machine) (w : List Mark) : List String :=
  if !isPattern w || m.has 'f' then [plainText w]
  else
    match pathsMatching m "" (patternNames w) with
    | [] => [plainText w]
    | found => found

/-! ## Values -/

/-- The options of a shell by letter and name. -/
def optionNames : List (Char × String) :=
  [('e', "errexit"), ('f', "noglob"), ('I', "ignoreeof"), ('i', "interactive"), ('m', "monitor"),
    ('n', "noexec"), ('s', "stdin"), ('x', "xtrace"), ('v', "verbose"), ('V', "vi"),
    ('E', "emacs"), ('C', "noclobber"), ('a', "allexport"), ('b', "notify"), ('u', "nounset")]

/-- The value of a variable or of a special name. -/
def Machine.value? (m : Machine) (name : String) : Option String :=
  match name with
  | "#" => some (toString m.frame.arguments.length)
  | "?" => some (toString m.frame.status)
  | "$" => some (toString m.frame.number)
  | "!" => m.frame.lastJob.map toString
  | "0" => some m.frame.name
  | "-" => some (String.ofList ((optionNames.map Prod.fst).filter m.has))
  | "@" =>
    if m.frame.arguments.isEmpty then none
    else some (String.intercalate " " m.frame.arguments)
  | "*" =>
    let gap := String.ofList (((m.get? "IFS").getD " ").toList.take 1)
    if m.frame.arguments.isEmpty then none else some (String.intercalate gap m.frame.arguments)
  | _ =>
    match name.toNat? with
    | some n => m.frame.arguments[n - 1]?
    | none => m.get? name

/-- A script's output as the value of a word: without line ends behind it. -/
def withoutLineEnds (s : String) : String :=
  String.ofList (s.toList.reverse.dropWhile (· = '\n')).reverse

end Conformance.Shell
