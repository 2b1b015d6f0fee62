import Conformance.Host.Shell.Utility.Lines

/-!
# Editing streams

* `Edit` : what is done to a line, and on which lines;
* `Edit.parse?` : the edits of a script;
* `editLines` : the text that edits make of lines;
* `sed` : the command.
-/

namespace Conformance.Shell

/-- A line, or some of them. -/
inductive Address where
  /-- The line of a number. -/
  | line (n : Nat)
  | last
  /-- Lines that match. -/
  | matching (e : Regular)

/-- A part of what a match is replaced by. -/
inductive Replacement where
  | text (c : Char)
  /-- The text of a group; zero stands for the match. -/
  | group (n : Nat)

/-- What is done to a line. -/
inductive EditAction where
  /-- Replaces matches: the one of a number, and all behind it if `all` says so; prints the line
  then if `print` says so. -/
  | replace (e : Regular) (new : List Replacement) (number : Nat) (all fold print : Bool)
  /-- Replaces characters. -/
  | exchange (table : List (Char × Char))
  | delete
  | print
  /-- Prints the number of the line. -/
  | number
  /-- Ends behind the line. -/
  | quit
  /-- Prints a text before the line. -/
  | insert (text : String)
  /-- Prints a text behind the line. -/
  | append (text : String)
  /-- Prints a text in place of the line. -/
  | change (text : String)

/-- What is done to a line, and on which lines. -/
structure Edit where
  /-- The first line, or all. -/
  first : Option Address := none
  /-- The last line, if there is a first one. -/
  last : Option Address := none
  /-- Whether it is done on all other lines. -/
  negated : Bool := false
  /-- What is done. -/
  action : EditAction

namespace Edit

/-! ## Reading -/

/-- The text up to a delimiter, and what follows. A backslash takes the delimiter's meaning. -/
def delimited? (d : Char) : List Char → Option (List Char × List Char)
  | [] => none
  | '\\' :: c :: rest =>
    (delimited? d rest).map fun r => (if c = d then c :: r.1 else '\\' :: c :: r.1, r.2)
  | c :: rest => if c = d then some ([], rest) else (delimited? d rest).map fun r => (c :: r.1, r.2)

/-- The parts of what a match is replaced by. -/
def replacement : List Char → List Replacement
  | [] => []
  | '\\' :: 'n' :: rest => .text '\n' :: replacement rest
  | '\\' :: 't' :: rest => .text '\t' :: replacement rest
  | '\\' :: c :: rest =>
    (if c.isDigit then .group (digitValue c) else .text c) :: replacement rest
  | '&' :: rest => .group 0 :: replacement rest
  | c :: rest => .text c :: replacement rest

/-- An address, if one stands here. -/
def address? (extended : Bool) (cs : List Char) : Option (Option Address × List Char) :=
  match cs with
  | '$' :: rest => some (some .last, rest)
  | '/' :: rest => do
    let (text, rest) ← delimited? '/' rest
    return (some (.matching (← Regular.parse? extended (String.ofList text))), rest)
  | cs =>
    let digits := cs.takeWhile Char.isDigit
    if digits.isEmpty then some (none, cs)
    else some (some (.line (ofDigits 10 digits)), cs.drop digits.length)

/-- An action, and what follows. -/
def action? (extended : Bool) (cs : List Char) : Option (EditAction × List Char) :=
  let ofText := fun (make : String → EditAction) (rest : List Char) =>
    let rest := rest.dropWhile fun c => c = ' ' || c = '\\' || c = '\n'
    let text := rest.takeWhile (· ≠ '\n')
    some (make (String.ofList text), rest.drop text.length)
  match cs with
  | 's' :: d :: rest => do
    let (old, rest) ← delimited? d rest
    let (new, rest) ← delimited? d rest
    let e ← Regular.parse? extended (String.ofList old)
    let flags := rest.takeWhile fun c => c.isDigit || c = 'g' || c = 'p' || c = 'i' || c = 'I'
    let number := ofDigits 10 (flags.filter Char.isDigit)
    let fold := flags.contains 'i' || flags.contains 'I'
    return (.replace e (replacement new) (max number 1) (flags.contains 'g') fold
      (flags.contains 'p'), rest.drop flags.length)
  | 'y' :: d :: rest => do
    let (old, rest) ← delimited? d rest
    let (new, rest) ← delimited? d rest
    if old.length = new.length then return (.exchange (old.zip new), rest) else none
  | 'd' :: rest => some (.delete, rest)
  | 'p' :: rest => some (.print, rest)
  | '=' :: rest => some (.number, rest)
  | 'q' :: rest => some (.quit, rest)
  | 'i' :: rest => ofText .insert rest
  | 'a' :: rest => ofText .append rest
  | 'c' :: rest => ofText .change rest
  | _ => none

/-- The edits of a text. The first argument bounds the number of steps. -/
def edits? (extended : Bool) : Nat → List Char → Option (List Edit)
  | 0, _ => none
  | fuel + 1, cs => do
    let blank := fun (c : Char) => c = ' ' || c = '\t'
    let cs := cs.dropWhile fun c => blank c || c = ';' || c = '\n'
    if cs.isEmpty then return []
    let (first, rest) ← address? extended cs
    let (last, rest) ← match rest with
      | ',' :: rest => address? extended rest
      | rest => some (none, rest)
    let rest := rest.dropWhile blank
    let (negated, rest) := match rest with
      | '!' :: rest => (true, rest.dropWhile blank)
      | rest => (false, rest)
    let (action, rest) ← action? extended rest
    let rest := rest.dropWhile blank
    if rest.isEmpty || rest.head? = some ';' || rest.head? = some '\n' then
      return { first, last, negated, action } :: (← edits? extended fuel rest)
    else none

/-- The edits of a script. -/
def parse? (extended : Bool) (script : String) : Option (List Edit) :=
  edits? extended (script.length + 1) script.toList

/-! ## Application -/

/-- Whether an address is the one of a line. -/
def isAt (number : Nat) (isLast : Bool) (line : String) : Address → Bool
  | .line n => n = number
  | .last => isLast
  | .matching e => (e.find? false (Regular.Place.ofLine line.toList)).isSome

/-- Whether an edit is done on a line, and whether its range goes on. -/
def applies (e : Edit) (open_ : Bool) (number : Nat) (isLast : Bool) (line : String) :
    Bool × Bool :=
  let (inside, open_) :=
    match e.first, e.last with
    | none, _ => (true, false)
    | some a, none => (isAt number isLast line a, false)
    | some a, some b =>
      if open_ then (true, !isAt number isLast line b)
      else if isAt number isLast line a then
        (true, match b with
          | .line n => number < n
          | _ => true)
      else (false, false)
  (inside != e.negated, open_)

/-- A line with matches replaced, and whether there were any. -/
def replaceIn (e : Regular) (new : List Replacement) (number : Nat) (all fold : Bool)
    (line : String) : String × Bool :=
  let cs := line.toList
  let found := (e.findAll fold (cs.length + 1) (Regular.Place.ofLine cs)).drop (number - 1)
  let found := if all then found else found.take 1
  let newText := fun (r : Regular.Place × Regular.Place) => new.flatMap fun p =>
    match p with
    | .text c => [c]
    | .group 0 => r.1.upTo r.2
    | .group n => (r.2.groups.lookup n).getD []
  let (out, behind) := found.foldl (fun (acc : List Char × Nat) r =>
    (acc.1 ++ (cs.take r.1.position).drop acc.2 ++ newText r, r.2.position)) ([], 0)
  (String.ofList (out ++ cs.drop behind), !found.isEmpty)

end Edit

/-- The state of editing. -/
structure Editing where
  /-- The lines that were printed. -/
  printed : List String := []
  line : String
  /-- Whether the line is printed in the end. -/
  kept : Bool := true
  /-- What is printed behind the line. -/
  behind : List String := []
  /-- Whether editing goes on with the next line. -/
  goes : Bool := true
  /-- Whether the next edit is done on this line. -/
  active : Bool := true

/-- What an action does. -/
def Editing.act (s : Editing) (number : Nat) (action : EditAction) : Editing :=
  let print := fun (s : Editing) (l : String) => { s with printed := s.printed ++ [l] }
  match action with
  | .replace e new n all fold printing =>
    let (line, hit) := Edit.replaceIn e new n all fold s.line
    let s := { s with line }
    if hit && printing then print s line else s
  | .exchange table =>
    { s with line := s.line.map fun c => (table.lookup c).getD c }
  | .delete => { s with kept := false, active := false }
  | .print => print s s.line
  | .number => print s (toString number)
  | .quit => { s with goes := false, active := false }
  | .insert text => print s text
  | .append text => { s with behind := s.behind ++ [text] }
  | .change text => { print s text with kept := false, active := false }

/-- The lines that edits make of lines, each edit with whether its range is open. -/
def editLines (quiet : Bool) : List (Edit × Bool) → Nat → List String → List String
  | _, _, [] => []
  | edits, number, line :: rest =>
    let step := fun (acc : Editing × List (Edit × Bool)) (e : Edit × Bool) =>
      let (s, done) := acc
      if s.active then
        let (inside, open_) := e.1.applies e.2 number rest.isEmpty s.line
        (if inside then s.act number e.1.action else s, done ++ [(e.1, open_)])
      else (s, done ++ [e])
    let (s, edits) := edits.foldl step ({ line }, [])
    let lines := s.printed ++ (if s.kept && !quiet then [s.line] else []) ++ s.behind
    if s.goes then lines ++ editLines quiet edits (number + 1) rest else lines

/-- Writes its inputs with edits of their lines. -/
def sed : Utility := fun args m =>
  let (letters, scripts, rest) := sedArguments args
  let (scripts, files) := if scripts.isEmpty then (rest.take 1, rest.drop 1) else (scripts, rest)
  let extended := letters.contains 'E' || letters.contains 'r'
  match scripts.mapM (Edit.parse? extended) with
  | none => (1, m.complain "sed: -e expression #1, char 1: unknown command")
  | some edits =>
    let edits := (edits.flatten).map fun e => (e, false)
    let edited := fun (texts : List String) =>
      String.join ((editLines (letters.contains 'n') edits 1 (texts.flatMap bareLines)).map
        (· ++ "\n"))
    let read := fun (acc : List (String × String) × Nat × Machine) (f : String) =>
      let (texts, status, m) := acc
      match m.readFile (Host.pathOf f) none with
      | .ok s => (texts ++ [(f, s)], status, m)
      | .error e => (texts, 2, m.complain s!"sed: can't read {f}: {reason e}")
    if scripts.isEmpty then (1, m.complain "Usage: sed [OPTION]... \x7bscript\x7d [input-file]...")
    else if files.isEmpty then
      let (texts, status, m) := inputs "sed" none [] m
      (status, m.say (edited texts))
    else
      let (texts, status, m) := files.foldl read ([], 0, m)
      if letters.contains 'i' then
        (status, texts.foldl (fun m t =>
          match m.openFile (Host.pathOf t.1) false with
          | .ok (m, .file loc) => m.append loc (edited [t.2])
          | _ => m) m)
      else (status, m.say (edited (texts.map Prod.snd)))
where
  /-- The letters of options, scripts, and the other arguments. -/
  sedArguments : List String → List Char × List String × List String
    | [] => ([], [], [])
    | "-e" :: script :: rest =>
      let (letters, scripts, others) := sedArguments rest
      (letters, script :: scripts, others)
    | arg :: rest =>
      let (letters, scripts, others) := sedArguments rest
      match arg.toList with
      | '-' :: c :: cs => (c :: cs ++ letters, scripts, others)
      | _ => (letters, scripts, arg :: others)

end Conformance.Shell
