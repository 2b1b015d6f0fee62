import Conformance.Host.Shell.Regular
import Conformance.Host.Shell.Utility.Text

/-!
# Commands on lines

* `grep`, `sort`, `uniq` : some of the lines of texts, or all of them in order;
* `cut` : a part of each line;
* `regular?` : the regular expression that options ask for.
-/

namespace Conformance.Shell

/-- The lines of a text without their ends. -/
def bareLines (s : String) : List String :=
  (linesOf s).map fun l => if l.endsWith "\n" then (l.dropEnd 1).toString else l

/-- Writes lines with their ends. -/
def Machine.sayLines (m : Machine) (lines : List String) : Machine :=
  m.say (String.join (lines.map (· ++ "\n")))

/-- Writes the lines of its inputs in order. -/
def sort : Utility := fun args m =>
  let (letters, files) := options args
  let (texts, status, m) := inputs "sort" none files m
  let lines := texts.flatMap bareLines
  let number := fun (l : String) => ((leadingInteger? l.toList).map Prod.fst).getD 0
  let ordered :=
    if letters.contains 'n' then lines.mergeSort fun a b => number a ≤ number b else sorted lines
  let ordered := if letters.contains 'u' then ordered.eraseDups else ordered
  (status, m.sayLines (if letters.contains 'r' then ordered.reverse else ordered))

/-- Writes lines that follow one another and are the same only once. -/
def uniq : Utility := fun args m =>
  let (letters, files) := options args
  let (texts, status, m) := inputs "uniq" none files m
  let runs := (texts.flatMap bareLines).splitBy fun a b => a = b
  let runs := runs.filter fun run =>
    (!letters.contains 'd' || run.length > 1) && (!letters.contains 'u' || run.length = 1)
  let shown := fun (run : List String) =>
    let count := toString run.length
    let gap := String.ofList (List.replicate (7 - count.length) ' ')
    (if letters.contains 'c' then gap ++ count ++ " " else "") ++ run.headD ""
  (status, m.sayLines (runs.map shown))

/-! ## Parts of lines -/

/-- Ranges of positions, counted from one. A range may be open at an end. -/
def ranges? (s : String) : Option (List (Nat × Option Nat)) :=
  (splitOnChar ',' s.toList).mapM fun cs =>
    match splitOnChar '-' cs with
    | [a] => (String.ofList a).toNat?.map fun n => (n, some n)
    | [a, b] => do
      let first ← if a.isEmpty then some 1 else (String.ofList a).toNat?
      let last ← if b.isEmpty then some none else (String.ofList b).toNat?.map some
      return (first, last)
    | _ => none

/-- The elements at the positions of some ranges. -/
def select {α : Type} (ranges : List (Nat × Option Nat)) (xs : List α) : List α :=
  let chosen := fun (n : Nat) => ranges.any fun r =>
    r.1 ≤ n && (match r.2 with
      | some last => n ≤ last
      | none => true)
  (xs.zipIdx 1).filterMap fun e => if chosen e.2 then some e.1 else none

/-- An option with a value, which may be a word of its own. -/
def optionValues : List String → List (Char × String) × List String
  | [] => ([], [])
  | [arg] =>
    match arg.toList with
    | '-' :: c :: value => ([(c, String.ofList value)], [])
    | _ => ([], [arg])
  | arg :: next :: rest =>
    match arg.toList with
    | '-' :: 's' :: [] =>
      let (given, files) := optionValues (next :: rest)
      (('s', "") :: given, files)
    | '-' :: c :: [] =>
      let (given, files) := optionValues rest
      ((c, next) :: given, files)
    | '-' :: c :: value =>
      let (given, files) := optionValues (next :: rest)
      ((c, String.ofList value) :: given, files)
    | _ => ([], arg :: next :: rest)

/-- Writes parts of the lines of its inputs: fields, or characters. -/
def cut : Utility := fun args m =>
  let (given, files) := optionValues args
  let ranges := (given.find? fun e => e.1 = 'f' || e.1 = 'c' || e.1 = 'b').bind fun e =>
    (ranges? e.2).map fun r => (e.1, r)
  match ranges with
  | none => (1, m.complain "cut: you must specify a list of bytes, characters, or fields")
  | some (kind, ranges) =>
    let gap := ((given.lookup 'd').bind fun s => s.toList.head?).getD '\t'
    let part := fun (l : String) =>
      if kind ≠ 'f' then some (String.ofList (select ranges l.toList))
      else if !l.toList.contains gap then if (given.lookup 's').isSome then none else some l
      else
        let fields := (splitOnChar gap l.toList).map String.ofList
        some (String.intercalate (String.singleton gap) (select ranges fields))
    let (texts, status, m) := inputs "cut" none files m
    (status, m.sayLines ((texts.flatMap bareLines).filterMap part))

/-! ## Matching lines -/

/-- The regular expression of patterns, of which one has to match. -/
def regular? (letters : List Char) (patterns : List String) : Option Regular := do
  let read := fun (s : String) =>
    if letters.contains 'F' then some (Regular.ofText s)
    else Regular.parse? (letters.contains 'E') s
  match ← (patterns.flatMap fun p => splitOnChar '\n' p.toList).mapM fun cs =>
    read (String.ofList cs) with
  | [] => none
  | first :: rest => return rest.foldl Regular.either first

/-- Whether a match stands between characters that are no part of names. -/
def isWord (line : List Char) (found : Regular.Place × Regular.Place) : Bool :=
  let before := (line.take found.1.position).getLast?
  !(before.any isNameChar) && !(found.2.rest.head?.any isNameChar)
where
  /-- Whether a character can be part of a name. -/
  isNameChar (c : Char) : Bool := c.isAlphanum || c = '_'

/-- Writes the lines of its inputs that match a pattern. -/
def grep : Utility := fun args m =>
  let (given, rest) := grepArguments args
  let letters := given.filterMap fun e => if e.2.isNone then some e.1 else none
  let patterns := given.filterMap Prod.snd
  let (patterns, files) := if patterns.isEmpty then (rest.take 1, rest.drop 1) else (patterns, rest)
  let has := fun (c : Char) => letters.contains c
  match regular? letters patterns with
  | none => (2, m.complain "Usage: grep [OPTION]... PATTERNS [FILE]...")
  | some e =>
    let found := fun (l : String) =>
      let line := Regular.Place.ofLine l.toList
      (e.findAll (has 'i') (l.length + 1) line).filter fun r =>
        (!has 'x' || (r.1.position = 0 && r.2.rest.isEmpty)) && (!has 'w' || isWord l.toList r)
    let titled := (files.length > 1 || has 'H') && !has 'h'
    let named := if files.isEmpty then [("(standard input)", none)] else
      files.map fun f => (f, some f)
    let search := fun (acc : Nat × Bool × Machine) (file : String × Option String) =>
      let (status, any, m) := acc
      let (texts, failed, m) := inputs "grep" none file.2.toList m
      let lines := ((texts.flatMap bareLines).zipIdx 1).filter fun l =>
        (found l.1).isEmpty = has 'v'
      let title := if titled then file.1 ++ ":" else ""
      let shown := fun (l : String × Nat) =>
        let front := title ++ if has 'n' then s!"{l.2}:" else ""
        if has 'o' then
          ((found l.1).filter fun r => r.2.position > r.1.position).map fun r =>
            front ++ String.ofList (r.1.upTo r.2)
        else [front ++ l.1]
      let output :=
        if has 'q' then []
        else if has 'l' then (if lines.isEmpty then [] else [file.1])
        else if has 'c' then
          (if failed ≠ 0 then [] else [s!"{title}{lines.length}"])
        else lines.flatMap shown
      (max status (if failed = 0 then 0 else 2), any || !lines.isEmpty, m.sayLines output)
    let (status, any, m) := named.foldl search (0, false, m)
    (if has 'q' && any then 0 else if status ≠ 0 then status else if any then 0 else 1, m)
where
  /-- The options, of which `-e` has a pattern, and the other arguments. -/
  grepArguments : List String → List (Char × Option String) × List String
    | [] => ([], [])
    | "--" :: rest => ([], rest)
    | "-e" :: pattern :: rest =>
      let (given, others) := grepArguments rest
      (('e', some pattern) :: given, others)
    | arg :: rest =>
      let (given, others) := grepArguments rest
      match arg.toList with
      | '-' :: c :: cs => ((c :: cs).map (fun c => (c, none)) ++ given, others)
      | _ => (given, arg :: others)

end Conformance.Shell
