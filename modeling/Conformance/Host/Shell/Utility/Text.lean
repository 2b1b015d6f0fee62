import Conformance.Host.Shell.Format
import Conformance.Host.Shell.Utility

/-!
# Commands on text

Commands that write what they read, as a whole, in part or changed.

* `linesOf`, `characterSet` : the lines of a text, and the characters that a text stands for;
* `cat`, `head`, `tail`, `tr`, `wc`, `tee`, `od`, `cmp`, `dd`, `yes` : the commands.
-/

namespace Conformance.Shell

open Host

/-- The lines of a text, each with its end. -/
def linesOf (s : String) : List String :=
  let parts := splitOn s.toList
  (parts.map String.ofList).filter (!·.isEmpty)
where
  /-- The characters up to and with each line end. -/
  splitOn : List Char → List (List Char)
    | [] => [[]]
    | c :: cs =>
      if c = '\n' then [c] :: splitOn cs
      else
        match splitOn cs with
        | line :: rest => (c :: line) :: rest
        | [] => [[c]]

/-- Writes its inputs, with numbers of lines if it is told to. -/
def cat : Utility := fun args m =>
  let (letters, files) := options args
  let (texts, status, m) := inputs "cat" none files m
  if letters.contains 'n' then
    let numbered := ((texts.flatMap linesOf).zipIdx 1).map fun l =>
      let number := toString l.2
      String.ofList (List.replicate (6 - number.length) ' ') ++ number ++ "\t" ++ l.1
    (status, m.say (String.join numbered))
  else (status, texts.foldl Machine.say m)

/-! ## Starts and ends -/

/-- How much of an input is taken, and how the arguments say it. -/
structure Amount where
  /-- Whether octets are counted, and not lines. -/
  octets : Bool := false
  /-- The number as it is written. -/
  written : String := "10"
  /-- Whether the names of files are left out. -/
  quiet : Bool := false

namespace Amount

/-- The number. -/
def count? (a : Amount) : Option Nat :=
  let cs := a.written.toList
  let digits := if cs.head? == some '+' || cs.head? == some '-' then cs.drop 1 else cs
  if digits.isEmpty || !digits.all Char.isDigit then none else some (ofDigits 10 digits)

/-- Whether the number has a sign in front. -/
def hasSign (a : Amount) (sign : Char) : Bool := a.written.toList.head? == some sign

/-- What arguments ask for, and the other arguments. -/
def ofArguments (a : Amount) : List String → Amount × List String
  | [] => (a, [])
  | "-c" :: n :: rest => ofArguments { a with octets := true, written := n } rest
  | "-n" :: n :: rest => ofArguments { a with octets := false, written := n } rest
  | "-q" :: rest => ofArguments { a with quiet := true } rest
  | "--" :: rest => (a, rest)
  | arg :: rest =>
    match arg.toList with
    | '-' :: 'c' :: n => ofArguments { a with octets := true, written := String.ofList n } rest
    | '-' :: 'n' :: n => ofArguments { a with octets := false, written := String.ofList n } rest
    | '-' :: d :: n =>
      if d.isDigit then ofArguments { a with written := String.ofList (d :: n) } rest
      else ofArguments a rest
    | _ =>
      let (a, files) := ofArguments a rest
      (a, arg :: files)

end Amount

/-- Writes a part of its inputs, each under its name if there are several. `need` says how many
octets of an input are needed at most. -/
def excerpt (name : String) (need : Amount → Nat → Option Nat)
    (part : {α : Type} → Amount → Nat → List α → List α) : Utility := fun args m =>
  let (amount, files) := Amount.ofArguments {} args
  match amount.count? with
  | none =>
    let unit := if amount.octets then "bytes" else "lines"
    (1, m.complain s!"{name}: invalid number of {unit}: '{amount.written}'")
  | some n =>
    let show_ := fun (s : String) =>
      if amount.octets then String.ofList (part amount n s.toList)
      else String.join (part amount n (linesOf s))
    let titled := files.length > 1 && !amount.quiet
    let each := fun (acc : Nat × Bool × Machine) (f : String) =>
      let (status, first, m) := acc
      match m.readFile (pathOf f) (need amount n) with
      | .error e =>
        (1, first, m.complain s!"{name}: cannot open '{f}' for reading: {reason e}")
      | .ok s =>
        let title := if titled then (if first then "" else "\n") ++ s!"==> {f} <==\n" else ""
        (status, false, m.say (title ++ show_ s))
    if files.isEmpty then
      let (texts, status, m) := inputs name none [] m
      (status, (texts.map show_).foldl Machine.say m)
    else
      let (status, _, m) := files.foldl each (0, true, m)
      (status, m)

/-- Writes the start of its inputs. -/
def head : Utility :=
  excerpt "head" (fun a n => if a.octets && !a.hasSign '-' then some n else none)
    fun a n xs => if a.hasSign '-' then xs.take (xs.length - n) else xs.take n

/-- Writes the end of its inputs. -/
def tail : Utility :=
  excerpt "tail" (fun _ _ => none)
    fun a n xs => if a.hasSign '+' then xs.drop (n - 1) else xs.drop (xs.length - n)

/-! ## Characters -/

/-- Named classes of characters. -/
def characterClasses : List (String × List Char) :=
  let range := fun (a b : Char) =>
    (List.range (b.toNat + 1 - a.toNat)).map fun i => Char.ofNat (a.toNat + i)
  [("[:upper:]", range 'A' 'Z'), ("[:lower:]", range 'a' 'z'), ("[:digit:]", range '0' '9'),
    ("[:alpha:]", range 'A' 'Z' ++ range 'a' 'z'),
    ("[:alnum:]", range '0' '9' ++ range 'A' 'Z' ++ range 'a' 'z'),
    ("[:space:]", [' ', '\t', '\n', '\r', '\x0b', '\x0c'])]

/-- The members of a set of characters, with ranges and escapes resolved. -/
def characterSet : Nat → List Char → List Char
  | 0, _ => []
  | _, [] => []
  | fuel + 1, '[' :: ':' :: rest =>
    match characterClasses.find? fun c => c.1.toList.isPrefixOf ('[' :: ':' :: rest) with
    | some (name, members) => members ++ characterSet fuel (rest.drop (name.length - 2))
    | none => '[' :: characterSet fuel (':' :: rest)
  | fuel + 1, '\\' :: e :: rest =>
    if isOctal e then
      let (c, rest) := octalEscape (e :: rest)
      c :: characterSet fuel rest
    else (letterEscape? e).getD e :: characterSet fuel rest
  | fuel + 1, a :: '-' :: b :: rest =>
    (List.range (b.toNat + 1 - a.toNat)).map (fun i => Char.ofNat (a.toNat + i)) ++
      characterSet fuel rest
  | fuel + 1, c :: rest => c :: characterSet fuel rest

/-- A text in which members of a set that follow one another and are the same stand once. -/
def squeeze (members : List Char) : List Char → List Char
  | a :: b :: rest =>
    if a = b && members.contains a then squeeze members (b :: rest)
    else a :: squeeze members (b :: rest)
  | cs => cs

/-- Writes its input with characters replaced, left out, or not repeated. -/
def tr : Utility := fun args m =>
  let (letters, sets) := options args
  let input := m.frame.input.toList
  let m := { m with frame := { m.frame with input := "" } }
  let set := fun (s : String) => characterSet (s.length + 1) s.toList
  let inverse := letters.contains 'c' || letters.contains 'C'
  let isIn := fun (members : List Char) (c : Char) => members.contains c != inverse
  let say := fun (cs : List Char) => (0, m.say (String.ofList cs))
  match sets with
  | [chars] =>
    let members := set chars
    if letters.contains 'd' then say (input.filter fun c => !isIn members c)
    else if letters.contains 's' then say (squeeze (input.filter (isIn members)) input)
    else
      (1, m.complain (s!"tr: missing operand after '{chars}'\n" ++
        "Two strings must be given when translating.\nTry 'tr --help' for more information."))
  | [chars, others] =>
    let sources := set chars
    let targets := set others
    let last := targets.getLast?.getD ' '
    let replace := fun (c : Char) =>
      if inverse then (if sources.contains c then c else last)
      else if sources.contains c then targets.getD (sources.idxOf c) last
      else c
    let replaced :=
      if letters.contains 'd' then input.filter fun c => !isIn sources c else input.map replace
    say (if letters.contains 's' then squeeze targets replaced else replaced)
  | _ => (1, m.complain "tr: missing operand\nTry 'tr --help' for more information.")

/-- The number of words of a text. -/
def wordCount : Bool → List Char → Nat
  | _, [] => 0
  | inside, c :: cs =>
    if c.isWhitespace then wordCount false cs
    else (if inside then 0 else 1) + wordCount true cs

/-- Counts octets, words and lines of its inputs. -/
def wc : Utility := fun args m =>
  let (options, files) := args.partition fun a => a.length > 1 && a.toList.head? == some '-'
  let letters := options.flatMap fun o => o.toList.drop 1
  let letters := if letters.isEmpty then ['l', 'w', 'c'] else letters
  let (texts, status, m) := inputs "wc" none files m
  let counts := fun (s : String) =>
    (if letters.contains 'l' then [s.toList.count '\n'] else []) ++
      (if letters.contains 'w' then [wordCount false s.toList] else []) ++
      (if letters.contains 'c' || letters.contains 'm' then [s.length] else [])
  let single := letters.length = 1
  let octetsIn := (texts.map String.length).foldl (· + ·) 0
  let width :=
    if files.isEmpty then (if single then 1 else 7)
    else if single && files.length = 1 then 1
    else (toString octetsIn).length
  let column := fun (n : Nat) =>
    let digits := toString n
    String.ofList (List.replicate (width - digits.length) ' ') ++ digits
  let line := fun (ns : List Nat) (name : String) =>
    String.intercalate " " (ns.map column) ++ (if name.isEmpty then "" else " " ++ name) ++ "\n"
  let all := texts.map counts
  let names := if files.isEmpty then [""] else files
  let m := ((all.zip names).map fun e => line e.1 e.2).foldl Machine.say m
  let total := all.foldl (fun sums ns => ns.zipWith (· + ·) sums) (letters.map fun _ => 0)
  (status, if files.length > 1 then m.say (line total "total") else m)

/-- Writes its input to files as well. -/
def tee : Utility := fun args m =>
  let (letters, files) := options args
  let input := m.frame.input
  let m := { m with frame := { m.frame with input := "" } }.say input
  files.foldl (fun (status, m) f =>
    match m.openFile (pathOf f) (letters.contains 'a') with
    | .ok (m, .file loc) => (status, m.append loc input)
    | .ok (m, _) => (status, m)
    | .error e => (1, m.complain s!"tee: {f}: {reason e}")) (0, m)

/-! ## Octets -/

/-- The digits of a number in a base, filled up with zeros. -/
def padded (base width n : Nat) : String :=
  let digits := String.ofList (Nat.toDigits base n)
  String.ofList (List.replicate (width - digits.length) '0') ++ digits

/-- An octet as a character, or as an escape. -/
def namedOctet (c : Char) : String :=
  let name :=
    match c with
    | '\x00' => "\\0"
    | '\x07' => "\\a"
    | '\x08' => "\\b"
    | '\t' => "\\t"
    | '\n' => "\\n"
    | '\x0b' => "\\v"
    | '\x0c' => "\\f"
    | '\r' => "\\r"
    | c => if ' ' ≤ c && c ≤ '~' then String.singleton c else padded 8 3 c.toNat
  String.ofList (List.replicate (4 - name.length) ' ') ++ name

/-- The lines in which octets are shown, sixteen to a line, with positions unless `bare` says so. -/
def dumpLines (bare : Bool) (format : List Char → String) : Nat → Nat → List Char → List String
  | 0, _, _ => []
  | fuel + 1, position, cs =>
    let front := if bare then "" else padded 8 7 position
    if cs.isEmpty then (if bare then [] else [front])
    else
      let row := cs.take 16
      (front ++ format row) :: dumpLines bare format fuel (position + row.length) (cs.drop 16)

/-- Shows the octets of its inputs. -/
def od : Utility := fun args m =>
  let (given, files) := args.partition fun a => a.length > 1 && a.toList.head? == some '-'
  let bare := given.any fun a => "-An".toList.isPrefixOf a.toList
  let words := fun (row : List Char) =>
    let rec pairs : List Char → List Nat
      | a :: b :: rest => (a.toNat + 256 * b.toNat) :: pairs rest
      | [a] => [a.toNat]
      | [] => []
    String.join ((pairs row).map fun n => " " ++ padded 8 6 n)
  let each := fun (show_ : Char → String) (row : List Char) => String.join (row.map show_)
  let format :=
    if given.contains "-c" || given.contains "-tc" then each namedOctet
    else if given.any fun a => "tx1".toList.isSuffixOf a.toList then
      each fun c => " " ++ padded 16 2 c.toNat
    else if given.any fun a => "tu1".toList.isSuffixOf a.toList then
      each fun c =>
        let n := toString c.toNat
        String.ofList (List.replicate (4 - n.length) ' ') ++ n
    else if given.contains "-b" || given.any fun a => "to1".toList.isSuffixOf a.toList then
      each fun c => " " ++ padded 8 3 c.toNat
    else words
  let files := files.filter fun f => f ≠ "x1" && f ≠ "n"
  let (texts, status, m) := inputs "od" none files m
  let cs := (String.join texts).toList
  let lines := dumpLines bare format (cs.length + 1) 0 cs
  (status, m.say (String.join (lines.map (· ++ "\n"))))

/-- Tells where two files differ first. -/
def cmp : Utility := fun args m =>
  let (letters, files) := options args
  match files with
  | [a, b] =>
    let read := fun (f : String) => (m.readFile (pathOf f) none).mapError fun e =>
      s!"cmp: {f}: {reason e}"
    match read a, read b with
    | .ok x, .ok y =>
      let same := ((x.toList.zip y.toList).takeWhile fun p => p.1 = p.2).length
      let line := (x.toList.take same).count '\n' + 1
      let quiet := letters.contains 's'
      if x = y then (0, m)
      else if same = x.length || same = y.length then
        let short := if same = x.length then a else b
        let where_ :=
          if same = 0 then "which is empty" else s!"after byte {same}, in line {line}"
        (1, if quiet then m else m.complain s!"cmp: EOF on {short} {where_}")
      else
        (1, if quiet then m else m.say s!"{a} {b} differ: char {same + 1}, line {line}\n")
    | .error e, _ => (2, if letters.contains 's' then m else m.complain e)
    | _, .error e => (2, if letters.contains 's' then m else m.complain e)
  | _ => (2, m.complain "cmp: missing operand")

/-- Copies octets in blocks. -/
def dd : Utility := fun args m =>
  let given := args.map fun a =>
    let name := a.toList.takeWhile (· ≠ '=')
    (String.ofList name, (a.drop (name.length + 1)).toString)
  let number := fun (name : String) => (given.lookup name).bind fun s =>
    let digits := s.toList.takeWhile Char.isDigit
    let unit := match s.toList.drop digits.length with
      | ['k'] => 1024
      | ['K'] => 1024
      | ['M'] => 1024 * 1024
      | _ => 1
    if digits.isEmpty then none else some (ofDigits 10 digits * unit)
  let block := (number "bs").getD 512
  let limit := (number "count").map (· * block)
  let input : Except Cause String := match given.lookup "if" with
    | some f => m.readFile (pathOf f) limit
    | none => .ok m.frame.input
  match input with
  | .error e =>
    let file := (given.lookup "if").getD ""
    (1, m.complain s!"dd: failed to open '{file}': {reason e}")
  | .ok s =>
    let s := String.ofList ((s.toList.drop ((number "skip").getD 0 * block)))
    let s := match limit with
      | some n => String.ofList (s.toList.take n)
      | none => s
    let m := if (given.lookup "if").isNone then { m with frame := { m.frame with input := "" } }
      else m
    let written := match given.lookup "of" with
      | none => m.say s
      | some f =>
        match m.openFile (pathOf f) (given.lookup "conv" = some "notrunc") with
        | .ok (m, .file loc) => m.append loc s
        | _ => m
    let records := s!"{s.length / block}+{if s.length % block = 0 then 0 else 1} records"
    let report := s!"{records} in\n{records} out\n{s.length} bytes copied"
    (0, if given.lookup "status" = some "none" then written else written.complain report)

/-- How many lines `yes` writes at most before nobody reads them. -/
def yesLimit : Nat := 200000

/-- Writes a line again and again. -/
def yes : Utility := fun args m =>
  let line := (if args.isEmpty then "y" else String.intercalate " " args) ++ "\n"
  (141, m.say (String.join (List.replicate yesLimit line)))

end Conformance.Shell
