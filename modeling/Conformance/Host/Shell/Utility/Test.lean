import Conformance.Host.Shell.Format
import Conformance.Host.Shell.Regular
import Conformance.Host.Shell.Utility

/-!
# Tests and values

* `unaryTests`, `binaryTests`, `verdict`, `runTest` : tests;
* `echo`, `printf`, `expr`, `seq` : commands that write what their arguments stand for.
-/

namespace Conformance.Shell

open Host

/-! ## Tests -/

/-- The entry of a link at a path, which is not followed. -/
def isLink (m : Machine) (arg : String) : Bool :=
  match m.files.resolve m.frame.directory false (pathOf arg) with
  | .ok loc => match m.files.entry? loc with
    | some (.link _) => true
    | _ => false
  | .error _ => false

/-- The operators in front of an operand. -/
def unaryTests : List (String × (Machine → String → Bool)) :=
  let isKind := fun (kind : Entry → Bool) (m : Machine) (arg : String) => m.entryIs arg kind
  let present := isKind fun _ => true
  let never := fun (_ : Machine) (_ : String) => false
  [("-n", fun _ s => !s.isEmpty), ("-z", fun _ s => s.isEmpty),
    ("-e", present), ("-r", present), ("-w", present), ("-O", present), ("-G", present),
    ("-f", isKind fun e => match e with | .file _ _ => true | _ => false),
    ("-d", isKind fun e => match e with | .directory _ => true | _ => false),
    ("-s", isKind fun e => match e with | .file c _ => !c.isEmpty | _ => true),
    ("-x", isKind fun e => match e with | .file _ x => x | _ => true),
    ("-c", isKind fun e => match e with | .device => true | _ => false),
    ("-L", isLink), ("-h", isLink), ("-t", never), ("-b", never), ("-p", never), ("-S", never),
    ("-g", never), ("-k", never), ("-u", never)]

/-- The number that an operand denotes. -/
def operandNumber (s : String) : Except String Int :=
  match integer? (withoutBlanks s) with
  | some n => .ok n
  | none => .error s!"Illegal number: {s}"

/-- The operators between two operands. -/
def binaryTests : List (String × (Machine → String → String → Except String Bool)) :=
  let numbers := fun (p : Int → Int → Bool) (_ : Machine) (a b : String) => do
    return p (← operandNumber a) (← operandNumber b)
  let location := fun (m : Machine) (p : String) =>
    (m.files.resolve m.frame.directory true (pathOf p)).toOption
  [("=", fun _ a b => .ok (a = b)), ("!=", fun _ a b => .ok (a ≠ b)),
    ("<", fun _ a b => .ok (a < b)), (">", fun _ a b => .ok (a > b)),
    ("-eq", numbers fun x y => x = y), ("-ne", numbers fun x y => x ≠ y),
    ("-lt", numbers fun x y => x < y), ("-le", numbers fun x y => x ≤ y),
    ("-gt", numbers fun x y => x > y), ("-ge", numbers fun x y => x ≥ y),
    ("-ef", fun m a b => .ok ((location m a).isSome && location m a = location m b)),
    ("-nt", fun _ _ _ => .ok false), ("-ot", fun _ _ _ => .ok false)]

/-- Whether a word is an operator between two operands. -/
def isBinary (s : String) : Bool := (binaryTests.lookup s).isSome

/-- Whether words start with an operator in front of an operand, and not with an operand of that
name. -/
def startsUnary (ts : List String) : Bool :=
  match ts with
  | op :: next :: rest =>
    (unaryTests.lookup op).isSome &&
      !(match rest with
        | t :: _ => isBinary next && t ≠ ")"
        | [] => false)
  | _ => false

/-- A verdict with the last word that was used for it, and the words behind that. -/
abbrev Verdict := Bool × Option String × List String

mutual

/-- The verdict of the simplest test that words start with. -/
def primary (m : Machine) : Nat → List String → Except String Verdict
  | 0, ts => .ok (false, none, ts)
  | fuel + 1, ts =>
    match ts with
    | [] => .ok (false, none, [])
    | op :: rest =>
      if op = "(" && !rest.isEmpty then
        if rest.head? = some ")" then .ok (false, some ")", rest.tail)
        else do
          let (verdict, _, rest) ← disjunction m fuel rest
          match rest with
          | ")" :: rest => return (verdict, some ")", rest)
          | _ => .error "closing paren expected"
      else if startsUnary ts then
        match unaryTests.lookup op, rest with
        | some test, arg :: rest => .ok (test m arg, some arg, rest)
        | _, _ => .error s!"{op}: argument expected"
      else
        match rest with
        | sign :: rest =>
          match binaryTests.lookup sign, rest with
          | some test, arg :: rest => do return (← test m op arg, some arg, rest)
          | some _, [] => .error s!"{sign}: argument expected"
          | none, _ => .ok (!op.isEmpty, some op, sign :: rest)
        | [] => .ok (!op.isEmpty, some op, [])

/-- The verdict of a test that may be negated. -/
def negation (m : Machine) : Nat → List String → Except String Verdict
  | 0, ts => .ok (false, none, ts)
  | fuel + 1, ts =>
    match ts with
    | "!" :: [] => .ok (true, some "!", [])
    | "!" :: rest => (negation m fuel rest).map fun r => (!r.1, r.2)
    | _ => primary m fuel ts

/-- The verdict of tests that all have to hold. -/
def conjunction (m : Machine) : Nat → List String → Except String Verdict
  | 0, ts => .ok (false, none, ts)
  | fuel + 1, ts => do
    let (first, last, rest) ← negation m fuel ts
    match rest with
    | "-a" :: rest =>
      let (second, last, rest) ← conjunction m fuel rest
      return (first && second, last, rest)
    | _ => return (first, last, rest)

/-- The verdict of tests of which one has to hold. -/
def disjunction (m : Machine) : Nat → List String → Except String Verdict
  | 0, ts => .ok (false, none, ts)
  | fuel + 1, ts => do
    let (first, last, rest) ← conjunction m fuel ts
    match rest with
    | "-o" :: rest =>
      let (second, last, rest) ← disjunction m fuel rest
      return (first || second, last, rest)
    | _ => return (first, last, rest)

end

/-- The verdict of words as a whole. Three or four words have a meaning of their own. -/
def verdict (m : Machine) : Nat → List String → Except String Bool
  | 0, _ => .ok false
  | _ + 1, [] => .ok false
  | fuel + 1, ts => do
    let few := ts.length = 3 || ts.length = 4
    let middle := ts.length = 3 && isBinary (ts.getD 1 "")
    if few && !middle && ts.head? = some "!" then return !(← verdict m fuel ts.tail)
    else
      let bracketed := few && !middle && ts.head? = some "(" && ts.getLast? = some ")"
      let ts := if bracketed then ts.tail.dropLast else ts
      match middle, ts with
      | true, [a, op, b] =>
        match binaryTests.lookup op with
        | some test => test m a b
        | none => return false
      | _, _ =>
        let (holds, last, rest) ← disjunction m (6 * ts.length + 6) ts
        match last, rest with
        | some word, _ :: _ => .error s!"{word}: unexpected operator"
        | _, _ => return holds

/-- The status of a test, with a complaint if it is none. -/
def runTest (name : String) : Utility := fun args m =>
  match verdict m (args.length + 1) args with
  | .ok holds => (if holds then 0 else 1, m)
  | .error why => (2, m.complainHere s!"{name}: {why}")

/-! ## Values -/

/-- Writes its arguments, with escapes resolved. -/
def echo : Utility := fun args m =>
  let (silent, args) := match args with
    | "-n" :: rest => (true, rest)
    | args => (false, args)
  let text := String.intercalate " " args
  let (cs, more) := unescape (text.length + 1) text.toList
  (0, m.say (String.ofList cs ++ if silent || !more then "" else "\n"))

/-- Writes the result of a format, and what is wrong with it. -/
def writeFormat (format : String) (args : List String) (m : Machine) : Nat × Machine :=
  let f := formatAll format.toList (args.length + 1) { arguments := args }
  let m := f.faults.foldl (fun m why => m.complainHere ("printf: " ++ why)) m
  (f.status, m.say f.text)

/-- Writes its arguments as a format says. -/
def printf : Utility := fun args m =>
  match args with
  | [] => (2, m.complainHere "printf: usage: printf format [arg ...]")
  | "--" :: format :: args => writeFormat format args m
  | format :: args => writeFormat format args m

/-! ## Expressions -/

/-- The operators between operands by strength, the weakest first. -/
def operatorLevels : List (List String) :=
  [["|"], ["&"], ["=", "!=", "<", "<=", ">", ">="], ["+", "-"], ["*", "/", "%"], [":"]]

/-- Whether a text counts as false. -/
def isNothing (s : String) : Bool := s.isEmpty || integer? s = some 0

/-- What an operator makes of two operands. -/
def operate (op a b : String) : Except String String :=
  let truth := fun (b : Bool) => .ok (if b then "1" else "0")
  let numbers := fun (f : Int → Int → Except String String) =>
    match integer? a, integer? b with
    | some x, some y => f x y
    | _, _ => .error "non-integer argument"
  let compare := fun (ofNumbers : Int → Int → Bool) (ofTexts : String → String → Bool) =>
    match integer? a, integer? b with
    | some x, some y => truth (ofNumbers x y)
    | _, _ => truth (ofTexts a b)
  let divided := fun (f : Int → Int → Int) => numbers fun x y =>
    if y = 0 then .error "division by zero" else .ok (toString (f x y))
  match op with
  | "|" => .ok (if isNothing a then (if isNothing b then "0" else b) else a)
  | "&" => .ok (if isNothing a || isNothing b then "0" else a)
  | "=" => compare (fun x y => x = y) (fun x y => x = y)
  | "!=" => compare (fun x y => x ≠ y) (fun x y => x ≠ y)
  | "<" => compare (fun x y => x < y) (fun x y => x < y)
  | "<=" => compare (fun x y => x ≤ y) (fun x y => x ≤ y)
  | ">" => compare (fun x y => x > y) (fun x y => x > y)
  | ">=" => compare (fun x y => x ≥ y) (fun x y => x ≥ y)
  | "+" => numbers fun x y => .ok (toString (x + y))
  | "-" => numbers fun x y => .ok (toString (x - y))
  | "*" => numbers fun x y => .ok (toString (x * y))
  | "/" => divided Int.tdiv
  | "%" => divided Int.tmod
  | _ =>
    match Regular.parse? false b with
    | none => .error "Invalid regular expression"
    | some e =>
      match e.longest? false (Regular.Place.ofLine a.toList) with
      | none => .ok (if e.hasGroup then "" else "0")
      | some p =>
        if e.hasGroup then .ok (String.ofList ((p.groups.lookup 1).getD []))
        else .ok (toString p.position)

mutual

/-- The value of an operand, and what follows. -/
def exprOperand : Nat → List String → Except String (String × List String)
  | 0, _ => .error "syntax error"
  | fuel + 1, ts =>
    match ts with
    | "(" :: rest => do
      match ← exprLevel fuel operatorLevels rest with
      | (value, ")" :: rest) => return (value, rest)
      | _ => .error "syntax error: expecting ')'"
    | "length" :: s :: rest => .ok (toString s.length, rest)
    | "substr" :: s :: first :: count :: rest =>
      let n := fun (t : String) => ((integer? t).getD 0).toNat
      .ok (if n first = 0 then "" else
        String.ofList ((s.toList.drop (n first - 1)).take (n count)), rest)
    | "index" :: s :: chars :: rest =>
      .ok (toString (match s.toList.findIdx? chars.toList.contains with
        | some i => i + 1
        | none => 0), rest)
    | "match" :: s :: e :: rest => (operate ":" s e).map fun v => (v, rest)
    | value :: rest => .ok (value, rest)
    | [] => .error "syntax error: missing argument"

/-- The value of operands with operators of the given levels between them, and what follows. -/
def exprLevel : Nat → List (List String) → List String → Except String (String × List String)
  | 0, _, _ => .error "syntax error"
  | fuel + 1, [], ts => exprOperand fuel ts
  | fuel + 1, ops :: stronger, ts => do
    let (first, rest) ← exprLevel fuel stronger ts
    exprMore fuel ops stronger first rest

/-- The value of the rest of operands with operators of one level between them. -/
def exprMore : Nat → List String → List (List String) → String → List String →
    Except String (String × List String)
  | 0, _, _, _, _ => .error "syntax error"
  | fuel + 1, ops, stronger, first, ts =>
    match ts with
    | op :: rest =>
      if ops.contains op then do
        if rest.isEmpty then throw s!"syntax error: missing argument after '{op}'"
        let (second, rest) ← exprLevel fuel stronger rest
        exprMore fuel ops stronger (← operate op first second) rest
      else .ok (first, ts)
    | [] => .ok (first, [])

end

/-- Writes the value of an expression. -/
def expr : Utility := fun args m =>
  if args.isEmpty then
    (2, m.complain "expr: missing operand\nTry 'expr --help' for more information.")
  else
    match exprLevel (16 * args.length + 16) operatorLevels args with
    | .ok (value, []) => (if isNothing value then 1 else 0, m.say (value ++ "\n"))
    | .ok (_, extra :: _) =>
      (2, m.complain s!"expr: syntax error: unexpected argument '{extra}'")
    | .error why => (2, m.complain ("expr: " ++ why))

/-- Counts up or down. -/
def seq : Utility := fun args m =>
  let (gap, args) := match args with
    | "-s" :: gap :: rest => (gap, rest)
    | arg :: rest => if "-s".toList.isPrefixOf arg.toList then ((arg.drop 2).toString, rest)
      else ("\n", arg :: rest)
    | [] => ("\n", [])
  let wide := args.head? = some "-w"
  let count := fun (first step last : Int) =>
    let steps := if step = 0 then 0 else ((last - first) / step + 1).toNat
    let numbers := (List.range steps).map fun (i : Nat) => toString (first + step * i)
    let width := (numbers.map String.length).foldl max 0
    let fill := fun (s : String) =>
      if wide then String.ofList (List.replicate (width - s.length) '0') ++ s else s
    (0, if numbers.isEmpty then m else m.say (String.intercalate gap (numbers.map fill) ++ "\n"))
  match (if wide then args.tail else args).mapM integer? with
  | some [last] => count 1 1 last
  | some [first, last] => count first 1 last
  | some [first, step, last] => count first step last
  | some _ => (1, m.complain "seq: missing operand\nTry 'seq --help' for more information.")
  | none =>
    let wrong := (args.find? fun a => (integer? a).isNone).getD ""
    (1, m.complain (s!"seq: invalid floating point argument: '{wrong}'\n" ++
      "Try 'seq --help' for more information."))

/-- Writes the working directory. -/
def pwd : Utility := fun _ m => (0, m.say (m.currentPath ++ "\n"))

/-- Writes the variables that commands get. -/
def printVariables : Utility := fun _ m =>
  let given := m.frame.bindings.filter Variable.exported
  (0, m.say (String.join (given.map fun v => s!"{v.name}={v.value}\n")))

/-- Writes the variables of some names. -/
def printSome : Utility := fun args m =>
  if args.isEmpty then printVariables [] m
  else
    args.foldl (fun (status, m) name =>
      match m.frame.bindings.find? fun v => v.name = name && v.exported with
      | some v => (status, m.say (v.value ++ "\n"))
      | none => (1, m)) (0, m)

end Conformance.Shell
