import Conformance.Host.Shell.Control
import Conformance.Host.Shell.Fields
import Conformance.Host.Shell.Parser
import Conformance.Host.Shell.Signal

/-!
# Commands of the shell

Commands that change the shell itself, and start nothing.

* `Builtin` : such a command;
* `setOptions`, `declare`, `describe` : what `set`, `export` and `type` do;
* `Machine.readLine`, `getopts` : variables from the input, and from options;
* `controls` : the commands by name.
-/

namespace Conformance.Shell

open Host

/-- A command that changes the shell: from its arguments and the state, how it goes on. -/
abbrev Builtin := List String → Machine → Flow × Machine

/-- Goes on with a status. -/
def Machine.done (m : Machine) (status : Nat) : Flow × Machine := (.next, m.setStatus status)

/-- Goes on after an error. -/
def Machine.fault (m : Machine) (why : String) : Flow × Machine := (m.complainHere why).done 2

/-- Ends the shell with an error. -/
def Machine.fatal (m : Machine) (why : String) : Flow × Machine :=
  (.exit, (m.complainHere why).setStatus 2)

/-- Goes on with the number that is the first argument, or with a default. -/
def withNumber (name : String) (default : Nat) (args : List String) (m : Machine)
    (go : Nat → Flow × Machine) : Flow × Machine :=
  match args with
  | [] => go default
  | a :: _ =>
    match a.toNat? with
    | some n => go n
    | none => m.fatal s!"{name}: Illegal number: {a}"

/-! ## Options -/

/-- The options that arguments turn on and off, and the arguments behind them, if there are any. -/
def readOptions : List String → Except String (List (Char × Bool) × Option (List String))
  | [] => .ok ([], none)
  | "--" :: rest => .ok ([], some rest)
  | "-" :: rest => .ok ([('x', false), ('v', false)], if rest.isEmpty then none else some rest)
  | arg :: rest =>
    let (sign, letters) := match arg.toList with
      | c :: letters => (c, letters)
      | [] => (' ', [])
    let known := fun (c : Char) => optionNames.any fun o => o.1 = c
    let plain := (letters.filter (· ≠ 'o')).map fun c => (c, sign == '-')
    if (sign ≠ '-' && sign ≠ '+') || letters.isEmpty then .ok ([], some (arg :: rest))
    else
      match letters.find? fun c => c ≠ 'o' && !known c with
      | some c => .error s!"Illegal option -{c}"
      | none =>
        if letters.contains 'o' then
          match rest with
          | [] => .ok (plain, none)
          | name :: rest =>
            match optionNames.find? fun o => o.2 = name with
            | none => .error s!"Illegal option -o {name}"
            | some o => (readOptions rest).map fun r => (plain ++ (o.1, sign == '-') :: r.1, r.2)
        else (readOptions rest).map fun r => (plain ++ r.1, r.2)

/-- The state with options turned on and off. -/
def Machine.withOptions (m : Machine) (changes : List (Char × Bool)) : Machine :=
  let options := changes.foldl (fun options c =>
    let others := options.filter (· ≠ c.1)
    if c.2 then c.1 :: others else others) m.frame.options
  { m with frame := { m.frame with options } }

/-- Sets options and arguments. -/
def setOptions : Builtin := fun args m =>
  match readOptions args with
  | .error why => m.fatal ("set: " ++ why)
  | .ok (changes, arguments) =>
    let m := m.withOptions changes
    let frame := match arguments with
      | some arguments => { m.frame with arguments, optionOffset := none }
      | none => m.frame
    { m with frame }.done 0

/-! ## Variables -/

/-- Sets a variable, if that is possible. -/
def Machine.set (m : Machine) (name value : String) : Except String Machine :=
  if !isName name.toList then .error s!"{name}: bad variable name"
  else if m.frame.fixed.contains name then .error s!"{name}: is read only"
  else .ok (m.assign name value)

/-- Sets variables that have values, and marks all of them. -/
def declare (name : String) (mark : Machine → String → Machine) : Builtin := fun args m =>
  let one := fun (m : Machine) (a : String) =>
    let written := String.ofList (a.toList.takeWhile (· ≠ '='))
    if !isName written.toList then Except.error s!"{written}: bad variable name"
    else if a.contains '=' then
      (m.set written (a.drop (written.length + 1)).toString).map fun m => mark m written
    else .ok (mark m written)
  match (args.filter fun a => a ≠ "-p").foldlM one m with
  | .ok m => m.done 0
  | .error why => m.fatal s!"{name}: {why}"

/-- The state in which a variable cannot be set any more. -/
def Machine.fix (m : Machine) (name : String) : Machine :=
  { m with frame := { m.frame with fixed := name :: m.frame.fixed } }

/-- The state in which a variable is one of the command that is running. -/
def Machine.own (m : Machine) (name : String) : Machine :=
  match m.frame.saved with
  | some saved =>
    if (saved.lookup name).isSome then m
    else
      let old := m.frame.bindings.find? fun v => v.name = name
      { m with frame := { m.frame with saved := some ((name, old) :: saved) } }
  | none => m

/-- Variables of a command that was defined. -/
def local_ : Builtin := fun args m =>
  if m.frame.saved.isNone then m.fatal "local: not in a function"
  else
    let names := args.map fun a => String.ofList (a.toList.takeWhile (· ≠ '='))
    declare "local" (fun m _ => m) args (names.foldl Machine.own m)

/-- Removes variables, or commands that were defined. -/
def unset : Builtin := fun args m =>
  match args with
  | "-f" :: names =>
    let functions := m.frame.functions.filter fun f => !names.contains f.1
    { m with frame := { m.frame with functions } }.done 0
  | _ =>
    let names := if args.head? = some "-v" then args.tail else args
    match names.find? m.frame.fixed.contains with
    | some name => m.fatal s!"unset: {name}: is read only"
    | none => (names.foldl Machine.unassign m).done 0

/-- The words of a line for some variables; the last gets the rest of the line. A separator that is
no blank ends a word even if it is empty. -/
def lineFields (separators : List Char) : Nat → List Char → List (List Char)
  | 0, _ => []
  | n + 1, cs =>
    let isBlank := fun (c : Char) => separators.contains c && c.isWhitespace
    let cs := cs.dropWhile isBlank
    if n = 0 then [(cs.reverse.dropWhile isBlank).reverse]
    else
      let word := cs.takeWhile fun c => !separators.contains c
      let rest := (cs.drop word.length).dropWhile isBlank
      let rest := match rest with
        | c :: others => if separators.contains c then others else rest
        | [] => []
      word :: lineFields separators n rest

/-- The characters up to a line end, what follows, and whether there is a line end. -/
def takeLine (raw : Bool) : List Char → List Char × List Char × Bool
  | [] => ([], [], false)
  | '\n' :: rest => ([], rest, true)
  | '\\' :: c :: rest =>
    if raw then
      let (line, rest, ended) := takeLine raw (c :: rest)
      ('\\' :: line, rest, ended)
    else
      let (line, rest, ended) := takeLine raw rest
      (if c = '\n' then line else c :: line, rest, ended)
  | c :: rest =>
    let (line, rest, ended) := takeLine raw rest
    (c :: line, rest, ended)

/-- Variables from the words of the next line of the input. -/
def readLineInto : Builtin := fun args m =>
  let raw := args.head? = some "-r"
  let names := if raw then args.tail else args
  let (line, rest, ended) := takeLine raw m.frame.input.toList
  let m := { m with frame := { m.frame with input := String.ofList rest } }
  let fields := lineFields m.separators.toList names.length line
  let set := (names.zip fields).foldlM fun (m : Machine) e => m.set e.1 (String.ofList e.2)
  if names.isEmpty then m.fault "read: arg count"
  else
    match set m with
    | .ok m => m.done (if ended then 0 else 1)
    | .error why => m.fault ("read: " ++ why)

/-- The next of the options that arguments have. A letter with a colon behind it has a value. -/
def getopts : Builtin := fun args m =>
  match args with
  | letters :: name :: given =>
    let words := if given.isEmpty then m.frame.arguments else given
    let index := max 1 ((((m.get? "OPTIND").getD "1").toNat?).getD 1)
    let open_ := m.frame.optionOffset.bind fun offset =>
      let cs := (words.getD (index - 2) "").toList
      if index ≤ 1 || cs.length ≤ offset then none else some (cs.drop offset)
    let word := words.getD (index - 1) ""
    let next := match open_ with
      | some cs => some (cs, index)
      | none =>
        match word.toList with
        | '-' :: c :: cs => if word = "--" then none else some (c :: cs, index + 1)
        | _ => none
    let finish := fun (m : Machine) (status index : Nat) (letter : Char) (rest : List Char) =>
      let length := (words.getD (index - 2) "").length
      let optionOffset := if rest.isEmpty then none else some (length - rest.length)
      let m := (m.assign "OPTIND" (toString index)).assign name (String.singleton letter)
      { m with frame := { m.frame with optionOffset } }.done status
    let silent := letters.toList.head? = some ':'
    match next with
    | some (c :: rest, index) =>
      let behind := (letters.toList.dropWhile (· ≠ c)).drop 1
      let failed := fun (why : String) (mark : Char) =>
        if silent then finish (m.assign "OPTARG" (String.singleton c)) 0 index mark rest
        else finish ((m.complain why).unassign "OPTARG") 0 index '?' rest
      if c = ':' || !letters.toList.contains c then failed s!"Illegal option -{c}" '?'
      else if behind.head? = some ':' then
        if !rest.isEmpty then finish (m.assign "OPTARG" (String.ofList rest)) 0 index c []
        else
          match words[index - 1]? with
          | some value => finish (m.assign "OPTARG" value) 0 (index + 1) c []
          | none => failed s!"No arg for -{c} option" ':'
      else finish (m.assign "OPTARG" "") 0 index c rest
    | _ => finish m 1 (if word = "--" then index + 1 else index) '?' []
  | _ => m.fatal "getopts: Usage: getopts optstring var [arg]"

/-! ## Directories -/

/-- Goes to a directory, or back to the one before. -/
def cd : Builtin := fun args m =>
  let args := args.filter fun a => a ≠ "-P" && a ≠ "-L"
  let target := match args with
    | [] => (m.get? "HOME").getD ""
    | a :: _ => if a = "-" then (m.get? "OLDPWD").getD "" else a
  let before := m.currentPath
  let failed := m.fault s!"cd: can't cd to {target}"
  match m.files.resolve m.frame.directory true (pathOf target) with
  | .ok loc =>
    if m.files.isDirectoryAt loc then
      let m := { m with frame := { m.frame with directory := loc } }
      let m := ((m.assign "OLDPWD" before).giveOut "OLDPWD").assign "PWD" m.currentPath
      (if args.head? = some "-" then m.say (m.currentPath ++ "\n") else m).done 0
    else failed
  | .error _ => failed

/-- Tells or sets the permissions that new files do not get. -/
def umask : Builtin := fun args m =>
  match args with
  | [] => (m.say (padded 8 4 m.frame.mask ++ "\n")).done 0
  | "-S" :: _ =>
    let rights := fun (n : Nat) =>
      let kept := 7 - n % 8
      (if kept / 4 % 2 = 1 then "r" else "") ++ (if kept / 2 % 2 = 1 then "w" else "") ++
        (if kept % 2 = 1 then "x" else "")
    let of := fun (n : Nat) => rights (m.frame.mask / n)
    (m.say s!"u={of 64},g={of 8},o={of 1}\n").done 0
  | mode :: _ =>
    if mode.toList.all isOctal then
      { m with frame := { m.frame with mask := ofDigits 8 mode.toList } }.done 0
    else if mode.contains '=' || mode.contains '+' || mode.contains '-' then m.done 0
    else m.fatal s!"umask: Illegal mode: {mode}"

/-! ## Signals -/

/-- The number of a signal, or zero for the end of the shell. -/
def trapSignal? (s : String) : Option Nat := if s.toUpper = "EXIT" then some 0 else signal? s

/-- The name of a signal, or of the end of the shell. -/
def trapName (n : Nat) : String :=
  if n = 0 then "EXIT"
  else ((signalNames.find? fun e => e.2 = n).map Prod.fst).getD (toString n)

/-- Tells or sets what is done on signals. -/
def trap : Builtin := fun args m =>
  let own := m.frame.traps.mergeSort fun a b => a.1 ≤ b.1
  let set := fun (signals : List String) (action : Option String) =>
    match signals.find? fun s => (trapSignal? s).isNone with
    | some s => (m.complain s!"trap: {s}: bad trap").done 1
    | none =>
      let numbers := signals.filterMap trapSignal?
      let others := m.frame.traps.filter fun t => !numbers.contains t.1
      let traps := match action with
        | some action => numbers.map (fun n => (n, action)) ++ others
        | none => others
      { m with frame := { m.frame with traps } }.done 0
  match args with
  | [] =>
    let line := fun (t : Nat × String) => s!"trap -- '{t.2}' {trapName t.1}\n"
    (m.say (String.join (own.map line))).done 0
  | "--" :: action :: signals => set signals (if action = "-" then none else some action)
  | [signal] => set [signal] none
  | "-" :: signals => set signals none
  | action :: signals => set signals (some action)

/-! ## Control -/

/-- Ends the shell. -/
def exit : Builtin := fun args m =>
  withNumber "exit" m.frame.status args m fun n => (.exit, m.setStatus (n % 256))

/-- Leaves a loop, or loops. -/
def leaveLoops (name : String) (make : Nat → Flow) : Builtin := fun args m =>
  withNumber name 1 args m fun n =>
    if n = 0 then m.fatal s!"{name}: Illegal number: 0"
    else if m.frame.loops = 0 then m.done 0
    else (make (min n m.frame.loops - 1), m.setStatus 0)

/-- Leaves a command that was defined. -/
def return_ : Builtin := fun args m =>
  withNumber "return" m.frame.status args m fun n => (.back, m.setStatus n)

/-- Drops arguments. -/
def shift : Builtin := fun args m =>
  withNumber "shift" 1 args m fun n =>
    if n > m.frame.arguments.length then m.fatal "shift: can't shift that many"
    else
      let arguments := m.frame.arguments.drop n
      { m with frame := { m.frame with arguments, optionOffset := none } }.done 0

/-- A test in brackets. -/
def bracket : Builtin := fun args m =>
  if args.getLast? = some "]" then
    let (status, m) := runTest "[" args.dropLast m
    m.done status
  else m.fault "[: missing ]"

/-- The commands of the shell that change it, and start nothing. -/
def controls : List (String × Builtin) :=
  [("exit", exit), ("break", leaveLoops "break" .leave), ("continue", leaveLoops "continue" .again),
    ("return", return_), ("[", bracket), ("cd", cd), ("shift", shift), ("set", setOptions),
    ("unset", unset), ("export", declare "export" Machine.giveOut),
    ("readonly", declare "readonly" Machine.fix), ("local", local_), ("trap", trap),
    ("umask", umask), ("ulimit", fun _ m => m.done 0), ("times", fun _ m => m.done 0),
    ("hash", fun _ m => m.done 0), ("alias", fun _ m => m.done 0),
    ("unalias", fun _ m => m.done 0), ("jobs", fun _ m => m.done 0), ("read", readLineInto),
    ("getopts", getopts)]

/-- The commands of the shell that start others. -/
def starters : List String := [".", "kill", "wait", "exec", "eval", "command", "type"]

/-- Whether a name is one of a command of the shell. -/
def isBuiltin (name : String) : Bool :=
  (controls.lookup name).isSome || (builtins.lookup name).isSome || starters.contains name

/-- What a name stands for as a command: the name itself or a path, and a description. -/
def describe? (m : Machine) (name : String) : Option (String × String) :=
  if keywords.contains name then some (name, "is a shell keyword")
  else if (m.frame.functions.lookup name).isSome then some (name, "is a shell function")
  else if fixedCommands.contains name then some (name, "is a special shell builtin")
  else if isBuiltin name then some (name, "is a shell builtin")
  else
    match m.located name with
    | .ok path =>
      if (Host.startable m.files m.frame.directory path).toBool then some (path, s!"is {path}")
      else none
    | .error _ => none

/-- Tells what names stand for, in words or by path. -/
def describeAll (inWords : Bool) : Builtin := fun names m =>
  let tell := fun (acc : Nat × Machine) (name : String) =>
    let (status, m) := acc
    match describe? m name with
    | some (short, words) =>
      (status, m.say ((if inWords then s!"{name} {words}" else short) ++ "\n"))
    | none => (127, if inWords then m.say s!"{name}: not found\n" else m)
  let (status, m) := names.foldl tell (0, m)
  m.done status

end Conformance.Shell
