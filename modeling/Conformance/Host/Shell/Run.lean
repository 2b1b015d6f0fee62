import Conformance.Host.Shell.Arithmetic
import Conformance.Host.Shell.Builtin

/-!
# Running shell scripts

Scripts run one command after another on the state of a shell. What is started without waiting
runs when somebody waits for it, or else when time passes.

* `expand` : the expansion of a word;
* `run` : the course of a script;
* `runCommand`, `runFile`, `runNative` : the course of a command, by name, file or program.
-/

namespace Conformance.Shell

open Host

/-- How long it takes to start a program, in microseconds. -/
def startTime : Nat := 1000

/-- How long a command of the shell takes, in microseconds. -/
def commandTime : Nat := 5

mutual

/-- The course of a script. The first argument bounds the number of steps. -/
def run : Nat → Script → Machine → Flow × Machine
  | 0, _, m => (.late, m)
  | fuel + 1, script, m =>
    if m.has 'n' then (.next, m)
    else match script with
    | .nothing => (.next, m.setStatus 0)
    | .simple line assignments words redirections =>
      let m := { m with frame := { m.frame with line } }
      match runSimple fuel assignments words redirections m with
      | (.next, m) => m.onward
      | r => r
    | .pipe left right =>
      let frame := m.frame
      let (inner, n) := m.capture
      let (flow, m) := run fuel left inner
      match flow.outside with
      | .next =>
        let input := m.buffers.getD n ""
        let m := { m with frame := { frame with input } }
        let (flow, m) := run fuel right m
        match flow.outside with
        | .next => (m.restore frame).onward
        | flow => (flow, m.restore frame)
      | flow => (flow, m.restore frame)
    | .negate body =>
      match run fuel body m.testing with
      | (.next, after) =>
        (.next, (after.testedAs m).setStatus (if after.frame.status = 0 then 1 else 0))
      | r => r
    | .both left right =>
      match run fuel left m.testing with
      | (.next, after) =>
        let after := after.testedAs m
        if after.frame.status = 0 then run fuel right after else (.next, after)
      | r => r
    | .either left right =>
      match run fuel left m.testing with
      | (.next, after) =>
        let after := after.testedAs m
        if after.frame.status = 0 then (.next, after) else run fuel right after
      | r => r
    | .sequence first .nothing => run fuel first m
    | .sequence first rest =>
      match run fuel first m with
      | (.next, m) => run fuel rest m
      | r => r
    | .background body =>
      let number := m.nextNumber
      let job : Job := ⟨number, m.clock, body, { m.frame with input := "" }⟩
      let frame := { m.frame with lastJob := some number }
      (.next, { m with started := m.started + 1, jobs := m.jobs ++ [job], frame }.setStatus 0)
    | .choice test yes no =>
      match run fuel test m.testing with
      | (.next, after) =>
        let after := after.testedAs m
        if after.frame.status = 0 then run fuel yes after else run fuel no after
      | r => r
    | .loop untilSuccess test body =>
      let (flow, after) := runLoop fuel untilSuccess test body 0 m.inLoop
      (flow, after.loopsAs m)
    | .each name words body =>
      let (flow, items, m) := match words with
        | some words => expandAll fuel words m
        | none => (.next, m.frame.arguments, m)
      match flow with
      | .next =>
        let (flow, after) := runEach fuel name items body (m.setStatus 0).inLoop
        (flow, after.loopsAs m)
      | flow => (flow, m)
    | .select subject branches =>
      match expand fuel (Word.protect subject) {} m with
      | (.next, f, m) => runSelect fuel (plainText f.joined) branches (m.setStatus 0)
      | (flow, _, m) => (flow, m)
    | .subshell body =>
      let (flow, inner) := run fuel body m
      match flow.outside with
      | .next => (inner.restore m.frame).onward
      | flow => (flow, inner.restore m.frame)
    | .define name body =>
      let functions := (name, body) :: m.frame.functions
      (.next, { m with frame := { m.frame with functions } }.setStatus 0)
    | .malformed line why =>
      let m := { m with frame := { m.frame with line } }
      m.fatal why
    | .redirected line body redirections =>
      let m := { m with frame := { m.frame with line } }
      match redirect fuel redirections m with
      | (.next, true, inner) =>
        let (flow, after) := run fuel body inner
        let streams := m.frame.streams
        let input := if redirections.any isInput then m.frame.input else after.frame.input
        (flow, { after with frame := { after.frame with streams, input } })
      | (flow, _, m) => (flow, m)

/-- Whether a redirection changes the input. -/
def isInput : Redirection → Bool
  | .mk stream _ _ => stream = 0

/-- A loop, with the status of the round before. -/
def runLoop : Nat → Bool → Script → Script → Nat → Machine → Flow × Machine
  | 0, _, _, _, _, m => (.late, m)
  | fuel + 1, untilSuccess, test, body, status, m =>
    match m.pass commandTime with
    | (.next, m) =>
      match run fuel test m.testing with
      | (.next, after) =>
        let m := after.testedAs m
        if (m.frame.status = 0) = !untilSuccess then
          match run fuel body m with
          | (.next, m) => runLoop fuel untilSuccess test body m.frame.status m
          | (.leave 0, m) => (.next, m.setStatus 0)
          | (.leave (n + 1), m) => (.leave n, m)
          | (.again 0, m) => runLoop fuel untilSuccess test body 0 m
          | (.again (n + 1), m) => (.again n, m)
          | r => r
        else (.next, m.setStatus status)
      | r => r
    | r => r

/-- A loop over words. -/
def runEach : Nat → String → List String → Script → Machine → Flow × Machine
  | 0, _, _, _, m => (.late, m)
  | _ + 1, _, [], _, m => (.next, m)
  | fuel + 1, name, item :: items, body, m =>
    match m.set name item with
    | .error why => m.fatal why
    | .ok m =>
      match run fuel body m with
      | (.next, m) => runEach fuel name items body m
      | (.leave 0, m) => (.next, m.setStatus 0)
      | (.leave (n + 1), m) => (.leave n, m)
      | (.again 0, m) => runEach fuel name items body m
      | (.again (n + 1), m) => (.again n, m)
      | r => r

/-- The branch that a text selects. -/
def runSelect : Nat → String → List (List Word × Script) → Machine → Flow × Machine
  | 0, _, _, m => (.late, m)
  | _ + 1, _, [], m => (.next, m)
  | fuel + 1, s, (patterns, body) :: branches, m =>
    match matchesAny fuel s patterns m with
    | (.next, true, m) => run fuel body m
    | (.next, false, m) => runSelect fuel s branches m
    | (flow, _, m) => (flow, m)

/-- Whether a text matches one of some patterns. -/
def matchesAny : Nat → String → List Word → Machine → Flow × Bool × Machine
  | 0, _, _, m => (.late, false, m)
  | _ + 1, _, [], m => (.next, false, m)
  | fuel + 1, s, w :: ws, m =>
    match expand fuel w {} m with
    | (.next, f, m) => if Mark.matches f.joined s then (.next, true, m) else matchesAny fuel s ws m
    | (flow, _, m) => (flow, false, m)

/-- The words that words expand to, patterns replaced by the names of files. -/
def expandAll : Nat → List Word → Machine → Flow × List String × Machine
  | 0, _, m => (.late, [], m)
  | _ + 1, [], m => (.next, [], m)
  | fuel + 1, w :: ws, m =>
    match expand fuel (w.atHome ((m.get? "HOME").getD "~")) {} m with
    | (.next, f, m) =>
      match expandAll fuel ws m with
      | (flow, rest, m) => (flow, f.toList.flatMap (globbed m) ++ rest, m)
    | (flow, _, m) => (flow, [], m)

/-- The expansion of a word, behind what is expanded already. -/
def expand : Nat → Word → Fields → Machine → Flow × Fields × Machine
  | 0, _, f, m => (.late, f, m)
  | _ + 1, [], f, m => (.next, f, m)
  | fuel + 1, part :: rest, f, m =>
    match part with
    | .text s quoted => expand fuel rest (f.put s quoted) m
    | .spread s => expand fuel rest (f.split m.separators s) m
    | .arithmetic expr quoted =>
      match expand fuel expr {} m with
      | (.next, inner, m) =>
        let text := plainText inner.joined
        match Arithmetic.evaluate m.value? text with
        | .ok (n, set) =>
          let m := set.foldr (fun e m => m.assign e.1 (toString e.2)) m
          expand fuel rest (f.add m (toString n) quoted) m
        | .error fault => (.exit, f, (m.complainHere (fault.message text)).setStatus 2)
      | (flow, _, m) => (flow, f, m)
    | .output script quoted =>
      let frame := m.frame
      let (inner, n) := m.capture
      let (flow, m) := run fuel script inner
      match flow.outside with
      | .next =>
        let s := withoutLineEnds (m.buffers.getD n "")
        let m := m.restore { frame with substituted := m.frame.status }
        expand fuel rest (f.add m s quoted) m
      | flow => (flow, f, m.restore frame)
    | .value name change quoted =>
      match expandValue fuel name change quoted f m with
      | (.next, f, m) => expand fuel rest f m
      | r => r

/-- The expansion of a variable. -/
def expandValue : Nat → String → Change → Bool → Fields → Machine → Flow × Fields × Machine
  | 0, _, _, _, f, m => (.late, f, m)
  | fuel + 1, name, change, quoted, f, m =>
    let value := m.value? name
    let missing := fun (orEmpty : Bool) => match value with
      | some s => orEmpty && s.isEmpty
      | none => true
    let plain :=
      if name = "@" && quoted then f.many m.frame.arguments
      else if (name = "@" || name = "*") && !quoted then
        m.frame.arguments.foldl (fun f s => f.cut.split m.separators s) f
      else
        match value with
        | some s => f.add m s quoted
        | none => if quoted then f.put "" true else f
    let pattern := fun (w : Word) (make : List Mark → String → String) =>
      match expand fuel w {} m with
      | (.next, p, m) => (.next, f.add m (make p.joined (value.getD "")) quoted, m)
      | (flow, _, m) => (flow, f, m)
    match change with
    | .keep =>
      if m.has 'u' && value.isNone && name ≠ "@" && name ≠ "*" then
        (.exit, f, (m.complainHere s!"{name}: parameter not set").setStatus 2)
      else (.next, plain, m)
    | .length => (.next, f.add m (toString (value.getD "").length) quoted, m)
    | .orElse orEmpty w =>
      if missing orEmpty then expand fuel (if quoted then w else Word.spread w) f m
      else (.next, plain, m)
    | .orAssign orEmpty w =>
      if missing orEmpty then
        match expand fuel w {} m with
        | (.next, g, m) =>
          let s := plainText g.joined
          (.next, f.add m s quoted, m.assign name s)
        | (flow, _, m) => (flow, f, m)
      else (.next, plain, m)
    | .instead orEmpty w =>
      if missing orEmpty then (.next, if quoted then f.put "" true else f, m)
      else expand fuel (if quoted then w else Word.spread w) f m
    | .require orEmpty w =>
      if missing orEmpty then
        match expand fuel w {} m with
        | (.next, g, m) =>
          let text := plainText g.joined
          let unset := if orEmpty then "parameter not set or null" else "parameter not set"
          let text := if text.isEmpty then unset else text
          (.exit, f, (m.complainHere s!"{name}: {text}").setStatus 2)
        | (flow, _, m) => (flow, f, m)
      else (.next, plain, m)
    | .refused => (.exit, f, (m.complainHere "Bad substitution").setStatus 2)
    | .dropStart longest w => pattern w (dropStart longest)
    | .dropEnd longest w => pattern w (dropEnd longest)

/-- Redirections, and whether all of them worked. -/
def redirect : Nat → List Redirection → Machine → Flow × Bool × Machine
  | 0, _, m => (.late, false, m)
  | _ + 1, [], m => (.next, true, m)
  | fuel + 1, .mk stream direction target :: rest, m =>
    let target := Word.atHome ((m.get? "HOME").getD "~") target
    match expand fuel (Word.protect target) {} m with
    | (.next, f, m) =>
      let name := plainText f.joined
      let failed := fun (verb : String) (e : Cause) =>
        let what := match e with
          | .os .notFound => if verb = "create" then "Directory nonexistent" else "No such file"
          | e => reason e
        (Flow.next, false, (m.complainHere s!"cannot {verb} {name}: {what}").setStatus 2)
      match direction with
      | .here => redirect fuel rest { m with frame := { m.frame with input := name } }
      | .input =>
        match m.readFile (pathOf name) none with
        | .ok input => redirect fuel rest { m with frame := { m.frame with input } }
        | .error e => failed "open" e
      | .same =>
        match (name.toNat?).bind fun n => m.frame.streams.lookup n with
        | some t => redirect fuel rest (m.direct stream t)
        | none =>
          if name = "-" then redirect fuel rest (m.close stream)
          else if name = "0" then redirect fuel rest m
          else (.next, false, (m.complainHere s!"{name}: Bad file descriptor").setStatus 2)
      | _ =>
        match m.openFile (pathOf name) (direction = .append) with
        | .ok (m, t) => redirect fuel rest (m.direct stream t)
        | .error e => failed "create" e
    | (flow, _, m) => (flow, false, m)

/-- A command with its assignments and redirections. -/
def runSimple : Nat → List (String × Word) → List Word → List Redirection → Machine →
    Flow × Machine
  | 0, _, _, _, m => (.late, m)
  | fuel + 1, assignments, words, redirections, m =>
    match expandAll fuel words { m with frame := { m.frame with substituted := 0 } } with
    | (.next, argv, m) =>
      let before := m.frame
      let isFixed := argv.head?.any fun c =>
        fixedCommands.contains c && (m.frame.functions.lookup c).isNone
      match redirect fuel redirections m with
      | (.next, true, m) =>
        match runAssignments fuel assignments m with
        | (.next, m) =>
          let names := assignments.map Prod.fst
          let shown := names.map fun name => s!"{name}={(m.get? name).getD default}"
          let m := m.trace before.streams (shown ++ argv)
          match argv with
          | [] =>
            let frame := { m.frame with streams := before.streams }
            { m with frame }.done m.frame.substituted
          | command :: args =>
            match m.pass commandTime with
            | (.next, m) =>
              let given := names.foldl Machine.giveOut m
              let (flow, after) := runCommand fuel command args given
              let streams := if command = "exec" && args.isEmpty then after.frame.streams
                else before.streams
              let input :=
                if redirections.any isInput then before.input else after.frame.input
              let after := { after with frame := { after.frame with streams, input } }
              let takeBack := fun (m : Machine) (name : String) =>
                m.takeBack name (before.bindings.find? fun v => v.name = name)
              (flow, if isFixed then after else names.foldl takeBack after)
            | r => r
        | r => r
      | (flow, _, m) =>
        let m := { m with frame := { m.frame with streams := before.streams } }
        (if isFixed && flow = .next then .exit else flow, m)
    | (flow, _, m) => (flow, m)

/-- Assignments. -/
def runAssignments : Nat → List (String × Word) → Machine → Flow × Machine
  | 0, _, m => (.late, m)
  | _ + 1, [], m => (.next, m)
  | fuel + 1, (name, w) :: rest, m =>
    match expand fuel (Word.protect (w.atHome ((m.get? "HOME").getD "~"))) {} m with
    | (.next, f, m) =>
      match m.set name (plainText f.joined) with
      | .ok m => runAssignments fuel rest m
      | .error why => m.fatal why
    | (flow, _, m) => (flow, m)

/-- A command by its name: one of the shell, or else a program. -/
def runCommand : Nat → String → List String → Machine → Flow × Machine
  | 0, _, _, m => (.late, m)
  | fuel + 1, command, args, m =>
    match m.frame.functions.lookup command with
    | some body => runFunction fuel body args m
    | none =>
      match controls.lookup command, builtins.lookup command with
      | some builtin, _ => builtin args m
      | none, some utility =>
        let (status, m) := utility args m
        m.done status
      | none, none =>
        if starters.contains command then runStarter fuel command args m
        else
          let number := m.nextNumber
          let inner := { m with started := m.started + 1, frame := { m.frame with number } }
          let (flow, after) := runFile fuel "" command args inner
          let after := after.restore { m.frame with input := after.frame.input }
          match flow with
          | .killed shell signal =>
            if shell = number then (.next, after.afterSignal signal)
            else (.killed shell signal, after)
          | flow => (flow, after)

/-- A command that was defined, with arguments and variables of its own. -/
def runFunction : Nat → Script → List String → Machine → Flow × Machine
  | 0, _, _, m => (.late, m)
  | fuel + 1, body, arguments, m =>
    match run fuel body { m with frame := { m.frame with arguments, saved := some [] } } with
    | (.killed shell signal, m) => (.killed shell signal, m)
    | (flow, after) =>
      let own := after.frame.saved.getD []
      let after := own.foldl (fun m e => m.takeBack e.1 e.2) after
      let frame :=
        { after.frame with arguments := m.frame.arguments, saved := m.frame.saved }
      (if flow = .back then .next else flow, { after with frame })

/-- A command of the shell that starts others. -/
def runStarter : Nat → String → List String → Machine → Flow × Machine
  | 0, _, _, m => (.late, m)
  | fuel + 1, command, args, m =>
    match command with
    | "." =>
      let file := args.headD ""
      match m.sourced file with
      | .error why => m.fatal s!".: {why}"
      | .ok text =>
        match runText fuel "" text m with
        | (.back, m) => (.next, m)
        | r => r
    | "kill" => runKill fuel args m
    | "wait" =>
      match runJobs fuel none m with
      | (.next, m) =>
        let m := m.struck.foldl (fun m s => m.afterSignal s.2) m
        let m := { m with struck := [] }
        match args with
        | [] => m.done 0
        | job :: _ =>
          match job.toNat? with
          | some n => m.done ((m.ended.lookup n).getD 127)
          | none => m.fault s!"wait: Illegal number: {job}"
      | r => r
    | "exec" =>
      match args with
      | [] => m.done 0
      | command :: args =>
        match runFile fuel "exec: " command args m with
        | (.next, m) => (.exit, m)
        | r => r
    | "eval" => runText fuel "eval: " (String.intercalate " " args) m
    | "command" =>
      match args with
      | [] => m.done 0
      | "-v" :: names => describeAll false (names.take 1) m
      | "-V" :: names => describeAll true (names.take 1) m
      | "-p" :: command :: args => runCommand fuel command args m
      | command :: args => runCommand fuel command args m
    | _ => describeAll true args m

/-- The script of a text. What is wrong with it is told behind `front`. -/
def runText : Nat → String → String → Machine → Flow × Machine
  | 0, _, _, m => (.late, m)
  | fuel + 1, front, text, m => run fuel (Script.parse front text) m

/-- A command that is a file. What is wrong with it is told behind `front`. -/
def runFile : Nat → String → String → List String → Machine → Flow × Machine
  | 0, _, _, _, m => (.late, m)
  | fuel + 1, front, command, args, m =>
    let loaded := do
      let path ← m.located command
      loadAs command m.files m.frame.directory true path args
    match loaded with
    | .ok program => runNative fuel program m
    | .error .permissionDenied =>
      (m.complainHere s!"{front}{command}: Permission denied").done 126
    | .error _ =>
      let why := if command.isEmpty then "Permission denied" else "not found"
      (m.complainHere s!"{front}{command}: {why}").done 127

/-- A program of the host. -/
def runNative : Nat → Program → Machine → Flow × Machine
  | 0, _, m => (.late, m)
  | fuel + 1, ⟨name, title, args⟩, m =>
    if shellNames.contains name then runShell fuel title args m
    else
      match m.pass startTime with
      | (.next, m) =>
        match name with
        | "sleep" =>
          let hint := "\nTry 'sleep --help' for more information."
          match args.mapM sleepTime? with
          | some [] => (m.complain ("sleep: missing operand" ++ hint)).done 1
          | some times =>
            let wake := m.clock + times.foldl (· + ·) 0
            match runJobs fuel (some wake) m with
            | (.next, m) =>
              let (flow, m) := m.pass (wake - m.clock)
              (flow, m.setStatus 0)
            | r => r
          | none =>
            let time := (args.find? fun a => (sleepTime? a).isNone).getD ""
            (m.complain (s!"sleep: invalid time interval '{time}'" ++ hint)).done 1
        | "env" =>
          let bare := args.head? = some "-i" || args.head? = some "-"
          let args := if bare then args.tail else args
          let bindings := if bare then [] else m.frame.bindings.filter Variable.exported
          let m := { m with frame := { m.frame with bindings } }
          let given := args.takeWhile fun a => a.contains '='
          let (_, m) := declare "env" Machine.giveOut given m
          match args.drop given.length with
          | [] => (printVariables [] m).2.done 0
          | command :: rest =>
            match m.located command with
            | .ok _ => runFile fuel "" command rest m
            | .error _ =>
              (m.complain s!"env: '{command}': No such file or directory").done 127
        | _ =>
          if wrappers.contains name && !args.isEmpty then
            runFile fuel "" (args.headD "") args.tail m
          else
          match (builtins ++ programs).lookup name with
          | some utility =>
            let (status, m) := utility args m
            (.next, m.setStatus status)
          | none => runCommand fuel name args m
      | r => r

/-- A shell that is started as a program. -/
def runShell : Nat → String → List String → Machine → Flow × Machine
  | 0, _, _, m => (.late, m)
  | fuel + 1, shell, args, m =>
    let options := args.takeWhile fun a => a.length > 1 && a.toList.head? == some '-'
    let letters := options.filter fun a => a ≠ "-c"
    let letters := letters.map fun a => String.ofList (a.toList.filter (· ≠ 'c'))
    let inner := fun (name text : String) (arguments : List String) =>
      let bindings := m.frame.bindings.filter Variable.exported
      let frame : Frame :=
        { name, arguments, bindings
          directory := m.frame.directory
          streams := m.frame.streams
          input := m.frame.input
          number := m.frame.number
          mask := m.frame.mask
          traps := m.frame.traps.filter fun t => t.2.isEmpty }
      let own := shellVariables.foldl (fun m v => m.assign v.1 v.2) { m with frame }
      let own := (own.assign "PWD" own.currentPath).giveOut "PWD"
      match readOptions letters, own.pass startTime with
      | .error why, (_, own) => (own.complain s!"{shell}: 0: {why}").done 2
      | .ok (changes, _), (.next, own) =>
        let (flow, after) := runText fuel "" text (own.withOptions changes)
        match flow.outside with
        | .next => runFarewell fuel after
        | flow => (flow, after)
      | _, r => r
    let isText := options.any fun a => a.contains 'c'
    match isText, args.drop options.length with
    | true, [] => (m.complain s!"{shell}: 0: -c requires an argument").done 2
    | true, [text] => inner shell text []
    | true, text :: name :: args => inner name text args
    | false, file :: args =>
      match m.readFile (pathOf file) none with
      | .ok text => inner file text args
      | .error _ => (m.complain s!"{shell}: 0: cannot open {file}: No such file").done 2
    | false, [] => inner shell m.frame.input []

/-- What a shell does at its end. -/
def runFarewell : Nat → Machine → Flow × Machine
  | 0, m => (.late, m)
  | fuel + 1, m =>
    match m.frame.traps.lookup 0 with
    | none => (.next, m)
    | some text =>
      let status := m.frame.status
      match runText fuel "" text { m with frame := { m.frame with traps := [] } } with
      | (.exit, m) => (.next, m)
      | (flow, m) => (flow.outside, m.setStatus status)

/-- Sends a signal to processes. -/
def runKill : Nat → List String → Machine → Flow × Machine
  | 0, _, m => (.late, m)
  | fuel + 1, args, m =>
    match killArguments args with
    | .error why => m.fault ("kill: " ++ why)
    | .ok (signal, targets) =>
      let own : Int := m.frame.number
      let harmless := harmlessSignals.contains signal
      if targets.any fun t => t = own || t = 0 || t = -own then
        match if harmless then none else m.frame.traps.lookup signal with
        | some text =>
          if signal = 9 then (.killed m.frame.number 9, m) else runText fuel "" text m
        | none =>
          if harmless then (.next, m.setStatus 0)
          else if stopSignals.contains signal then (.late, m)
          else (.killed m.frame.number signal, m)
      else
        match m.jobs.partition fun j => targets.contains (j.number : Int) with
        | ([], _) =>
          let outer := (targets.headD 0).toNat
          if firstNumber ≤ outer && outer < m.nextNumber && !(m.ended.lookup outer).isSome then
            if harmless then (.next, m.setStatus 0) else (.killed outer signal, m)
          else (.next, (m.complainHere "kill: No such process\n").setStatus 1)
        | (hit, jobs) =>
          let ended := hit.map (fun j => (j.number, 128 + signal)) ++ m.ended
          let struck := hit.map (fun j => (j.number, signal)) ++ m.struck
          (if harmless then m else { m with jobs, ended, struck }).done 0

/-- Runs jobs up to a time, or to their ends. Those that take longer go on later. -/
def runJobs : Nat → Option Nat → Machine → Flow × Machine
  | 0, _, m => (.late, m)
  | fuel + 1, limit, m =>
    match m.jobs with
    | [] => (.next, m.setStatus 0)
    | job :: rest =>
      let deadline := match limit, m.deadline with
        | some a, some b => some (min a b)
        | a, b => a <|> b
      let own := { m with frame := job.frame, clock := job.start, deadline, jobs := [] }
      match run fuel job.body own with
      | (.killed shell signal, after) =>
        (.killed shell signal, { after with frame := m.frame, deadline := m.deadline })
      | (flow, after) =>
        let others := { m with jobs := rest }
        let done := { after with
          frame := m.frame
          clock := max m.clock after.clock
          deadline := m.deadline
          jobs := rest
          ended := (job.number, after.frame.status) :: after.ended }
        if flow = .late && limit.isSome then
          match runJobs fuel limit others with
          | (flow, m) => (flow, { m with jobs := job :: m.jobs })
        else if flow = .late then (.late, done)
        else
          let clock := if limit.isSome then m.clock else done.clock
          runJobs fuel limit { done with clock }

end

end Conformance.Shell
