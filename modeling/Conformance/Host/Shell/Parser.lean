import Conformance.Host.Shell.Source

/-!
# Except Refusal (shell × Source) scripts

* `readWord`, `readList` : a word, and a sequence of commands;
* `Script.parse` : the script of a text. What cannot be read is its last command.
-/

namespace Conformance.Shell

/-- The words that name commands for which no other can be defined. -/
def fixedCommands : List String :=
  ["break", "continue", "return", "exit", "eval", "exec", "export", "readonly", "set", "shift",
    "times", "trap", "unset", ".", ":"]

/-- Whether characters can be a word that is no name. -/
def isBareWord (cs : List Char) : Bool :=
  !cs.isEmpty && cs.all fun c => !"$\x60\"'\\=".toList.contains c

/-- Whether a word can be the number of a stream, or a minus sign. -/
def isStream : Word → Bool
  | [.text s _] => s = "-" || s.toList.all Char.isDigit
  | _ => true

mutual

/-- The parts of a word up to what ends it. -/
def readWord (place : Place) : Nat → Source → Except Refusal (Word × Source)
  | 0, src => src.unexpected
  | fuel + 1, src =>
    match src.rest with
    | [] =>
      match place.missing? with
      | some why => src.refused why
      | none => .ok ([], src)
    | c :: rest =>
      if place.ends c then .ok ([], src)
      else if c = '\\' then
        match rest with
        | '\n' :: _ => readWord place fuel (src.newLine 2)
        | e :: _ =>
          let taken := if place.escapes e then String.singleton e else String.ofList [c, e]
          do
            let (parts, src) ← readWord place fuel (src.drop 2)
            return (addText taken true parts, src)
        | [] => .ok ([.text "\\" true], src.drop 1)
      else if c = '\'' && place.takesSingle then do
        let inner := rest.takeWhile (· != '\'')
        match rest.drop inner.length with
        | [] => (src.behind inner []).refused "Unterminated quoted string"
        | _ :: rest =>
          let (parts, src) ← readWord place fuel (src.behind inner rest)
          return (.text (String.ofList inner) true :: parts, src)
      else if c = '"' && place ≠ .document then do
        let (inner, src) ← readWord .quotes fuel (src.drop 1)
        let inner := if inner.isEmpty then [.text "" true] else inner
        let (parts, src) ← readWord place fuel (src.drop 1)
        return (inner ++ parts, src)
      else if c = '$' then do
        let (part, src) ← readDollar place.quoted fuel (src.drop 1)
        let (parts, src) ← readWord place fuel src
        return (part :: parts, src)
      else if c = '\x60' then do
        match backquoted? rest with
        | none => (src.behind rest []).refused "EOF in backquote substitution"
        | some (inner, rest) =>
          let (script, _) ← readList true fuel { rest := inner }
          let (parts, src) ← readWord place fuel (src.behind inner rest)
          return (.output script place.quoted :: parts, src)
      else do
        let next := if c = '\n' then src.newLine 1 else src.drop 1
        let (parts, src) ← readWord place fuel next
        return (addText (String.singleton c) place.quoted parts, src)

/-- The part that a dollar sign starts. -/
def readDollar (quoted : Bool) : Nat → Source → Except Refusal (Part × Source)
  | 0, src => src.unexpected
  | fuel + 1, src =>
    match src.rest with
    | '(' :: '(' :: rest =>
      match bracketed? 0 rest with
      | none => (src.behind rest []).refused "Missing '))'"
      | some (inner, rest) => do
        let (expr, _) ← readWord .whole fuel { rest := inner, line := src.line }
        return (.arithmetic expr quoted, src.behind inner rest)
    | '(' :: _ => do
      let (script, src) ← readList true fuel (src.drop 1)
      return (.output script quoted, ← src.closeBracket)
    | '\x7b' :: '#' :: rest =>
      let name := match rest with
        | '@' :: _ => ['@']
        | '*' :: _ => ['*']
        | _ => rest.takeWhile isNameChar
      match rest.drop name.length with
      | '\x7d' :: _ =>
        if name.isEmpty then .ok (.value "#" .keep quoted, src.drop 3)
        else .ok (.value (String.ofList name) .length quoted, src.drop (3 + name.length))
      | _ => readRefused quoted (src.drop 2)
    | '\x7b' :: rest =>
      let name := match rest with
        | c :: _ =>
          if c.isDigit then rest.takeWhile Char.isDigit
          else if specialNames.contains c then [c]
          else rest.takeWhile isNameChar
        | [] => []
      if name.isEmpty then readRefused quoted (src.drop 1)
      else do
        let (change, next) ← readChange quoted fuel (src.drop (1 + name.length))
        if next.startsWith "\x7d" then
          return (.value (String.ofList name) change quoted, next.drop 1)
        else readRefused quoted next
    | c :: rest =>
      if specialNames.contains c then .ok (.value (String.singleton c) .keep quoted, src.drop 1)
      else if isNameChar c then
        let name := c :: rest.takeWhile isNameChar
        .ok (.value (String.ofList name) .keep quoted, src.drop name.length)
      else .ok (.text "$" quoted, src)
    | [] => .ok (.text "$" quoted, src)

/-- What is done to the value of a variable, as its braces say. -/
def readChange (quoted : Bool) : Nat → Source → Except Refusal (Change × Source)
  | 0, src => src.unexpected
  | fuel + 1, src =>
    let word := fun (n : Nat) (make : Word → Change) => do
      let (w, src) ← readWord (.braces quoted) fuel (src.drop n)
      return (make w, src)
    let pattern := fun (n : Nat) (make : Word → Change) => do
      let (w, src) ← readWord (.braces false) fuel (src.drop n)
      return (make w, src)
    match src.rest with
    | ':' :: '-' :: _ => word 2 (.orElse true)
    | '-' :: _ => word 1 (.orElse false)
    | ':' :: '=' :: _ => word 2 (.orAssign true)
    | '=' :: _ => word 1 (.orAssign false)
    | ':' :: '+' :: _ => word 2 (.instead true)
    | '+' :: _ => word 1 (.instead false)
    | ':' :: '?' :: _ => word 2 (.require true)
    | '?' :: _ => word 1 (.require false)
    | '#' :: '#' :: _ => pattern 2 (.dropStart true)
    | '#' :: _ => pattern 1 (.dropStart false)
    | '%' :: '%' :: _ => pattern 2 (.dropEnd true)
    | '%' :: _ => pattern 1 (.dropEnd false)
    | _ => .ok (.keep, src)

/-- The rest of braces without a meaning. -/
def readRefused (quoted : Bool) (src : Source) : Except Refusal (Part × Source) :=
  let skipped := src.rest.takeWhile (· != '\x7d')
  match src.rest.drop skipped.length with
  | [] => (src.behind skipped []).refused (((Place.braces quoted).missing?).getD "")
  | _ :: rest => .ok (.value "" .refused quoted, src.behind skipped rest)

/-- A sequence of commands, up to something that ends it. Nothing need stand there where `optional`
says so. -/
def readList (optional : Bool) : Nat → Source → Except Refusal (Script × Source)
  | 0, src => src.unexpected
  | fuel + 1, src =>
    let src := src.lines
    if src.rest.isEmpty || (optional && src.atCloser) then .ok (.nothing, src)
    else do
      let (first, src) ← readAndOr fuel src
      let src := src.blanks
      match src.rest with
      | '&' :: _ =>
        let (rest, src) ← readList true fuel (src.drop 1)
        return (.sequence (.background first) rest, src)
      | ';' :: ';' :: _ => .ok (first, src)
      | ';' :: _ =>
        let (rest, src) ← readList true fuel (src.drop 1)
        return (.sequence first rest, src)
      | '\n' :: _ =>
        let (rest, src) ← readList true fuel src
        return (.sequence first rest, src)
      | _ => .ok (first, src)

/-- Commands that depend on each other's success. -/
def readAndOr : Nat → Source → Except Refusal (Script × Source)
  | 0, src => src.unexpected
  | fuel + 1, src => do
    let (first, src) ← readPipeline fuel src
    readAndOrRest fuel first src

/-- The rest of commands that depend on each other's success. -/
def readAndOrRest : Nat → Script → Source → Except Refusal (Script × Source)
  | 0, _, src => src.unexpected
  | fuel + 1, first, src =>
    let src := src.blanks
    if src.startsWith "&&" then do
      let (second, src) ← readPipeline fuel (src.drop 2).lines
      readAndOrRest fuel (.both first second) src
    else if src.startsWith "||" then do
      let (second, src) ← readPipeline fuel (src.drop 2).lines
      readAndOrRest fuel (.either first second) src
    else .ok (first, src)

/-- A pipe, whose success may count as a failure. -/
def readPipeline : Nat → Source → Except Refusal (Script × Source)
  | 0, src => src.unexpected
  | fuel + 1, src =>
    let src := src.blanks
    if src.peekWord = "!" then do
      let (body, src) ← readPipe fuel (src.drop 1)
      return (.negate body, src)
    else readPipe fuel src

/-- Commands whose outputs are the inputs of the next. -/
def readPipe : Nat → Source → Except Refusal (Script × Source)
  | 0, src => src.unexpected
  | fuel + 1, src => do
    let (first, src) ← readCommand fuel src.blanks
    let src := src.blanks
    if src.startsWith "|" && !src.startsWith "||" then do
      let (rest, src) ← readPipe fuel (src.drop 1).lines
      return (.pipe first rest, src)
    else return (first, src)

/-- A single command. -/
def readCommand : Nat → Source → Except Refusal (Script × Source)
  | 0, src => src.unexpected
  | fuel + 1, src => do
    match ← readCompound fuel src with
    | some (body, src) =>
      let (redirections, src) ← readRedirections fuel src
      let line := src.line
      return (if redirections.isEmpty then body else .redirected line body redirections, src)
    | none => readSimple fuel src.line src

/-- A command that is made of others, if one comes next. -/
def readCompound : Nat → Source → Except Refusal (Option (Script × Source))
  | 0, src => src.unexpected
  | fuel + 1, src =>
    if src.startsWith "(" then do
      let (body, src) ← readList false fuel (src.drop 1)
      return some (.subshell body, ← src.closeBracket)
    else
      match src.peekWord with
      | "\x7b" => do
        let (body, src) ← readList false fuel (src.drop 1)
        return some (body, ← src.close "\x7d")
      | "if" => (readChoice fuel (src.drop 2)).map some
      | "while" => (readLoop fuel false (src.drop 5)).map some
      | "until" => (readLoop fuel true (src.drop 5)).map some
      | "for" => (readEach fuel (src.drop 3)).map some
      | "case" => (readSelect fuel (src.drop 4)).map some
      | name =>
        let after := (src.drop name.length).blanks
        if keywords.contains name then src.unexpected
        else if isBareWord name.toList && after.startsWith "(" then do
          let src ← (after.drop 1).closeBracket
          if !isName name.toList || fixedCommands.contains name then
            src.refused "Bad function name"
          else
            let (body, src) ← readCommand fuel src.lines
            return some (.define name body, src)
        else return none

/-- A test and what depends on it, behind its first word. -/
def readChoice : Nat → Source → Except Refusal (Script × Source)
  | 0, src => src.unexpected
  | fuel + 1, src => do
    let (test, src) ← readList false fuel src
    let (yes, src) ← readList false fuel (← src.close "then")
    match src.peekWord with
    | "elif" =>
      let (no, src) ← readChoice fuel (src.drop 4)
      return (.choice test yes no, src)
    | "else" =>
      let (no, src) ← readList false fuel (src.drop 4)
      return (.choice test yes no, ← src.close "fi")
    | _ => return (.choice test yes .nothing, ← src.close "fi")

/-- A loop, behind its first word. -/
def readLoop : Nat → Bool → Source → Except Refusal (Script × Source)
  | 0, _, src => src.unexpected
  | fuel + 1, untilSuccess, src => do
    let (test, src) ← readList false fuel src
    let (body, src) ← readList false fuel (← src.close "do")
    return (.loop untilSuccess test body, ← src.close "done")

/-- A loop over words, behind its first word. -/
def readEach : Nat → Source → Except Refusal (Script × Source)
  | 0, src => src.unexpected
  | fuel + 1, src => do
    let src := src.blanks
    let name := src.peekWord
    if !isName name.toList then src.refused "Bad for loop variable"
    else
      let src := (src.drop name.length).lines
      if src.peekWord = "in" then
        let (words, src) ← readWords fuel (src.drop 2)
        let src := src.blanks
        match src.rest with
        | '\n' :: _ => readBody fuel name (some words) src
        | ';' :: ';' :: _ => src.unexpected
        | ';' :: _ => readBody fuel name (some words) (src.drop 1)
        | _ => src.unexpected
      else readBody fuel name none (if src.startsWith ";" then src.drop 1 else src)

/-- The rest of a loop over words, behind them. -/
def readBody : Nat → String → Option (List Word) → Source →
    Except Refusal (Script × Source)
  | 0, _, _, src => src.unexpected
  | fuel + 1, name, words, src => do
    let (body, src) ← readList false fuel (← src.lines.close "do")
    return (.each name words body, ← src.close "done")

/-- Words up to something that ends the last one for good. -/
def readWords : Nat → Source → Except Refusal (List Word × Source)
  | 0, src => src.unexpected
  | fuel + 1, src => do
    let src := src.blanks
    let (first, next) ← readWord .plain fuel src
    if first.isEmpty then return ([], src)
    else
      let (rest, src) ← readWords fuel next
      return (first :: rest, src)

/-- Branches by patterns, behind the first word. -/
def readSelect : Nat → Source → Except Refusal (Script × Source)
  | 0, src => src.unexpected
  | fuel + 1, src => do
    let src := src.blanks
    let (subject, next) ← readWord .plain fuel src
    if subject.isEmpty then src.lacks "word"
    else
      let (branches, src) ← readBranches fuel (← next.lines.close "in")
      return (.select subject branches, ← src.close "esac")

/-- Branches by patterns. -/
def readBranches : Nat → Source → Except Refusal (List (List Word × Script) × Source)
  | 0, src => src.unexpected
  | fuel + 1, src => do
    let src := src.lines
    if src.peekWord = "esac" then return ([], src)
    else
      let (patterns, src) ← readPatterns fuel (if src.startsWith "(" then src.drop 1 else src)
      let (body, src) ← readList true fuel src
      let src := src.lines
      if src.startsWith ";;" then
        let (rest, src) ← readBranches fuel (src.drop 2)
        return ((patterns, body) :: rest, src)
      else if src.peekWord = "esac" then return ([(patterns, body)], src)
      else src.lacks ";;"

/-- The patterns of a branch, and the bracket behind them. -/
def readPatterns : Nat → Source → Except Refusal (List Word × Source)
  | 0, src => src.unexpected
  | fuel + 1, src => do
    let (first, src) ← readWord .plain fuel src.blanks
    let src := src.blanks
    if src.startsWith "|" then
      let (rest, src) ← readPatterns fuel (src.drop 1)
      return (first :: rest, src)
    else return ([first], ← src.closeBracket)

/-- A redirection, if one comes next. -/
def readRedirection : Nat → Source → Except Refusal (Option (Redirection × Source))
  | 0, src => src.unexpected
  | fuel + 1, src =>
    let digits := src.rest.takeWhile Char.isDigit
    let here := src.drop digits.length
    let stream := fun (default : Nat) =>
      if digits.isEmpty then default else Nat.ofDigitChars 10 digits 0
    let make := fun (n default : Nat) (d : Direction) => do
      let next := (here.drop n).blanks
      let (target, src) ← readWord .plain fuel next
      if target.isEmpty then next.unexpected
      else if d = .same && !isStream target then src.refused "Bad fd number"
      else return some (Redirection.mk (stream default) d target, src)
    match here.rest with
    | '>' :: '>' :: _ => make 2 1 .append
    | '>' :: '&' :: _ => make 2 1 .same
    | '>' :: '|' :: _ => make 2 1 .output
    | '>' :: _ => make 1 1 .output
    | '<' :: '&' :: _ => make 2 0 .same
    | '<' :: '<' :: next => do
      let dedent := next.head? == some '-'
      let next := (here.drop (if dedent then 3 else 2)).blanks
      let (target, src) ← readWord .plain fuel next
      if target.isEmpty then next.unexpected
      else
        let (delimiter, literal) := Word.delimiter target
        let line := src.rest.takeWhile (· != '\n')
        let (body, rest) := documentLines delimiter.toList dedent (src.rest.length + 1)
          (src.rest.drop (line.length + 1))
        let (content, _) ←
          if literal then Except.ok ([.text (String.ofList body) true], src)
          else readWord .document fuel { rest := body, line := src.line + src.ahead + 1 }
        let left := line ++ '\n' :: rest
        let ahead := src.ahead + (src.rest.count '\n' - left.count '\n')
        return some (Redirection.mk (stream 0) .here content, { src with rest := left, ahead })
    | '<' :: _ => make 1 0 .input
    | _ => .ok none

/-- Redirections. -/
def readRedirections : Nat → Source → Except Refusal (List Redirection × Source)
  | 0, src => src.unexpected
  | fuel + 1, src => do
    match ← readRedirection fuel src.blanks with
    | none => return ([], src)
    | some (first, src) =>
      let (rest, src) ← readRedirections fuel src
      return (first :: rest, src)

/-- A command with its arguments. -/
def readSimple : Nat → Nat → Source → Except Refusal (Script × Source)
  | 0, _, src => src.unexpected
  | fuel + 1, line, src => do
    let ((assignments, words, redirections), rest) ← readItems fuel true src
    if assignments.isEmpty && words.isEmpty && redirections.isEmpty then src.unexpected
    else return (.simple line assignments words redirections, rest)

/-- What a command is made of. Assignments stand in front. -/
def readItems : Nat → Bool → Source →
    Except Refusal ((List (String × Word) × List Word × List Redirection) × Source)
  | 0, _, src => src.unexpected
  | fuel + 1, front, src => do
    let src := src.blanks
    match ← readRedirection fuel src with
    | some (r, src) =>
      let ((as, ws, rs), src) ← readItems fuel front src
      return ((as, ws, r :: rs), src)
    | none =>
      let (first, next) ← readWord .plain fuel src
      if first.isEmpty then return (([], [], []), src)
      else
        match if front then Word.assignment? first else none with
        | some a =>
          let ((as, ws, rs), src) ← readItems fuel true next
          return ((a :: as, ws, rs), src)
        | none =>
          let ((as, ws, rs), src) ← readItems fuel false next
          return ((as, first :: ws, rs), src)

end

/-- The commands of a line, up to its end. -/
def readLine : Nat → Source → Except Refusal (Script × Source)
  | 0, src => src.unexpected
  | fuel + 1, src => do
    let (first, src) ← readAndOr fuel src
    let src := src.blanks
    let more := fun (first : Script) => do
      let src := (src.drop 1).blanks
      match src.rest with
      | [] => Except.ok (first, src)
      | '\n' :: _ => .ok (first, src)
      | _ => do
        let (rest, src) ← readLine fuel src
        return (.sequence first rest, src)
    match src.rest with
    | ';' :: ';' :: _ => src.unexpected
    | ';' :: _ => more first
    | '&' :: _ => more (.background first)
    | '\n' :: _ => return (first, src)
    | [] => return (first, src)
    | _ => src.unexpected

/-- The lines of a source, one after the other. What is wrong is told behind `front`. -/
def scriptOf (front : String) (fuel : Nat) : Nat → Source → Script
  | 0, src => .malformed src.line (front ++ "word unexpected")
  | lines + 1, src =>
    let src := src.lines
    if src.rest.isEmpty then .nothing
    else
      match readLine fuel src with
      | .ok (first, src) =>
        if src.lines.rest.isEmpty then first else .sequence first (scriptOf front fuel lines src)
      | .error refusal => .malformed refusal.line (front ++ refusal.why)

/-- The script of a text. What is wrong with it is told behind `front`. -/
def Script.parse (front text : String) : Script :=
  let front := front ++ "Syntax error: "
  scriptOf front (10 * text.length + 64) (text.length + 1) { rest := text.toList }

end Conformance.Shell
