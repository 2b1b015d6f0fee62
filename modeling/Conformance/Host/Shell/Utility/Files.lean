import Conformance.Host.Shell.Format
import Conformance.Host.Shell.Utility

/-!
# Commands on files

Commands that make, list, copy and remove files, and take paths apart.
-/

namespace Conformance.Shell

open Host

/-- Makes files that are not there. -/
def touch : Utility := fun args m =>
  args.foldl (fun (status, m) f =>
    match m.look (pathOf f) with
    | .ok _ => (status, m)
    | .error _ =>
      match m.openFile (pathOf f) true with
      | .ok (m, _) => (status, m)
      | .error e => (1, m.complain s!"touch: cannot touch '{f}': {reason e}")) (0, m)

/-- Removes files, and directories if it is told to. -/
def rm : Utility := fun args m =>
  let (letters, files) := options args
  let force := letters.contains 'f'
  let deep := letters.contains 'r' || letters.contains 'R'
  if files.isEmpty && !force then
    (1, m.complain "rm: missing operand\nTry 'rm --help' for more information.")
  else files.foldl (fun (status, m) f =>
    let what := s!"rm: cannot remove '{f}'"
    match m.files.resolve m.frame.directory false (pathOf f) with
    | .error (.os .notFound) =>
      if force then (status, m) else (1, m.complain (what ++ ": No such file or directory"))
    | .error e => (1, m.complain (what ++ ": " ++ reason e))
    | .ok loc =>
      if m.files.isDirectoryAt loc && !deep then (1, m.complain (what ++ ": Is a directory"))
      else (status, { m with files := m.files.eraseTree loc })) (0, m)

/-- Makes directories. -/
def mkdir : Utility := fun args m =>
  let (letters, dirs) := options args
  dirs.foldl (fun (status, m) d =>
    let what := s!"mkdir: cannot create directory '{d}'"
    let make := fun (files : FileStore) =>
      if letters.contains 'p' then files.makeDirectories m.frame.directory (pathOf d)
      else files.makeDirectory m.frame.directory (pathOf d)
    match m.changeFiles what make with
    | (true, m) => (status, m)
    | (false, m) => (1, m)) (0, m)

/-- Removes empty directories. -/
def rmdir : Utility := fun args m =>
  args.foldl (fun (status, m) d =>
    let what := s!"rmdir: failed to remove '{d}': "
    match m.files.resolve m.frame.directory false (pathOf d) with
    | .error e => (1, m.complain (what ++ reason e))
    | .ok loc =>
      if !m.files.isDirectoryAt loc then (1, m.complain (what ++ "Not a directory"))
      else if !(m.files.namesBelow loc).isEmpty then
        (1, m.complain (what ++ "Directory not empty"))
      else (status, { m with files := m.files.erase loc })) (0, m)

/-- Lists files, and then what is in directories. -/
def ls : Utility := fun args m =>
  let (letters, paths) := options args
  let paths := sorted (if paths.isEmpty then ["."] else paths)
  let shown := fun (names : List String) =>
    sorted (if letters.contains 'a' || letters.contains 'A' then names
      else names.filter fun n => n.toList.head? != some '.')
  let found := paths.map fun p => (p, m.files.resolve m.frame.directory true (pathOf p))
  let missing := found.filterMap fun e => match e.2 with
    | .error cause => some s!"ls: cannot access '{e.1}': {reason cause}"
    | .ok _ => none
  let present := found.filterMap fun e => e.2.toOption.map fun loc => (e.1, loc)
  let (dirs, files) := present.partition fun e =>
    m.files.isDirectoryAt e.2 && !letters.contains 'd'
  let plain := files.map fun e => e.1 ++ "\n"
  let list := fun (e : String × Location) =>
    let names := (if letters.contains 'a' then [".", ".."] else []) ++ m.files.namesBelow e.2
    let title := if paths.length > 1 then e.1 ++ ":\n" else ""
    title ++ String.join ((shown names).map fun n => encoded n ++ "\n")
  let blocks := (if plain.isEmpty then [] else [String.join plain]) ++ dirs.map list
  let m := missing.foldl Machine.complain m
  (if missing.isEmpty then 0 else 2, m.say (String.intercalate "\n" blocks))

/-- The last name of a path, without an ending. -/
def basename : Utility := fun args m =>
  match args with
  | p :: rest =>
    let cs := (p.toList.reverse.dropWhile (· = '/')).reverse
    let name := if cs.isEmpty then ['/'] else (cs.reverse.takeWhile (· ≠ '/')).reverse
    let ending := (rest.headD "").toList
    let name :=
      if ending.length < name.length && ending.isSuffixOf name then
        name.take (name.length - ending.length)
      else name
    (0, m.say (String.ofList name ++ "\n"))
  | [] => (1, m.complain "basename: missing operand")

/-- A path without its last name. -/
def dirname : Utility := fun args m =>
  match args with
  | p :: _ =>
    let cs := (p.toList.reverse.dropWhile (· = '/')).dropWhile (· ≠ '/')
    let dir := (cs.dropWhile (· = '/')).reverse
    let start := if p.toList.head? == some '/' then "/" else "."
    (0, m.say ((if dir.isEmpty then start else String.ofList dir) ++ "\n"))
  | [] => (1, m.complain "dirname: missing operand")

/-- Where a file is copied to: into a directory under its own name, or to the path itself. -/
def Machine.copyTarget (m : Machine) (source target : String) : String :=
  if m.entryIs target fun e => match e with | .directory _ => true | _ => false then
    let name := encoded ((pathOf source).fileName?.getD "")
    if target.endsWith "/" then target ++ name else target ++ "/" ++ name
  else target

/-- Puts a file, or a directory with all that is in it, at another location. -/
def Machine.graft (m : Machine) (source target : Location) : Machine :=
  let below := m.files.entriesBelow source
  let own := (m.files.entry? source).toList
  let files := own.foldl (fun files e => files.put target e) m.files
  { m with files := below.foldl (fun files e => files.put (target ++ e.1) e.2) files }

/-- Copies a file, or moves it. -/
def Machine.transferOne (m : Machine) (name : String) (move deep : Bool)
    (source target : String) : Nat × Machine :=
  let dir := m.frame.directory
  match m.files.resolve dir (!move) (pathOf source) with
  | .error e => (1, m.complain s!"{name}: cannot stat '{source}': {reason e}")
  | .ok loc =>
    let isDirectory := m.files.isDirectoryAt loc
    let target := m.copyTarget source target
    if isDirectory && !move && !deep then
      (1, m.complain s!"cp: -r not specified; omitting directory '{source}'")
    else if isDirectory || move then
      match m.files.resolveParent dir (pathOf target) with
      | .ok (parent, last) =>
        let goal := parent ++ [last]
        if goal = loc then
          (1, m.complain s!"{name}: '{source}' and '{target}' are the same file")
        else
          let m := if isDirectory then m else { m with files := m.files.eraseTree goal }
          let m := m.graft loc goal
          (0, if move then { m with files := m.files.eraseTree loc } else m)
      | .error e =>
        (1, m.complain (if move then s!"mv: cannot move '{source}' to '{target}': {reason e}"
          else s!"cp: cannot create directory '{target}': {reason e}"))
    else
      match m.files.copy dir (pathOf source) (pathOf target) with
      | .ok files => (0, { m with files })
      | .error e => (1, m.complain s!"cp: cannot create regular file '{target}': {reason e}")

/-- Copies files, or moves them. -/
def transfer (name : String) (move : Bool) : Utility := fun args m =>
  let (letters, paths) := options args
  let deep := letters.any fun c => c = 'r' || c = 'R' || c = 'a'
  match paths.reverse with
  | target :: source :: sources =>
    (source :: sources).reverse.foldl (fun (status, m) source =>
      let (one, m) := m.transferOne name move deep source target
      (max status one, m)) (0, m)
  | [only] =>
    (1, m.complain (s!"{name}: missing destination file operand after '{only}'\n" ++
      s!"Try '{name} --help' for more information."))
  | [] =>
    (1, m.complain (s!"{name}: missing file operand\n" ++
      s!"Try '{name} --help' for more information."))

/-- Makes links. -/
def ln : Utility := fun args m =>
  let (letters, paths) := options args
  let symbolic := letters.contains 's'
  match paths with
  | [target, name] =>
    let name := m.copyTarget target name
    let kind := if symbolic then "symbolic" else "hard"
    let make := fun (files : FileStore) => do
      let (dir, last) ← files.resolveParent m.frame.directory (pathOf name)
      let loc := dir ++ [last]
      if (files.entry? loc).isSome && !letters.contains 'f' then throw (.os .alreadyExists)
      if symbolic then return files.put loc (.link (pathOf target))
      else return files.put loc (← files.find m.frame.directory (pathOf target))
    let (ok, m) := m.changeFiles s!"ln: failed to create {kind} link '{name}'" make
    (if ok then 0 else 1, m)
  | _ => (1, m.complain "ln: missing file operand\nTry 'ln --help' for more information.")

/-- Tells where a link leads to. -/
def readlink : Utility := fun args m =>
  let (letters, paths) := options args
  let lead := fun (p : String) =>
    let follow := letters.contains 'f' || letters.contains 'e'
    match m.files.resolve m.frame.directory follow (pathOf p) with
    | .error _ => none
    | .ok loc =>
      if follow then some ("/" ++ encoded (String.intercalate "/" loc))
      else match m.files.entry? loc with
        | some (.link target) => some (encoded target.text)
        | _ => none
  paths.foldl (fun (status, m) p =>
    match lead p with
    | some text => (status, m.say (text ++ "\n"))
    | none => (1, m)) (0, m)

/-- Tells the name of the system. -/
def uname : Utility := fun args m =>
  let (letters, _) := options args
  (0, m.say (if letters.contains 'm' then "x86_64\n" else "Linux\n"))

/-- Makes files executable, or not. -/
def chmod : Utility := fun args m =>
  match args with
  | mode :: files =>
    let executable := mode.contains 'x' && !mode.contains '-' ||
      (mode.toList.all isOctal && (mode.toList.any fun c => c.toNat % 2 = 1))
    files.foldl (fun (status, m) f =>
      match m.files.resolve m.frame.directory true (pathOf f) with
      | .ok loc =>
        match m.files.entry? loc with
        | some (.file content _) =>
          (status, { m with files := m.files.put loc (.file content executable) })
        | _ => (status, m)
      | .error e => (1, m.complain s!"chmod: cannot access '{f}': {reason e}")) (0, m)
  | [] => (1, m.complain "chmod: missing operand")

end Conformance.Shell
