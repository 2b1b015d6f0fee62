import Conformance.Host.Octets

/-!
# Programs

What is run when a file is started.

* `nativeContent`, `nativeName?` : the content of a program that is part of the host, and its name;
* `interpreter?` : the interpreter that a script names;
* `Program`, `load`, `loadAs`, `search` : the native program that a file, or a name, comes down to.
-/

namespace Conformance.Host

/-- What the content of a native program starts with. -/
def nativeMark : Bytes := Bytes.ofText "\x7fELF native program "

/-- The content of the native program of a name. -/
def nativeContent (name : String) : Bytes := nativeMark ++ Bytes.ofText name

/-- The name of a native program with a content. -/
def nativeName? (content : Bytes) : Option String :=
  if nativeMark.isPrefixOf content then some (Bytes.toText (content.drop nativeMark.length))
  else none

/-- How much of a script is searched for its interpreter. -/
def interpreterLimit : Nat := 256

/-- Whether a character separates an interpreter from its argument. -/
def isBlankInLine (c : Char) : Bool := c = ' ' || c = '\t'

/-- The interpreter that the first line of a script names, and an argument for it. What follows the
interpreter in the line is one argument. -/
def interpreter? (content : Bytes) : Option (String × Option String) :=
  let known := (ofOctets (content.take interpreterLimit)).toList
  let padded := known ++ List.replicate (interpreterLimit - known.length) '\x00'
  match padded with
  | '#' :: '!' :: rest =>
    let line := (rest.takeWhile (· ≠ '\n')).dropWhile isBlankInLine
    let line := (line.reverse.dropWhile isBlankInLine).reverse
    let isEnd := fun c => isBlankInLine c || c = '\x00'
    let name := line.takeWhile fun c => !isEnd c
    if line.isEmpty || (!rest.contains '\n' && !(rest.drop name.length).any isEnd) then none
    else
      let arg := ((line.drop name.length).dropWhile isBlankInLine).takeWhile (· ≠ '\x00')
      some (String.ofList name, if arg.isEmpty then none else some (String.ofList arg))
  | _ => none

/-- A native program and its arguments. -/
structure Program where
  name : String
  /-- What it is called as. -/
  title : String
  args : List String

/-- How many interpreters may interpret one another. -/
def interpreterDepth : Nat := 6

/-- The content of a file that may be started. -/
def startable (files : FileStore) (cwd : Location) (path : String) : Except OsError Bytes :=
  match files.find cwd (pathOf path) with
  | .ok (.file content true) => .ok content
  | .ok _ => .error .permissionDenied
  | .error (.os e) => .error e
  | .error _ => .error .notFound

/-- The program of the file at a path. A script is an argument of its interpreter. A file that is
neither a script nor native is one of the shell, if `lenient` says so. -/
def load (files : FileStore) (cwd : Location) (lenient : Bool) :
    Nat → String → List String → Except OsError Program
  | 0, _, _ => .error .tooManyLinks
  | depth + 1, path, args => do
    let content ← startable files cwd path
    match nativeName? content, interpreter? content with
    | some name, _ => .ok ⟨name, path, args⟩
    | none, some (name, arg) => load files cwd lenient depth name (arg.toList ++ path :: args)
    | none, none => if lenient then .ok ⟨"sh", "sh", path :: args⟩ else .error .execFormat

/-- The program of the file at a path, called as something else unless it is a script. -/
def loadAs (title : String) (files : FileStore) (cwd : Location) (lenient : Bool) (path : String)
    (args : List String) : Except OsError Program :=
  (load files cwd lenient interpreterDepth path args).map fun p =>
    if p.title = path then { p with title } else p

/-- The first program of a name in some directories. That one was refused is remembered. -/
def search (load : String → Except OsError Program) (name : String) (missed : OsError) :
    List String → Except OsError Program
  | [] => .error missed
  | dir :: dirs =>
    match load (if dir.isEmpty then name else dir ++ "/" ++ name) with
    | .error .permissionDenied => search load name .permissionDenied dirs
    | .error .notFound => search load name missed dirs
    | .error .notDirectory => search load name missed dirs
    | r => r

end Conformance.Host
