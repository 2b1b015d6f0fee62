import Conformance.Path
import Conformance.Text.Quoted

/-!
# Causes of failed operations

* `OsError` : what the operating system answers;
* `Cause` : why an operation on files or processes failed;
* `OsError.message`, `Cause.message` : the wording.
-/

namespace Conformance

/-- An error of the operating system. -/
inductive OsError where
  /-- Nothing stands at the path. -/
  | notFound
  /-- The content has no form that can be executed. -/
  | execFormat
  /-- The access is not allowed. -/
  | permissionDenied
  /-- Something stands at the path already. -/
  | alreadyExists
  /-- A directory is needed. -/
  | notDirectory
  /-- A directory stands where a file is needed. -/
  | isDirectory
  /-- A name or path is longer than allowed. -/
  | nameTooLong
  /-- Too many links on the way. -/
  | tooManyLinks
  deriving DecidableEq, Repr

namespace OsError

/-- The number of an error. -/
def code : OsError → Nat
  | .notFound => 2
  | .execFormat => 8
  | .permissionDenied => 13
  | .alreadyExists => 17
  | .notDirectory => 20
  | .isDirectory => 21
  | .nameTooLong => 36
  | .tooManyLinks => 40

/-- The description of an error. -/
def description : OsError → String
  | .notFound => "No such file or directory"
  | .execFormat => "Exec format error"
  | .permissionDenied => "Permission denied"
  | .alreadyExists => "File exists"
  | .notDirectory => "Not a directory"
  | .isDirectory => "Is a directory"
  | .nameTooLong => "File name too long"
  | .tooManyLinks => "Too many levels of symbolic links"

/-- The wording of an error. -/
def message (e : OsError) : String := s!"{e.description} (os error {e.code})"

end OsError

/-- Why an operation failed. -/
inductive Cause where
  /-- The operating system refused. -/
  | os (e : OsError)
  /-- The operating system refused, and the path is named. -/
  | osAt (e : OsError) (path : Path)
  /-- A file that should hold text does not. -/
  | notUtf8
  /-- A path holds a NUL character. -/
  | nulInPath
  /-- An argument of a command holds a NUL character. -/
  | nulInArgument
  /-- The source of a copy is no regular file. -/
  | notRegular
  /-- A fixture path has no last name to copy it under. -/
  | noFileName (path : Path)
  /-- A directory could not be walked. -/
  | walk (cause : Cause) (path : Path)
  deriving DecidableEq, Repr

/-- The wording of a cause. -/
def Cause.message : Cause → String
  | .os e => e.message
  | .osAt e path => s!"{e.message} at path {Text.quoted path.text}"
  | .notUtf8 => "stream did not contain valid UTF-8"
  | .nulInPath => "file name contained an unexpected NUL byte"
  | .nulInArgument => "nul byte found in provided data"
  | .notRegular => "the source path is neither a regular file nor a symlink to a regular file"
  | .noFileName path => s!"fixture path has no file name: {path.text}"
  | .walk cause path => s!"IO error for operation on {path.text}: {cause.message}"

end Conformance
