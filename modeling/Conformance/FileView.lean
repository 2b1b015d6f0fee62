import Conformance.Artifact
import Conformance.FileStore

/-!
# Looking at files

* `FileView` : what stands at each path, links followed;
* `FileView.isFile`, `FileView.present`, `FileView.size?`, `FileView.classify` : the questions that
  checks ask; `FileView.isNativeFor` : whether a file has the native format of a platform;
* `FileView.read`, `FileView.readText`, `FileView.summarize` : contents.
-/

namespace Conformance

/-- What stands at each path, once links are followed. -/
structure FileView where
  /-- The file or directory at a path, or why none can be found. -/
  find : Path → Except Cause Entry

namespace FileView

/-- Whether a regular file stands at a path. -/
def isFile (view : FileView) (p : Path) : Bool :=
  match view.find p with
  | .ok (.file _ _) => true
  | _ => false

/-- Whether anything stands at a path. -/
def present (view : FileView) (p : Path) : Bool :=
  match view.find p with
  | .ok _ => true
  | .error _ => false

/-- The size of the regular file at a path. -/
def size? (view : FileView) (p : Path) : Option Nat :=
  match view.find p with
  | .ok (.file content _) => some content.length
  | _ => none

/-- What can be read at a path. -/
def read (view : FileView) (p : Path) : Except Cause Bytes :=
  match view.find p with
  | .ok (.file content _) => .ok content
  | .ok .device => .ok []
  | .ok _ => .error (.os .isDirectory)
  | .error e => .error e

/-- What can be read at a path, if it is a text. -/
def readText (view : FileView) (p : Path) : Except Cause String := do
  match Utf8.decode? (← view.read p) with
  | some cs => .ok (String.ofList cs)
  | none => .error .notUtf8

/-- The format of the file at a path; what cannot be read counts as empty. -/
def classify (view : FileView) (p : Path) : Classification :=
  match view.read p with
  | .ok content => .ofFile content
  | .error _ => .empty

/-- Whether the file at a path has the native format of a platform. -/
def isNativeFor (view : FileView) (p : Path) (platform : Platform) : Bool :=
  (view.classify p).isNativeFor platform

/-- The summary of the file at a path. -/
def summarize (view : FileView) (p : Path) : Except Cause ArtifactSummary :=
  (view.read p).map .ofContent

end FileView

/-- The view of a store from the directory at `cwd`. -/
def FileStore.view (store : FileStore) (cwd : Location) : FileView := ⟨store.find cwd⟩

end Conformance
