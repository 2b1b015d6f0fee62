import Conformance.Host
import Conformance.Host.Program
import Conformance.Host.Shell.Commands

/-!
# The standard files

What every host in memory has before anything is put on it: the usual directories, two devices, and
a program for each command that is one of its own.

* `Host.standardFiles`, `Host.standardVariables` : the files, and the variables of a first process.
-/

namespace Conformance.Host

/-- The standard directories. -/
def standardDirectories : List Location :=
  [["boot"], ["dev"], ["etc"], ["home"], ["media"], ["mnt"], ["opt"], ["proc"], ["root"], ["run"],
    ["srv"], ["sys"], ["tmp"], ["usr"], ["usr", "bin"], ["usr", "lib"], ["usr", "local"],
    ["usr", "local", "bin"], ["usr", "local", "sbin"], ["usr", "sbin"], ["usr", "share"], ["var"],
    ["var", "tmp"]]

/-- The standard accounts. -/
def accounts : Bytes := Bytes.ofText "root:x:0:0:root:/root:/bin/sh\n"

/-- The standard files. -/
def standardFiles : FileStore :=
  ⟨standardDirectories.map (fun loc => (loc, Entry.directory true)) ++
    [(["bin"], .link ⟨"usr/bin"⟩), (["lib"], .link ⟨"usr/lib"⟩), (["sbin"], .link ⟨"usr/sbin"⟩),
      (["dev", "null"], .device), (["dev", "zero"], .device),
      (["etc", "passwd"], .file accounts false)] ++
    Shell.nativeNames.map fun name => (["usr", "bin", name], .file (nativeContent name) true)⟩

/-- The variables of a first process. -/
def standardVariables : List (String × String) :=
  [("PATH", "/usr/local/sbin:/usr/local/bin:/usr/sbin:/usr/bin:/sbin:/bin"), ("HOME", "/root")]

end Conformance.Host
