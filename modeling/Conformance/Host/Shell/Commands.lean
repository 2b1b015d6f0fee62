import Conformance.Host.Shell.Utility.Files
import Conformance.Host.Shell.Utility.Test
import Conformance.Host.Shell.Utility.Edit

/-!
# The commands of a shell

* `builtins`, `programs` : commands without control, by name;
* `nativeNames` : the names of all programs of a host.
-/

namespace Conformance.Shell

/-- Commands that are part of the shell. -/
def builtins : List (String × Utility) :=
  [("true", fun _ m => (0, m)), ("false", fun _ m => (1, m)), (":", fun _ m => (0, m)),
    ("echo", echo), ("printf", printf), ("test", runTest "test"), ("pwd", pwd)]

/-- Commands that are programs of their own. -/
def programs : List (String × Utility) :=
  [("cat", cat), ("head", head), ("tail", tail), ("tr", tr), ("wc", wc), ("touch", touch),
    ("rm", rm), ("mkdir", mkdir), ("rmdir", rmdir), ("ls", ls), ("basename", basename),
    ("dirname", dirname), ("cp", transfer "cp" false), ("mv", transfer "mv" true), ("ln", ln),
    ("chmod", chmod), ("seq", seq), ("printenv", printSome), ("tee", tee), ("sort", sort),
    ("grep", grep), ("uniq", uniq), ("cut", cut), ("sed", sed), ("yes", yes), ("expr", expr),
    ("od", od), ("cmp", cmp), ("dd", dd), ("readlink", readlink), ("uname", uname)]

/-- The names of the shell as a program. -/
def shellNames : List String := ["sh", "dash"]

/-- Programs that run another one as it is. -/
def wrappers : List String := ["nohup", "nice", "setsid"]

/-- The names of all native programs. -/
def nativeNames : List String :=
  shellNames ++ wrappers ++ ["sleep", "kill", "env", "["] ++ (builtins ++ programs).map Prod.fst

end Conformance.Shell
