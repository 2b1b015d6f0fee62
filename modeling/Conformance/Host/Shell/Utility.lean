import Conformance.Host.Shell.Machine

/-!
# Commands without control

Commands that read and write streams and files, and neither start anything nor take time.

* `Utility` : such a command;
* `inputs`, `options` : what its arguments stand for.
-/

namespace Conformance.Shell

open Host

/-- A command: from its arguments and the state, its status and the state after it. -/
abbrev Utility := List String → Machine → Nat × Machine

/-- Whether an entry at a path has a property. -/
def Machine.entryIs (m : Machine) (p : String) (property : Entry → Bool) : Bool :=
  match m.look (pathOf p) with
  | .ok e => property e
  | .error _ => false

/-- What is wrong with a file. -/
def reason : Cause → String
  | .os e => e.description
  | e => e.message

/-- The inputs of a command: each file, or the input stream if there are none. -/
def inputs (command : String) (limit : Option Nat) (files : List String) (m : Machine) :
    List String × Nat × Machine :=
  if files.isEmpty then ([m.frame.input], 0, { m with frame := { m.frame with input := "" } })
  else
    files.foldl (fun (texts, status, m) f =>
      if f = "-" then
        (texts ++ [m.frame.input], status, { m with frame := { m.frame with input := "" } })
      else
        match m.readFile (pathOf f) limit with
        | .ok s => (texts ++ [s], status, m)
        | .error e => (texts, 1, m.complain s!"{command}: {f}: {reason e}")) ([], 0, m)

/-- The options in front of arguments, letter by letter, and the arguments. -/
def options (args : List String) : List Char × List String :=
  let given := args.takeWhile fun a => a.length > 1 && a.toList.head? == some '-' && a ≠ "--"
  let rest := args.drop given.length
  (given.flatMap fun o => o.toList.drop 1, if rest.head? == some "--" then rest.tail else rest)

/-- The order of strings of octets. -/
def sorted (names : List String) : List String := names.mergeSort fun a b => decide (a ≤ b)

end Conformance.Shell
