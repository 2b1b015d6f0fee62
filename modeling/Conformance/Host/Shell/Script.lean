/-!
# Shell scripts

The structure of a script in the POSIX shell language, as far as a host in memory understands it.
Texts are strings of octets: every character stands for one.

* `Part`, `Word` : what a word is made of before it is expanded;
* `Redirection` : where a stream goes to or comes from;
* `Script` : commands and their control.
-/

namespace Conformance.Shell

/-- Where a stream goes to or comes from. -/
inductive Direction where
  /-- From a file. -/
  | input
  /-- To a file, whose content is lost. -/
  | output
  /-- To the end of a file. -/
  | append
  /-- The same as another stream. -/
  | same
  /-- From a text in the script. -/
  | here
  deriving DecidableEq, Repr

mutual

/-- A part of a word. -/
inductive Part where
  /-- A text; a quoted one has no meaning as a pattern and is not split. -/
  | text (s : String) (quoted : Bool)
  /-- A text that is split. -/
  | spread (s : String)
  | value (name : String) (change : Change) (quoted : Bool)
  /-- The value of an expression. -/
  | arithmetic (expr : List Part) (quoted : Bool)
  | output (script : Script) (quoted : Bool)

/-- What is done to the value of a variable. -/
inductive Change where
  /-- Nothing. -/
  | keep
  /-- Its length is taken. -/
  | length
  /-- A word is taken if there is no value, or also if it is empty. -/
  | orElse (orEmpty : Bool) (word : List Part)
  /-- A word is taken and assigned if there is no value, or also if it is empty. -/
  | orAssign (orEmpty : Bool) (word : List Part)
  /-- A word is taken if there is a value, or only if it is not empty. -/
  | instead (orEmpty : Bool) (word : List Part)
  /-- The script ends if there is no value, or also if it is empty. -/
  | require (orEmpty : Bool) (word : List Part)
  /-- The shortest or longest start that matches is dropped. -/
  | dropStart (longest : Bool) (pattern : List Part)
  /-- The shortest or longest end that matches is dropped. -/
  | dropEnd (longest : Bool) (pattern : List Part)
  /-- Something without a meaning. -/
  | refused

/-- Where the stream of a number goes to or comes from. -/
inductive Redirection where
  /-- The stream, the direction, and the file or other stream. -/
  | mk (stream : Nat) (direction : Direction) (target : List Part)

/-- A command, or several. -/
inductive Script where
  /-- Nothing. -/
  | nothing
  /-- Assignments, a command with its arguments, and redirections. -/
  | simple (line : Nat) (assignments : List (String × List Part)) (words : List (List Part))
      (redirections : List Redirection)
  /-- The output of the first is the input of the second. -/
  | pipe (left right : Script)
  /-- Succeeds if the other fails. -/
  | negate (body : Script)
  /-- The second only if the first succeeds. -/
  | both (left right : Script)
  /-- The second only if the first fails. -/
  | either (left right : Script)
  | sequence (first rest : Script)
  /-- Without waiting for it. -/
  | background (body : Script)
  /-- One of two, as a test decides. -/
  | choice (test yes no : Script)
  /-- Again and again, as long as a test succeeds, or fails. -/
  | loop (untilSuccess : Bool) (test body : Script)
  /-- Once for each word, or for each argument. -/
  | each (name : String) (words : Option (List (List Part))) (body : Script)
  /-- The first branch with a pattern that a word matches. -/
  | select (subject : List Part) (branches : List (List (List Part) × Script))
  /-- With variables and a directory of its own. -/
  | subshell (body : Script)
  | redirected (line : Nat) (body : Script) (redirections : List Redirection)
  /-- A name for a command of its own. -/
  | define (name : String) (body : Script)
  /-- What cannot be read, and why; at which line. -/
  | malformed (line : Nat) (why : String)

end

/-- A word before it is expanded. -/
abbrev Word := List Part

end Conformance.Shell
