/-!
# Patterns of the shell

* `Mark` : a character of an expanded word, and whether it was quoted;
* `Mark.matches` : whether a text matches a pattern as a whole;
* `dropStart`, `dropEnd` : a text without a start or an end that matches.
-/

namespace Conformance.Shell

/-- A character of an expanded word, and whether it was quoted. -/
abbrev Mark := Char × Bool

/-- The marks of a text that is quoted, or not. -/
def marks (s : String) (quoted : Bool) : List Mark := s.toList.map fun c => (c, quoted)

/-- The text of marks. -/
def plainText (ms : List Mark) : String := String.ofList (ms.map Prod.fst)

/-- Whether a mark is a given character without quotes. -/
def Mark.is (m : Mark) (c : Char) : Bool := m.1 = c && !m.2

/-- Whether marks have a meaning as a pattern. -/
def isPattern (ms : List Mark) : Bool := ms.any fun m => m.is '*' || m.is '?' || m.is '['

/-- The members of a set up to its closing bracket, and what follows. -/
def setMembers? : Bool → List Mark → Option (List Mark × List Mark)
  | _, [] => none
  | first, m :: rest =>
    if m.is ']' && !first then some ([], rest)
    else (setMembers? false rest).map fun r => (m :: r.1, r.2)

/-- Whether a character is one of the members or in a range of them. -/
def inSet (c : Char) : List Mark → Bool
  | a :: dash :: b :: rest =>
    if dash.is '-' then (a.1 ≤ c && c ≤ b.1) || inSet c rest
    else a.1 = c || inSet c (dash :: b :: rest)
  | a :: rest => a.1 = c || inSet c rest
  | [] => false

/-- Whether a text matches a pattern as a whole. The first argument bounds the number of steps. -/
def matchesWithin : Nat → List Mark → List Char → Bool
  | 0, _, _ => false
  | _ + 1, [], cs => cs.isEmpty
  | fuel + 1, m :: ms, cs =>
    if m.is '*' then
      matchesWithin fuel ms cs ||
        match cs with
        | _ :: cs => matchesWithin fuel (m :: ms) cs
        | [] => false
    else
      match cs with
      | [] => false
      | c :: cs =>
        if m.is '?' then matchesWithin fuel ms cs
        else
          match if m.is '[' then setMembers? true ms else none with
          | some (members, rest) =>
            let (negated, members) := match members with
              | n :: others => if n.is '!' || n.is '^' then (true, others) else (false, members)
              | [] => (false, [])
            (inSet c members != negated) && matchesWithin fuel rest cs
          | none => m.1 = c && matchesWithin fuel ms cs

/-- Whether a text matches a pattern as a whole. -/
def Mark.matches (pattern : List Mark) (s : String) : Bool :=
  matchesWithin (pattern.length + s.length + 1) pattern s.toList

/-- A text without its shortest or longest start that matches a pattern. -/
def dropStart (longest : Bool) (pattern : List Mark) (s : String) : String :=
  let cs := s.toList
  let lengths := List.range (cs.length + 1)
  let lengths := if longest then lengths.reverse else lengths
  match lengths.find? fun n => Mark.matches pattern (String.ofList (cs.take n)) with
  | some n => String.ofList (cs.drop n)
  | none => s

/-- A text without its shortest or longest end that matches a pattern. -/
def dropEnd (longest : Bool) (pattern : List Mark) (s : String) : String :=
  let cs := s.toList
  let lengths := List.range (cs.length + 1)
  let lengths := if longest then lengths else lengths.reverse
  match lengths.find? fun n => Mark.matches pattern (String.ofList (cs.drop n)) with
  | some n => String.ofList (cs.take n)
  | none => s

end Conformance.Shell
