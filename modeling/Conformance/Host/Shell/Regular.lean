import Conformance.Host.Shell.Integer
import Conformance.Host.Shell.Pattern

/-!
# Regular expressions

* `Regular` : a regular expression;
* `Regular.parse?` : its basic and its extended form;
* `Regular.ends` : where matches from a place end;
* `Regular.find?` : the first match in a line, as long as possible.
-/

namespace Conformance.Shell

/-- A regular expression. -/
inductive Regular where
  | empty
  | char (c : Char)
  | any
  /-- A character of a set, or any other. -/
  | oneOf (negated : Bool) (members : List Mark)
  | start
  | stop
  /-- One after the other. -/
  | both (a b : Regular)
  | either (a b : Regular)
  /-- Any number of times. -/
  | star (a : Regular)
  /-- A group, whose text can be referred to by number. -/
  | group (n : Nat) (a : Regular)
  /-- The text of a group again. -/
  | again (n : Nat)
  deriving Repr

/-! ## Reading -/

/-- A sign of a regular expression. -/
inductive Sign where
  /-- A character that stands for itself. -/
  | plain (c : Char)
  | any
  /-- A character of a set, or any other. -/
  | oneOf (negated : Bool) (members : List Mark)
  | caret
  | dollar
  /-- The start of a group. -/
  | opening
  /-- The end of a group. -/
  | closing
  /-- Between alternatives. -/
  | bar
  /-- How often something is repeated; without an upper bound if there is none. -/
  | times (least : Nat) (most : Option Nat)
  /-- A reference to a group. -/
  | again (n : Nat)
  deriving Repr

/-- The members of named classes of characters. -/
def classMembers : List (String × String) :=
  [("alpha", "a-zA-Z"), ("digit", "0-9"), ("alnum", "a-zA-Z0-9"), ("upper", "A-Z"),
    ("lower", "a-z"), ("space", " \t\n\r\x0b\x0c"), ("blank", " \t"), ("xdigit", "0-9a-fA-F"),
    ("punct", "!-/:-@[-\x60\x7b-~"), ("print", " -~"), ("graph", "!-~")]

/-- The members of a set up to its closing bracket, and what follows. -/
def bracketMembers? : Nat → Bool → List Char → Option (List Mark × List Char)
  | 0, _, _ => none
  | _, _, [] => none
  | fuel + 1, first, '[' :: ':' :: rest =>
    let name := rest.takeWhile Char.isAlpha
    match classMembers.lookup (String.ofList name), rest.drop name.length with
    | some members, ':' :: ']' :: rest =>
      (bracketMembers? fuel false rest).map fun r => (marks members false ++ r.1, r.2)
    | _, _ => (bracketMembers? fuel first (':' :: rest)).map fun r => (('[', false) :: r.1, r.2)
  | fuel + 1, first, c :: rest =>
    if c = ']' && !first then some ([], rest)
    else (bracketMembers? fuel false rest).map fun r => ((c, false) :: r.1, r.2)

/-- The bounds of a repetition up to its closing brace, and what follows. -/
def bounds? (extended : Bool) (cs : List Char) : Option (Sign × List Char) := do
  let least := cs.takeWhile Char.isDigit
  let rest := cs.drop least.length
  let (most, rest) := match rest with
    | ',' :: rest =>
      let most := rest.takeWhile Char.isDigit
      (if most.isEmpty then none else some (ofDigits 10 most), rest.drop most.length)
    | rest => (some (ofDigits 10 least), rest)
  let rest ← match extended, rest with
    | true, '\x7d' :: rest => some rest
    | false, '\\' :: '\x7d' :: rest => some rest
    | _, _ => none
  return (.times (ofDigits 10 least) most, rest)

/-- The signs of a text. The first argument bounds the number of steps. -/
def signs? (extended : Bool) : Nat → List Char → Option (List Sign)
  | 0, _ => none
  | _, [] => some []
  | fuel + 1, c :: rest =>
    let go := fun (sign : Sign) (rest : List Char) => (signs? extended fuel rest).map (sign :: ·)
    let special := fun (c : Char) (rest : List Char) =>
      match c with
      | '(' => go .opening rest
      | ')' => go .closing rest
      | '|' => go .bar rest
      | '+' => go (.times 1 none) rest
      | '?' => go (.times 0 (some 1)) rest
      | '\x7b' => (bounds? extended rest).bind fun r => go r.1 r.2
      | c => go (.plain c) rest
    match c with
    | '\\' =>
      match rest with
      | [] => none
      | 'n' :: rest => go (.plain '\n') rest
      | 't' :: rest => go (.plain '\t') rest
      | e :: rest =>
        if e.isDigit then go (.again (digitValue e)) rest
        else if extended then go (.plain e) rest
        else special e rest
    | '[' =>
      let (negated, inside) := match rest with
        | '^' :: rest => (true, rest)
        | rest => (false, rest)
      (bracketMembers? (inside.length + 1) true inside).bind fun r => go (.oneOf negated r.1) r.2
    | '.' => go .any rest
    | '*' => go (.times 0 none) rest
    | '^' => go .caret rest
    | '$' => go .dollar rest
    | c => if extended then special c rest else go (.plain c) rest

namespace Regular

/-- A regular expression, repeated. -/
def repeated (a : Regular) (least : Nat) (most : Option Nat) : Regular :=
  let front := List.replicate least a
  let back := match most with
    | none => star a
    | some m => (List.replicate (m - least) a).foldl (fun e a => either (both a e) empty) empty
  front.foldl (fun e a => both a e) back

/-- Whether an alternative ends here. -/
def isEnd : List Sign → Bool
  | [] => true
  | .bar :: _ => true
  | .closing :: _ => true
  | _ => false

/-- An expression with the repetitions behind it, and what follows. -/
def postfixed (a : Regular) : List Sign → Regular × List Sign
  | .times least most :: rest => postfixed (a.repeated least most) rest
  | rest => (a, rest)

mutual

/-- Alternatives, what follows, and the number of the next group. -/
def alternatives? (extended : Bool) : Nat → Nat → List Sign → Option (Regular × List Sign × Nat)
  | 0, _, _ => none
  | fuel + 1, n, signs => do
    let (a, rest, n) ← sequence? extended fuel true n signs
    match rest with
    | .bar :: rest =>
      let (b, rest, n) ← alternatives? extended fuel n rest
      return (either a b, rest, n)
    | rest => return (a, rest, n)

/-- Expressions one after the other, what follows, and the number of the next group. -/
def sequence? (extended : Bool) : Nat → Bool → Nat → List Sign → Option (Regular × List Sign × Nat)
  | 0, _, _, _ => none
  | fuel + 1, first, n, signs =>
    let more := fun (a : Regular) (n : Nat) (rest : List Sign) => do
      let (a, rest) := a.postfixed rest
      let (b, rest, n) ← sequence? extended fuel false n rest
      return (both a b, rest, n)
    match signs with
    | .plain c :: rest => more (char c) n rest
    | .any :: rest => more any n rest
    | .oneOf negated members :: rest => more (oneOf negated members) n rest
    | .again k :: rest => more (again k) n rest
    | .opening :: rest => do
      match ← alternatives? extended fuel (n + 1) rest with
      | (a, .closing :: rest, next) => more (group n a) next rest
      | _ => none
    | .caret :: rest =>
      if extended || first then do
        let (b, rest, n) ← sequence? extended fuel true n rest
        return (both start b, rest, n)
      else more (char '^') n rest
    | .dollar :: rest => if extended || isEnd rest then more stop n rest else more (char '$') n rest
    | .times _ _ :: rest => if first then more (char '*') n rest else none
    | _ => some (empty, signs, n)

end

/-- The regular expression of a text, in its basic or its extended form. -/
def parse? (extended : Bool) (text : String) : Option Regular := do
  let signs ← signs? extended (text.length + 1) text.toList
  match ← alternatives? extended (3 * signs.length + 3) 1 signs with
  | (e, [], _) => some e
  | _ => none

/-- The regular expression that a text matches if it is the same, or is the same but for case. -/
def ofText (text : String) : Regular := text.toList.foldr (fun c e => both (char c) e) empty

/-! ## Matching -/

/-- How many expressions an expression is made of. -/
def size : Regular → Nat
  | both a b => a.size + b.size + 1
  | either a b => a.size + b.size + 1
  | star a => a.size + 1
  | group _ a => a.size + 1
  | _ => 1

/-- Whether an expression has a group. -/
def hasGroup : Regular → Bool
  | both a b => a.hasGroup || b.hasGroup
  | either a b => a.hasGroup || b.hasGroup
  | star a => a.hasGroup
  | group _ _ => true
  | _ => false

/-- A place in a line. -/
structure Place where
  /-- How many characters come before it. -/
  position : Nat
  /-- The characters behind it. -/
  rest : List Char
  /-- The texts of groups, the last one first. -/
  groups : List (Nat × List Char) := []

namespace Place

/-- The place behind a character. -/
def next (p : Place) (rest : List Char) : Place := { p with position := p.position + 1, rest }

/-- The characters from a place up to a later one. -/
def upTo (p later : Place) : List Char := p.rest.take (later.position - p.position)

end Place

/-- Where matches from a place end, the preferred one first. The first argument bounds the depth;
`fold` takes small and capital letters for the same. -/
def ends (fold : Bool) : Nat → Regular → Place → List Place
  | 0, _, _ => []
  | fuel + 1, e, p =>
    let one := fun (test : Char → Bool) =>
      match p.rest with
      | c :: rest => if test c then [p.next rest] else []
      | [] => []
    match e with
    | empty => [p]
    | char c => one fun d => d = c || (fold && d.toLower = c.toLower)
    | any => one fun _ => true
    | oneOf negated members => one fun c =>
      (inSet c members || (fold && (inSet c.toLower members || inSet c.toUpper members))) != negated
    | start => if p.position = 0 then [p] else []
    | stop => if p.rest.isEmpty then [p] else []
    | both a b => (ends fold fuel a p).flatMap (ends fold fuel b)
    | either a b => ends fold fuel a p ++ ends fold fuel b p
    | star a =>
      let once := (ends fold fuel a p).filter fun q => q.position > p.position
      once.flatMap (ends fold fuel (star a)) ++ [p]
    | group n a => (ends fold fuel a p).map fun q => { q with groups := (n, p.upTo q) :: q.groups }
    | again n =>
      let text := (p.groups.lookup n).getD []
      if text.isPrefixOf p.rest then
        [{ p with position := p.position + text.length, rest := p.rest.drop text.length }]
      else []

/-- The longest of the matches from a place. -/
def longest? (e : Regular) (fold : Bool) (p : Place) : Option Place :=
  (e.ends fold ((e.size + 1) * (p.rest.length + 2)) p).foldl (fun best q =>
    match best with
    | some b => if q.position > b.position then some q else best
    | none => some q) none

/-- The first match at a place or behind it: where it starts and where it ends. -/
def find? (e : Regular) (fold : Bool) (p : Place) : Option (Place × Place) :=
  (List.range (p.rest.length + 1)).findSome? fun i =>
    let first : Place := ⟨p.position + i, p.rest.drop i, []⟩
    (e.longest? fold first).map fun q => (first, q)

/-- All matches in a line that do not overlap. -/
def findAll (e : Regular) (fold : Bool) : Nat → Place → List (Place × Place)
  | 0, _ => []
  | fuel + 1, p =>
    match e.find? fold p with
    | none => []
    | some (a, b) =>
      let next := if b.position > a.position then b else b.next (b.rest.drop 1)
      (a, b) :: (if b.rest.isEmpty then [] else findAll e fold fuel { next with groups := [] })

end Regular

/-- The start of a line. -/
def Regular.Place.ofLine (cs : List Char) : Regular.Place := { position := 0, rest := cs }

end Conformance.Shell
