import Conformance.Host.Shell.Integer

/-!
# Formatted output of the shell

* `unescape` : a text with its backslash escapes resolved;
* `Layout` : how an argument is laid out;
* `Formatted` : what a format has made of arguments so far;
* `formatAll` : a format, applied to arguments until none is left.
-/

namespace Conformance.Shell

/-- Whether a character is an octal digit. -/
def isOctal (c : Char) : Bool := '0' ≤ c && c ≤ '7'

/-- The octet of at most three octal digits, and what follows. -/
def octalEscape (cs : List Char) : Char × List Char :=
  let digits := (cs.take 3).takeWhile isOctal
  (Char.ofNat (Nat.ofDigitChars 8 digits 0 % 256), cs.drop digits.length)

/-- The character of an escape that is one letter. -/
def letterEscape? (c : Char) : Option Char :=
  match c with
  | '\\' => some '\\'
  | 'a' => some '\x07'
  | 'b' => some '\x08'
  | 'e' => some '\x1b'
  | 'f' => some '\x0c'
  | 'n' => some '\n'
  | 'r' => some '\r'
  | 't' => some '\t'
  | 'v' => some '\x0b'
  | _ => none

/-- A text with its escapes resolved, and whether it goes on after the text. Octal escapes start
with a zero. -/
def unescape : Nat → List Char → List Char × Bool
  | 0, cs => (cs, true)
  | _, [] => ([], true)
  | _ + 1, '\\' :: 'c' :: _ => ([], false)
  | fuel + 1, '\\' :: '0' :: rest =>
    let (c, rest) := octalEscape rest
    let (cs, more) := unescape fuel rest
    (c :: cs, more)
  | fuel + 1, '\\' :: e :: rest =>
    match letterEscape? e with
    | some c =>
      let (cs, more) := unescape fuel rest
      (c :: cs, more)
    | none =>
      let (cs, more) := unescape fuel (e :: rest)
      ('\\' :: cs, more)
  | fuel + 1, c :: rest =>
    let (cs, more) := unescape fuel rest
    (c :: cs, more)

/-! ## Layouts -/

/-- How an argument is laid out. -/
structure Layout where
  /-- Signs that change the layout. -/
  flags : List Char := []
  width : Nat := 0
  /-- The greatest length of a text, or the least number of digits. -/
  precision : Option Nat := none

namespace Layout

/-- A text, filled up to its least width with blanks. -/
def fill (l : Layout) (s : String) : String :=
  let gap := String.ofList (List.replicate (l.width - s.length) ' ')
  if l.flags.contains '-' then s ++ gap else gap ++ s

/-- A text, cut to its greatest length and filled up. -/
def text (l : Layout) (s : String) : String :=
  match l.precision with
  | some n => l.fill (String.ofList (s.toList.take n))
  | none => l.fill s

/-- A number of digits with what stands in front of them. -/
def signed (l : Layout) (front digits : String) : String :=
  let zeros := fun (n : Nat) => String.ofList (List.replicate n '0')
  match l.precision with
  | some n => l.fill (front ++ zeros (n - digits.length) ++ digits)
  | none =>
    if l.flags.contains '0' && !l.flags.contains '-' then
      front ++ zeros (l.width - front.length - digits.length) ++ digits
    else l.fill (front ++ digits)

/-- What stands in front of a number. -/
def sign (l : Layout) (negative : Bool) : String :=
  if negative then "-"
  else if l.flags.contains '+' then "+"
  else if l.flags.contains ' ' then " "
  else ""

/-- A decimal number. -/
def integer (l : Layout) (n : Int) : String := l.signed (l.sign (n < 0)) (toString n.natAbs)

/-- A number without a sign in a base. -/
def natural (l : Layout) (base : Nat) (front : String) (n : Nat) : String :=
  let digits := String.ofList (Nat.toDigits base n)
  l.signed (if l.flags.contains '#' && n ≠ 0 then front else "") digits

/-- A decimal fraction, rounded to its precision. -/
def fraction (l : Layout) (s : String) : String :=
  let places := l.precision.getD 6
  let (negative, cs) := match s.toList with
    | '-' :: cs => (true, cs)
    | cs => (false, cs)
  let whole := cs.takeWhile Char.isDigit
  let digits := ((cs.drop (whole.length + 1)).takeWhile Char.isDigit)
  let kept := ofDigits 10 (whole ++ (digits ++ List.replicate places '0').take places)
  let up := (digits.drop places).head?.any fun c => '5' ≤ c
  let scaled := toString (if up then kept + 1 else kept)
  let scaled := String.ofList (List.replicate (places + 1 - scaled.length) '0') ++ scaled
  let split := scaled.length - places
  let point := if places = 0 then "" else "." ++ (scaled.drop split).toString
  { l with precision := none }.signed (l.sign negative) ((scaled.take split).toString ++ point)

end Layout

/-! ## Formats -/

/-- What a format has made of arguments so far. -/
structure Formatted where
  text : String := ""
  /-- The arguments that are left. -/
  arguments : List String
  /-- What is wrong with arguments, or with the format. -/
  faults : List String := []
  status : Nat := 0
  /-- Whether it goes on. -/
  goes : Bool := true

namespace Formatted

/-- Adds a text. -/
def put (f : Formatted) (s : String) : Formatted := { f with text := f.text ++ s }

/-- Takes an argument, which is laid out by `lay`. -/
def take (f : Formatted) (lay : String → String) : Formatted :=
  { f.put (lay (f.arguments.headD "")) with arguments := f.arguments.tail }

/-- Ends with an error in the format. -/
def refuse (f : Formatted) (why : String) : Formatted :=
  { f with faults := f.faults ++ [why], status := 2, goes := false }

/-- The number that an argument denotes, and what is wrong with it. -/
def numberOf (s : String) : Int × Option String :=
  match s.toList with
  | [] => (0, none)
  | '\'' :: c :: _ => (c.toNat, none)
  | '"' :: c :: _ => (c.toNat, none)
  | cs =>
    match leadingInteger? cs with
    | none => (0, some s!"{s}: expected numeric value")
    | some (n, rest) =>
      if !rest.isEmpty then (saturate n, some s!"{s}: not completely converted")
      else if saturate n ≠ n then (saturate n, some s!"{s}: Numerical result out of range")
      else (n, none)

/-- Takes an argument that is a number, which is laid out by `lay`. -/
def takeNumber (f : Formatted) (lay : Int → String) : Formatted :=
  let (n, fault) := numberOf (f.arguments.headD "")
  { f.put (lay n) with
    arguments := f.arguments.tail
    faults := f.faults ++ fault.toList
    status := if fault.isSome then 1 else f.status }

end Formatted

/-- A width or a precision at the start of a text, and what follows; a star takes an argument. -/
def extent (cs : List Char) (f : Formatted) : Nat × List Char × Formatted :=
  match cs with
  | '*' :: rest =>
    let n := (Formatted.numberOf (f.arguments.headD "")).1.toNat
    (n, rest, { f with arguments := f.arguments.tail })
  | cs =>
    let digits := cs.takeWhile Char.isDigit
    (ofDigits 10 digits, cs.drop digits.length, f)

/-- The layout at the start of a conversion, and what follows. -/
def layout (cs : List Char) (f : Formatted) : Layout × List Char × Formatted :=
  let flags := cs.takeWhile fun c => "#-+ 0".toList.contains c
  let (width, rest, f) := extent (cs.drop flags.length) f
  match rest with
  | '.' :: rest =>
    let (precision, rest, f) := extent rest f
    ({ flags, width, precision := some precision }, rest, f)
  | rest => ({ flags, width }, rest, f)

/-- One conversion, by its letter. -/
def convert (l : Layout) (letter : Char) (f : Formatted) : Option Formatted :=
  let bits := fun (n : Int) => (BitVec.ofInt 64 n).toNat
  match letter with
  | 's' => some (f.take l.text)
  | 'c' => some (f.take fun s => l.fill (String.ofList (s.toList.take 1)))
  | 'b' =>
    let arg := f.arguments.headD ""
    let (cs, more) := unescape (arg.length + 1) arg.toList
    let f := f.take fun _ => l.text (String.ofList cs)
    some (if more then f else { f with arguments := [], goes := false })
  | 'd' => some (f.takeNumber l.integer)
  | 'i' => some (f.takeNumber l.integer)
  | 'u' => some (f.takeNumber fun n => l.natural 10 "" (bits n))
  | 'o' => some (f.takeNumber fun n => l.natural 8 "0" (bits n))
  | 'x' => some (f.takeNumber fun n => l.natural 16 "0x" (bits n))
  | 'X' => some (f.takeNumber fun n => (l.natural 16 "0x" (bits n)).map Char.toUpper)
  | 'f' => some (f.take l.fraction)
  | _ => none

/-- One pass over a format. The first argument bounds the number of steps. -/
def formatOnce : Nat → List Char → Formatted → Formatted
  | 0, _, f => { f with goes := false }
  | _, [], f => f
  | fuel + 1, '\\' :: e :: rest, f =>
    if isOctal e then
      let (c, rest) := octalEscape (e :: rest)
      formatOnce fuel rest (f.put (String.singleton c))
    else
      match letterEscape? e with
      | some c => formatOnce fuel rest (f.put (String.singleton c))
      | none => formatOnce fuel rest (f.put (String.ofList ['\\', e]))
  | fuel + 1, '%' :: '%' :: rest, f => formatOnce fuel rest (f.put "%")
  | fuel + 1, '%' :: rest, f =>
    let (l, after, f) := layout rest f
    match after with
    | [] => f.refuse "missing format character"
    | letter :: after =>
      match convert l letter f with
      | some f => if f.goes then formatOnce fuel after f else f
      | none =>
        let written := rest.take (rest.length - after.length)
        f.refuse s!"%{String.ofList written}: invalid directive"
  | fuel + 1, c :: rest, f => formatOnce fuel rest (f.put (String.singleton c))

/-- A format, applied at least once, and again as long as arguments are left. -/
def formatAll (format : List Char) : Nat → Formatted → Formatted
  | 0, f => f
  | fuel + 1, f =>
    let after := formatOnce (format.length + 1) format f
    if !after.goes || after.arguments.isEmpty ||
        after.arguments.length = f.arguments.length then
      after
    else formatAll format fuel after

end Conformance.Shell
