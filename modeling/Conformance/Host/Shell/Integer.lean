/-!
# Integers of the shell

Integers have sixty-four bits and a sign.

* `wrap` : a number in these bits;
* `integer?` : the number that a decimal text denotes;
* `leadingInteger?` : the number that a text starts with, whose start can name a base.
-/

namespace Conformance.Shell

/-- A number in sixty-four bits. -/
def wrap (n : Int) : Int := (BitVec.ofInt 64 n).toInt

/-- The number closest to a given one that has sixty-four bits. -/
def saturate (n : Int) : Int := max Int64.minValue.toInt (min Int64.maxValue.toInt n)

/-- The value of a digit. -/
def digitValue (c : Char) : Nat :=
  if c.isDigit then c.toNat - '0'.toNat else c.toLower.toNat - 'a'.toNat + 10

/-- The number that digits of a base denote. -/
def ofDigits (base : Nat) (digits : List Char) : Nat :=
  digits.foldl (fun n c => n * base + digitValue c) 0

/-- The number that a decimal text denotes. -/
def integer? (s : String) : Option Int :=
  let digits := fun (cs : List Char) =>
    if cs.isEmpty || !cs.all Char.isDigit then none else some (ofDigits 10 cs)
  match s.toList with
  | '-' :: cs => (digits cs).map fun n => -(n : Int)
  | '+' :: cs => (digits cs).map Int.ofNat
  | cs => (digits cs).map Int.ofNat

/-- Whether a character is a hexadecimal digit. -/
def isHexDigit (c : Char) : Bool := c.isDigit || "abcdefABCDEF".toList.contains c

/-- The number that a text starts with, and what follows: hexadecimal behind `0x`, octal behind any
other zero, or else decimal. -/
def leadingNatural? (cs : List Char) : Option (Nat × List Char) :=
  let read := fun (base : Nat) (isDigit : Char → Bool) (cs : List Char) =>
    let digits := cs.takeWhile isDigit
    (ofDigits base digits, cs.drop digits.length)
  match cs with
  | '0' :: x :: c :: rest =>
    if (x = 'x' || x = 'X') && isHexDigit c then some (read 16 isHexDigit (c :: rest))
    else some (read 8 (fun d => '0' ≤ d && d ≤ '7') cs)
  | '0' :: _ => some (read 8 (fun d => '0' ≤ d && d ≤ '7') cs)
  | c :: _ => if c.isDigit then some (read 10 Char.isDigit cs) else none
  | [] => none

/-- The number that a text starts with behind blanks and a sign, and what follows. -/
def leadingInteger? (cs : List Char) : Option (Int × List Char) :=
  match cs.dropWhile Char.isWhitespace with
  | '-' :: cs => (leadingNatural? cs).map fun r => (-(r.1 : Int), r.2)
  | '+' :: cs => (leadingNatural? cs).map fun r => ((r.1 : Int), r.2)
  | cs => (leadingNatural? cs).map fun r => ((r.1 : Int), r.2)

/-- A text without blanks around it. -/
def withoutBlanks (s : String) : String := s.trimAscii.toString

end Conformance.Shell
