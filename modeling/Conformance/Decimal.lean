/-!
# The range of binary floating-point numbers

* `exceedsDouble` : whether a decimal number is too large for the double-precision format, so
  that rounding it to the nearest double gives no finite number.
-/

namespace Conformance.Decimal

/-- The least integer that rounds to infinity: halfway between the greatest finite double and
the next power of two. -/
def doubleLimit : Nat := Nat.pow 2 1024 - Nat.pow 2 970

/-- The number of decimal digits of a positive number, and zero for zero. -/
def width (n : Nat) : Nat := if n = 0 then 0 else (Nat.toDigits 10 n).length

/-- Whether `mantissa * 10 ^ exponent` is beyond the finite doubles. The two outer tests keep the
powers small; the comparison decides the rest. -/
def exceedsDouble (mantissa : Nat) (exponent : Int) : Bool :=
  let size := (width mantissa : Int) + exponent
  if mantissa = 0 ∨ size < 300 then false
  else if size > 400 then true
  else if exponent ≥ 0 then decide (doubleLimit ≤ mantissa * Nat.pow 10 exponent.toNat)
  else decide (doubleLimit * Nat.pow 10 (-exponent).toNat ≤ mantissa)

/-- The number that a list of decimal digits denotes. -/
def ofDigits (ds : List Char) : Nat := ds.foldl (fun n c => n * 10 + (c.toNat - '0'.toNat)) 0

end Conformance.Decimal
