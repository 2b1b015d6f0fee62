import Conformance.Decimal
import Mathlib.Data.Nat.Digits.Defs

/-!
# Decimal numerals

The digits that a number is written with, and what they denote.

* `isDigit_of_mem`, `eq_nil_of_leading_zero` : a numeral has digits only, and no leading zero;
* `Decimal.ofDigits_toDigits` : the digits of a number denote it;
* `toList_toString_natCast`, `toList_toString_of_neg` : an integer as text.
-/

namespace Conformance

namespace Numeral

theorem isDigit_of_mem {n : Nat} {c : Char} (h : c ∈ Nat.toDigits 10 n) : c.isDigit = true :=
  Nat.isDigit_of_mem_toDigits (by decide) (by decide) h

theorem digitChar_eq_zero : ∀ d < 10, Nat.digitChar d = '0' → d = 0 := by decide

/-- Only the numeral of zero starts with a zero. -/
theorem eq_nil_of_leading_zero {n : Nat} {rest : List Char} (h : Nat.toDigits 10 n = '0' :: rest) :
    rest = [] := by
  induction n using Nat.strong_induction_on generalizing rest with
  | _ n ih =>
    rw [Nat.toDigits_eq_if (by decide)] at h
    split at h
    · exact (List.cons.inj h).2.symm
    · rename_i hlarge
      cases hfront : Nat.toDigits 10 (n / 10) with
      | nil => exact absurd hfront Nat.toDigits_ne_nil
      | cons c front =>
        rw [hfront, List.cons_append] at h
        obtain ⟨rfl, -⟩ := List.cons.inj h
        -- what stands in front of the last digit would be the numeral of zero
        have hnil := ih (n / 10) (by omega) hfront
        rw [hnil, Nat.toDigits_eq_if (by decide)] at hfront
        split at hfront
        · have hzero := digitChar_eq_zero _ (by assumption) (List.cons.inj hfront).1
          omega
        · have hlength := congrArg List.length hfront
          rw [List.length_append, List.length_singleton, List.length_singleton] at hlength
          have hpos := List.length_pos_iff.mpr (Nat.toDigits_ne_nil (n := n / 10 / 10) (b := 10))
          omega

end Numeral

theorem Decimal.ofDigits_toDigits (n : Nat) : Decimal.ofDigits (Nat.toDigits 10 n) = n := by
  have hcomm : Decimal.ofDigits (Nat.toDigits 10 n) = Nat.ofDigitChars 10 (Nat.toDigits 10 n) 0 := by
    unfold Decimal.ofDigits Nat.ofDigitChars
    congr 1
    funext m c
    rw [Nat.mul_comm]
  rw [hcomm, Nat.ofDigitChars_toDigits (by decide) (by decide)]

theorem toList_toString_natCast (n : Nat) : (toString (n : Int)).toList = Nat.toDigits 10 n := by
  rw [Int.toString_eq_repr, Int.repr_eq_if, if_pos (Int.natCast_nonneg n), Int.toNat_natCast,
    Nat.toList_repr]

theorem toList_toString_of_neg {i : Int} (h : i < 0) :
    (toString i).toList = '-' :: Nat.toDigits 10 i.natAbs := by
  have habs : (-i).toNat = i.natAbs := by omega
  rw [Int.toString_eq_repr, Int.repr_eq_if, if_neg (by omega), habs, String.toList_append,
    Nat.toList_repr]
  rfl

end Conformance
