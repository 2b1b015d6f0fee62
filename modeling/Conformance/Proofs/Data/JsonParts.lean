import Conformance.Data.JsonReader
import Conformance.Data.JsonText
import Conformance.Proofs.Text.Numeral

/-!
# Strings and numbers in JSON

* `readText_escape` : a string is read back from its escaped characters;
* `Stops`, `readNumber_int` : an integer of sixty-four bits is read back, unless what follows could
  belong to it.
-/

namespace Conformance.Json

variable {c : Char} {cs rest : List Char} {i : Int} {n : Nat}

/-! ## Strings -/

theorem hexFour?_control :
    ∀ n < 0x20, hexFour? '0' '0' (hexDigit (n / 16)) (hexDigit n) = some n := by decide

theorem readText_short {e : Char} (hu : e ≠ 'u') (h : shortEscape? e = some c) :
    readText ('\\' :: e :: cs) = (readText cs).map fun t => (c :: t.1, t.2) := by
  rw [readText, h]
  exact fun _ _ _ _ _ heq => absurd heq hu

theorem readText_control (h : c.toNat < 0x20) :
    readText ('\\' :: 'u' :: '0' :: '0' :: hexDigit (c.toNat / 16) :: hexDigit c.toNat :: cs) =
      (readText cs).map fun t => (c :: t.1, t.2) := by
  have hnoHigh : ¬ (0xD800 ≤ c.toNat ∧ c.toNat ≤ 0xDBFF) := by omega
  have hnoLow : ¬ (0xDC00 ≤ c.toNat ∧ c.toNat ≤ 0xDFFF) := by omega
  simp only [readText, hexFour?_control c.toNat h]
  rw [if_neg hnoHigh, if_neg hnoLow, Char.ofNat_toNat]

theorem readText_escapeChar (c : Char) (cs : List Char) :
    readText (escapeChar c ++ cs) = (readText cs).map fun t => (c :: t.1, t.2) := by
  unfold escapeChar
  -- the seven characters with an escape of two characters come first
  iterate 7
    split
    · exact readText_short (by decide) (by subst c; rfl)
  split
  · rename_i hcontrol
    exact readText_control hcontrol
  · rename_i hquote hbackslash _ _ _ _ _ hcontrol
    show readText (c :: cs) = _
    rw [readText, if_neg (by simp [hcontrol, hbackslash])]
    · exact hquote
    · exact fun _ _ _ _ _ heq => absurd heq hbackslash
    · exact fun _ _ heq => absurd heq hbackslash

/-- A string is read back. -/
theorem readText_escape (s rest : List Char) :
    readText (s.flatMap escapeChar ++ '"' :: rest) = some (s, rest) := by
  induction s with
  | nil => rfl
  | cons c s ih =>
    rw [List.flatMap_cons, List.append_assoc, readText_escapeChar, ih]
    rfl

/-! ## Numbers -/

/-- What follows is no part of a number. -/
def Stops (rest : List Char) : Prop :=
  ∀ c ∈ rest.head?, c.isDigit = false ∧ c ≠ '.' ∧ c ≠ 'e' ∧ c ≠ 'E'

theorem takeWhile_digits (n : Nat) (h : Stops rest) :
    (Nat.toDigits 10 n ++ rest).takeWhile Char.isDigit = Nat.toDigits 10 n := by
  rw [List.takeWhile_append_of_pos fun c => Numeral.isDigit_of_mem]
  cases rest with
  | nil => exact List.append_nil _
  | cons c rest => rw [List.takeWhile_cons_of_neg (by simp [(h c rfl).1]), List.append_nil]

theorem dropWhile_digits (n : Nat) (h : Stops rest) :
    (Nat.toDigits 10 n ++ rest).dropWhile Char.isDigit = rest := by
  rw [List.dropWhile_append_of_pos fun c => Numeral.isDigit_of_mem]
  cases rest with
  | nil => rfl
  | cons c rest => rw [List.dropWhile_cons_of_neg (by simp [(h c rfl).1])]

theorem readFraction_of_stops (h : Stops rest) : readFraction rest = some (none, rest) := by
  unfold readFraction
  split
  · exact absurd rfl (h '.' rfl).2.1
  · rfl

theorem readExponent_of_stops (h : Stops rest) : readExponent rest = some (none, rest) := by
  cases rest with
  | nil => rfl
  | cons c rest =>
    obtain ⟨-, -, he, hE⟩ := h c rfl
    exact if_neg (by simp [he, hE])

/-- A numeral has no further digits behind a leading zero. -/
theorem not_padded (n : Nat) : ((Nat.toDigits 10 n).isEmpty ||
    ((Nat.toDigits 10 n).head? == some '0' && decide ((Nat.toDigits 10 n).length > 1))) = false := by
  cases hdigits : Nat.toDigits 10 n with
  | nil => exact absurd hdigits Nat.toDigits_ne_nil
  | cons c ds =>
    by_cases hc : c = '0'
    · subst hc
      rw [Numeral.eq_nil_of_leading_zero hdigits]
      rfl
    · simp [hc]

/-- The integers that are kept exactly. -/
def Exact (i : Int) : Prop := -9223372036854775808 ≤ i ∧ i ≤ 18446744073709551615

theorem digits_ne_minus (n : Nat) (rest cs : List Char) : Nat.toDigits 10 n ++ rest ≠ '-' :: cs := by
  intro heq
  cases hdigits : Nat.toDigits 10 n with
  | nil => exact absurd hdigits Nat.toDigits_ne_nil
  | cons c ds =>
    rw [hdigits] at heq
    have hdigit := Numeral.isDigit_of_mem (hdigits ▸ List.mem_cons_self)
    rw [(List.cons.inj heq).1] at hdigit
    cases hdigit

/-- A number with a sign or without is told by its digits. -/
theorem readNumber_digits {negative : Bool} (n : Nat) (h : Stops rest)
    (hsign : negative = true ∧ cs = '-' :: (Nat.toDigits 10 n ++ rest) ∨
      negative = false ∧ cs = Nat.toDigits 10 n ++ rest) :
    ∃ written, readNumber cs =
      (numberOf? negative (Nat.toDigits 10 n) none none written).map fun d => (d, rest) := by
  refine ⟨String.ofList (cs.take (cs.length - rest.length)), ?_⟩
  unfold readNumber
  split
  rename_i negative' digits heq
  have hparts : negative' = negative ∧ digits = Nat.toDigits 10 n ++ rest := by
    rcases hsign with ⟨rfl, rfl⟩ | ⟨rfl, rfl⟩
    · obtain ⟨hnegative, hdigits⟩ := Prod.mk.inj heq
      exact ⟨hnegative.symm, hdigits.symm⟩
    · split at heq
      · rename_i hminus
        exact absurd hminus (digits_ne_minus n rest _)
      · obtain ⟨hnegative, hdigits⟩ := Prod.mk.inj heq
        exact ⟨hnegative.symm, hdigits.symm⟩
  obtain ⟨rfl, rfl⟩ := hparts
  simp only [takeWhile_digits n h, dropWhile_digits n h, not_padded, readFraction_of_stops h,
    Bool.false_eq_true, if_false, Option.bind_eq_bind, Option.bind_some, readExponent_of_stops h]
  cases numberOf? negative' (Nat.toDigits 10 n) none none _ <;> rfl

theorem readNumber_int (hi : Exact i) (h : Stops rest) :
    readNumber ((toString i).toList ++ rest) = some (.int i, rest) := by
  obtain ⟨hlow, hhigh⟩ := hi
  rcases Int.lt_or_le i 0 with hneg | hpos
  · rw [toList_toString_of_neg hneg]
    obtain ⟨written, hread⟩ := readNumber_digits i.natAbs h (.inl ⟨rfl, rfl⟩)
    have hbound : i.natAbs ≠ 0 ∧ i.natAbs ≤ 9223372036854775808 := by omega
    have hnumber : numberOf? true (Nat.toDigits 10 i.natAbs) none none written = some (.int i) := by
      simp only [numberOf?, Decimal.ofDigits_toDigits, if_true]
      rw [if_pos hbound]
      congr 2
      omega
    rw [List.cons_append, hread, hnumber]
    rfl
  · obtain ⟨n, rfl⟩ := Int.eq_ofNat_of_zero_le hpos
    rw [toList_toString_natCast]
    obtain ⟨written, hread⟩ := readNumber_digits n h (.inr ⟨rfl, rfl⟩)
    have hbound : n ≤ 18446744073709551615 := by omega
    have hnumber : numberOf? false (Nat.toDigits 10 n) none none written = some (.int n) := by
      simp only [numberOf?, Decimal.ofDigits_toDigits, Bool.false_eq_true, if_false]
      rw [if_pos hbound]
    rw [hread, hnumber]
    rfl

end Conformance.Json
